import SignIn.Http.App
import SignIn.Proofs.Octets
import SignIn.Proofs.Run

/-!
# Exchanges

How requests over HTTP are answered. `Route.Means` says, without the forms, which request to the
service a JSON value stands for on a route. A body that reads as a value without a meaning is
unprocessable and touches nothing; one with a meaning is answered with what the operation ends with,
and changes what the operation changes. The responses that are no success all have the same
envelope, except for one: a body that cannot be read at all is answered before any of this.
-/

namespace SignIn

open World

/-! ## Truth values -/

/-- A value stands for a truth value: it is one, or the number 0 or 1, or a word for one in any
case. -/
inductive Json.Stands : Json → Bool → Prop
  | bool (b : Bool) : Stands (.bool b) b
  | int (b : Bool) : Stands (.int (if b then 1 else 0)) b
  | real {x : Binary64} {b : Bool} (whole : x.toInt? = some (if b then 1 else 0)) :
    Stands (.real x) b
  | word {s : String} {b : Bool} (word : String.ofList (s.toList.map Char.toLower) ∈
      if b then trueWords else falseWords) : Stands (.str s) b

namespace Json

/-- An integer is a truth value only if it is one or zero. -/
lemma truthOfInt_eq_ok_iff {n : Int} {b : Bool} :
    truthOfInt n = .ok b ↔ n = if b then 1 else 0 := by
  rw [truthOfInt]
  by_cases zero : n = 0
  · rw [if_pos zero, zero]
    cases b with
    | true => exact ⟨nofun, nofun⟩
    | false => exact ⟨fun _ => rfl, fun _ => rfl⟩
  · rw [if_neg zero]
    by_cases one : n = 1
    · rw [if_pos one, one]
      cases b with
      | true => exact ⟨fun _ => rfl, fun _ => rfl⟩
      | false => exact ⟨nofun, nofun⟩
    · rw [if_neg one]
      refine ⟨nofun, fun same => ?_⟩
      cases b with
      | true => exact absurd same one
      | false => exact absurd same zero

/-- A text is a truth value only if it is one of the words for it in some case. -/
lemma truthOfWord_eq_ok_iff {s : String} {b : Bool} :
    truthOfWord s = .ok b ↔ String.ofList (s.toList.map Char.toLower) ∈
      if b then trueWords else falseWords := by
  have apart : ∀ word ∈ falseWords, word ∉ trueWords := by decide
  rw [truthOfWord]
  by_cases yes : String.ofList (s.toList.map Char.toLower) ∈ trueWords
  · simp only [if_pos yes]
    cases b with
    | true => exact ⟨fun _ => yes, fun _ => rfl⟩
    | false => exact ⟨nofun, fun no => absurd yes (apart _ no)⟩
  · simp only [if_neg yes]
    by_cases no : String.ofList (s.toList.map Char.toLower) ∈ falseWords
    · simp only [if_pos no]
      cases b with
      | true => exact ⟨nofun, fun h => absurd h yes⟩
      | false => exact ⟨fun _ => no, fun _ => rfl⟩
    · simp only [if_neg no]
      refine ⟨nofun, fun h => ?_⟩
      cases b with
      | true => exact absurd h yes
      | false => exact absurd h no

/-- What is read as a truth value is what stands for one. -/
lemma truth_eq_ok_iff {v : Json} {b : Bool} : v.truth = .ok b ↔ v.Stands b := by
  constructor
  · intro told
    cases v with
    | bool c =>
      cases told
      exact .bool b
    | int n =>
      rw [truth] at told
      split at told
      · cases told
      · rw [truthOfInt_eq_ok_iff.1 told]
        exact .int b
    | real x =>
      rw [truth] at told
      split at told
      · next n whole =>
        rw [truthOfInt_eq_ok_iff.1 told] at whole
        exact .real whole
      · cases told
    | str s => exact .word (truthOfWord_eq_ok_iff.1 told)
    | null | torn | arr | obj => cases told
  · intro stands
    cases stands with
    | bool => rfl
    | int =>
      cases b with
      | true => rfl
      | false => rfl
    | real whole =>
      rw [truth, whole]
      exact truthOfInt_eq_ok_iff.2 rfl
    | word word => exact truthOfWord_eq_ok_iff.2 word

end Json

namespace Http

/-! ## Forms -/

/-- A value is what an object has under the first of some names that it has at all. -/
def Sent (names : List String) (ms : List (String × Json)) (v : Json) : Prop :=
  names.findSome? (fun n => Keyed.find? n ms) = some v

/-- A value stands for a request to the service on a route: it is an object that has every field of
the route, each of its type. A password is taken as it was sent, any other text for its
characters. -/
inductive Route.Means : Route → Json → SignIn.Request → Prop
  | signUp {ms : List (String × Json)} {e p : SentText} {x : Json} {b : Bool}
    (email : Sent ["email"] ms (.sent e)) (password : Sent ["password"] ms (.sent p))
    (secondFactor : Sent ["requires2FA", "requires_2fa"] ms x) (truth : x.Stands b) :
    Means .signUp (.obj ms) (.signUp (some e.characters) (some p) b)
  | signIn {ms : List (String × Json)} {e p : SentText}
    (email : Sent ["email"] ms (.sent e)) (password : Sent ["password"] ms (.sent p)) :
    Means .signIn (.obj ms) (.signIn (some e.characters) (some p))
  | verify {ms : List (String × Json)} {e id c : SentText}
    (email : Sent ["email"] ms (.sent e))
    (attempt : Sent ["loginAttemptId", "login_attempt_id"] ms (.sent id))
    (code : Sent ["2FACode", "two_fa_code"] ms (.sent c)) :
    Means .verify (.obj ms)
      (.verify (some e.characters) (some id.characters) (some c.characters))
  | checkToken {ms : List (String × Json)} {t : SentText} (token : Sent ["token"] ms (.sent t)) :
    Means .checkToken (.obj ms) (.checkToken t.characters)

section Forms

variable {r : FieldRule} {rs : List FieldRule} {ms : List (String × Json)} {u : FieldValue}

/-- What was sent for a field is what its first name that is there has. -/
lemma FieldRule.sent?_map (r : FieldRule) (ms : List (String × Json)) :
    (r.sent? ms).map (·.2) = r.sentAs.findSome? fun n => Keyed.find? n ms := by
  rw [sent?, List.map_findSome?]
  congr 1
  funext n
  simp only [Function.comp_apply, Option.map_map]
  exact Option.map_id'

/-- A field is read if what was sent for it is accepted. -/
lemma FieldRule.read_ok_iff (required : r.fallback = none) :
    r.read ms = .ok u ↔ ∃ place v, Sent r.sentAs ms v ∧ r.sent? ms = some (place, v) ∧
      r.accept place v = .ok u := by
  have under := r.sent?_map ms
  rw [FieldRule.read]
  cases sent : r.sent? ms with
  | none =>
    rw [required]
    exact ⟨nofun, nofun⟩
  | some pair =>
    obtain ⟨place, v⟩ := pair
    rw [sent] at under
    constructor
    · intro told
      exact ⟨place, v, under.symm, rfl, told⟩
    · rintro ⟨_, _, _, ⟨⟩, told⟩
      exact told

/-- A value that was sent for a field is found with the name it was sent under. -/
lemma FieldRule.exists_sent? {v : Json} (h : Sent r.sentAs ms v) :
    ∃ place, r.sent? ms = some (place, v) := by
  rw [Sent, ← r.sent?_map ms, Option.map_eq_some_iff] at h
  obtain ⟨⟨place, _⟩, sent, rfl⟩ := h
  exact ⟨place, sent⟩

/-- A text is read exactly if a text was sent for the field. -/
lemma FieldRule.read_text_iff (required : r.fallback = none) (kind : r.kind = .text) :
    r.read ms = .ok u ↔ ∃ s, Sent r.sentAs ms (.sent s) ∧ u = .text s := by
  rw [read_ok_iff required]
  constructor
  · rintro ⟨place, v, under, _, told⟩
    unfold accept at told
    rw [kind] at told
    cases v with
    | str s =>
      cases told
      exact ⟨.whole s, under, rfl⟩
    | torn t =>
      cases told
      exact ⟨.torn t, under, rfl⟩
    | null | bool | int | real | arr | obj => cases told
  · rintro ⟨s, under, rfl⟩
    obtain ⟨place, sent⟩ := exists_sent? under
    refine ⟨place, .sent s, under, sent, ?_⟩
    unfold accept
    rw [kind]
    cases s with
    | whole s => rfl
    | torn t => rfl

/-- A truth value is read exactly if what was sent stands for it. -/
lemma FieldRule.read_truth_iff (required : r.fallback = none) (kind : r.kind = .truth) :
    r.read ms = .ok u ↔ ∃ x b, Sent r.sentAs ms x ∧ x.Stands b ∧ u = .truth b := by
  rw [read_ok_iff required]
  constructor
  · rintro ⟨place, x, under, _, told⟩
    unfold accept at told
    rw [kind] at told
    cases truth : x.truth with
    | ok b =>
      simp only [truth, Except.ok.injEq] at told
      exact ⟨x, b, under, Json.truth_eq_ok_iff.1 truth, told.symm⟩
    | error f =>
      cases f with
      | kind | unreadable => simp only [truth, reduceCtorEq] at told
  · rintro ⟨x, b, under, stands, rfl⟩
    obtain ⟨place, sent⟩ := exists_sent? under
    refine ⟨place, x, under, sent, ?_⟩
    unfold accept
    rw [kind]
    simp only [Json.truth_eq_ok_iff.2 stands]

namespace Form

/-- Fields are read exactly if the first is and the rest are. -/
lemma readFields_cons_iff {f : Filled} :
    readFields (r :: rs) ms = .ok f ↔
      ∃ v rest, r.read ms = .ok v ∧ readFields rs ms = .ok rest ∧ f = (r, v) :: rest := by
  rw [readFields]
  cases r.read ms with
  | ok v =>
    cases readFields rs ms with
    | ok rest =>
      simp only [Except.ok.injEq]
      constructor
      · intro same
        exact ⟨v, rest, rfl, rfl, same.symm⟩
      · rintro ⟨_, _, rfl, rfl, same⟩
        exact same.symm
    | error => exact ⟨nofun, nofun⟩
  | error =>
    cases readFields rs ms with
    | ok => exact ⟨nofun, nofun⟩
    | error => exact ⟨nofun, nofun⟩

/-- A form whose next field is a text is read if a text was sent for it. -/
lemma readFields_text_iff (required : r.fallback = none) (kind : r.kind = .text) {f : Filled} :
    readFields (r :: rs) ms = .ok f ↔
      ∃ s rest, Sent r.sentAs ms (.sent s) ∧ readFields rs ms = .ok rest ∧
        f = (r, .text s) :: rest := by
  rw [readFields_cons_iff]
  constructor
  · rintro ⟨v, rest, told, more, rfl⟩
    obtain ⟨s, sent, rfl⟩ := (FieldRule.read_text_iff required kind).1 told
    exact ⟨s, rest, sent, more, rfl⟩
  · rintro ⟨s, rest, sent, more, rfl⟩
    exact ⟨.text s, rest, (FieldRule.read_text_iff required kind).2 ⟨s, sent, rfl⟩, more, rfl⟩

/-- A truth value and the fields behind it are read exactly if a value that stands for it was sent
and the rest is read. -/
lemma readFields_truth_iff (required : r.fallback = none) (kind : r.kind = .truth) {f : Filled} :
    readFields (r :: rs) ms = .ok f ↔
      ∃ x b rest, Sent r.sentAs ms x ∧ x.Stands b ∧ readFields rs ms = .ok rest ∧
        f = (r, .truth b) :: rest := by
  rw [readFields_cons_iff]
  constructor
  · rintro ⟨v, rest, told, more, rfl⟩
    obtain ⟨x, b, sent, stands, rfl⟩ := (FieldRule.read_truth_iff required kind).1 told
    exact ⟨x, b, rest, sent, stands, more, rfl⟩
  · rintro ⟨x, b, rest, sent, stands, more, rfl⟩
    have told := (FieldRule.read_truth_iff required kind).2 ⟨x, b, sent, stands, rfl⟩
    exact ⟨.truth b, rest, told, more, rfl⟩

/-- Only objects are read with a form. -/
lemma read_ok_iff {form : Form} {v : Json} {f : Filled} :
    form.read v = .ok f ↔ ∃ ms, v = .obj ms ∧ readFields form.fields ms = .ok f := by
  cases v with
  | obj ms =>
    constructor
    · intro told
      exact ⟨ms, rfl, told⟩
    · rintro ⟨_, ⟨⟩, told⟩
      exact told
  | null | bool | int | real | str | torn | arr => exact ⟨nofun, nofun⟩

end Form

end Forms

namespace Route

/-- The form that a body is read with on a route. -/
def form? : Route → Option Form
  | signUp => some .signUp
  | signIn => some .signIn
  | verify => some .verify
  | checkToken => some .checkToken
  | signOut | health => none

/-- The request to the service that a filled form makes on a route. -/
def asked : Route → Filled → SignIn.Request
  | signUp, f =>
    .signUp (some (f.textOf "email")) (some (f.sentOf "password")) (f.truthOf "requires_2fa")
  | signIn, f => .signIn (some (f.textOf "email")) (some (f.sentOf "password"))
  | verify, f => .verify (some (f.textOf "email")) (some (f.textOf "login_attempt_id"))
      (some (f.textOf "two_fa_code"))
  | _, f => .checkToken (f.textOf "token")

/-- A value is read with a route's form exactly if it has a meaning there, which is what the filled
form asks. -/
lemma means_iff {route : Route} {form : Form} (there : route.form? = some form) {v : Json}
    {q : SignIn.Request} :
    route.Means v q ↔ ∃ f, form.read v = .ok f ∧ route.asked f = q := by
  constructor
  · intro means
    cases means with
    | signUp email password secondFactor truth =>
      cases there
      exact ⟨_, Form.read_ok_iff.2 ⟨_, rfl, (Form.readFields_text_iff rfl rfl).2 ⟨_, _, email,
        (Form.readFields_text_iff rfl rfl).2 ⟨_, _, password,
          (Form.readFields_truth_iff rfl rfl).2 ⟨_, _, _, secondFactor, truth, rfl, rfl⟩, rfl⟩,
        rfl⟩⟩, rfl⟩
    | signIn email password =>
      cases there
      exact ⟨_, Form.read_ok_iff.2 ⟨_, rfl, (Form.readFields_text_iff rfl rfl).2 ⟨_, _, email,
        (Form.readFields_text_iff rfl rfl).2 ⟨_, _, password, rfl, rfl⟩, rfl⟩⟩, rfl⟩
    | verify email attempt code =>
      cases there
      exact ⟨_, Form.read_ok_iff.2 ⟨_, rfl, (Form.readFields_text_iff rfl rfl).2 ⟨_, _, email,
        (Form.readFields_text_iff rfl rfl).2 ⟨_, _, attempt,
          (Form.readFields_text_iff rfl rfl).2 ⟨_, _, code, rfl, rfl⟩, rfl⟩, rfl⟩⟩, rfl⟩
    | checkToken token =>
      cases there
      exact ⟨_, Form.read_ok_iff.2 ⟨_, rfl,
        (Form.readFields_text_iff rfl rfl).2 ⟨_, _, token, rfl, rfl⟩⟩, rfl⟩
  · rintro ⟨f, told, rfl⟩
    obtain ⟨ms, rfl, told⟩ := Form.read_ok_iff.1 told
    cases route with
    | signUp =>
      cases there
      obtain ⟨e, _, email, more, rfl⟩ := (Form.readFields_text_iff rfl rfl).1 told
      obtain ⟨p, _, password, last, rfl⟩ := (Form.readFields_text_iff rfl rfl).1 more
      obtain ⟨x, b, _, second, truth, ⟨⟩, rfl⟩ := (Form.readFields_truth_iff rfl rfl).1 last
      exact .signUp email password second truth
    | signIn =>
      cases there
      obtain ⟨e, _, email, last, rfl⟩ := (Form.readFields_text_iff rfl rfl).1 told
      obtain ⟨p, _, password, ⟨⟩, rfl⟩ := (Form.readFields_text_iff rfl rfl).1 last
      exact .signIn email password
    | verify =>
      cases there
      obtain ⟨e, _, email, more, rfl⟩ := (Form.readFields_text_iff rfl rfl).1 told
      obtain ⟨id, _, attempt, last, rfl⟩ := (Form.readFields_text_iff rfl rfl).1 more
      obtain ⟨c, _, code, ⟨⟩, rfl⟩ := (Form.readFields_text_iff rfl rfl).1 last
      exact .verify email attempt code
    | checkToken =>
      cases there
      obtain ⟨t, _, token, ⟨⟩, rfl⟩ := (Form.readFields_text_iff rfl rfl).1 told
      exact .checkToken token
    | signOut | health => cases there

end Route

/-! ## Bodies -/

namespace Request

/-- A request carries a JSON value: it says that its body is JSON, and the body is a text that reads
as the value. -/
structure Carries (r : Request) (v : Json) : Prop where
  there : r.body ≠ []
  json : App.isJson ((r.header? "content-type").getD "") = true
  reads : ∃ cs, Text.ofDocument? r.body = some cs ∧
    Json.readWithin .asSent App.bodyNesting cs = .ok v

/-- A request says that its body is JSON, but the body is no text, or it has a numeral that is too
long or is nested too deeply for the reader. -/
structure IsUnreadable (r : Request) : Prop where
  there : r.body ≠ []
  json : App.isJson ((r.header? "content-type").getD "") = true
  fails : Text.ofDocument? r.body = none ∨ ∃ cs, Text.ofDocument? r.body = some cs ∧
    (Json.readWithin .asSent App.bodyNesting cs = .error .digits ∨
      Json.readWithin .asSent App.bodyNesting cs = .error .depth)

section Posting

variable {path : String} {v : Json}

end Posting

/-- A request asks the service for something on a route: it posts a value there that means it. -/
structure Asks (r : Request) (route : Route) (q : SignIn.Request) : Prop where
  post : r.method = "POST"
  there : Route.ofPath? r.path = some route
  value : ∃ v, r.Carries v ∧ route.Means v q

end Request

namespace App

variable {site : Site} {r : Request} {w w' : World} {route : Route}

/-- The body is read as the value that a request carries. -/
lemma bodyValue_of_carries {v : Json} (h : r.Carries v) : bodyValue r = .ok v := by
  obtain ⟨cs, text, value⟩ := h.reads
  have there : r.body.isEmpty = false := by
    rw [List.isEmpty_eq_false_iff]
    exact h.there
  rw [bodyValue, there, h.json]
  simp only [Bool.not_true, Bool.or_self, Bool.false_eq_true, if_false, text, value]

/-- A body that has an object for a value carries it. -/
lemma carries_of_bodyValue {ms : List (String × Json)} (h : bodyValue r = .ok (.obj ms)) :
    r.Carries (.obj ms) := by
  rw [bodyValue] at h
  split at h
  · cases h
  · next sent =>
    rw [Bool.or_eq_true, not_or, Bool.not_eq_true, Bool.not_eq_true, Bool.not_eq_false',
      List.isEmpty_eq_false_iff] at sent
    split at h
    · cases h
    · next cs text =>
      split at h
      · next v read =>
        cases h
        exact ⟨sent.1, sent.2, cs, text, read⟩
      · cases h
      · cases h

/-- A body that has no value is unreadable, or it is no JSON and unprocessable. -/
lemma bodyValue_error {response : Response} (h : bodyValue r = .error response) :
    r.IsUnreadable ∧ response = unreadable ∨ ∃ places, response = unprocessable places := by
  rw [bodyValue] at h
  split at h
  · cases h
  · next sent =>
    rw [Bool.or_eq_true, not_or, Bool.not_eq_true, Bool.not_eq_true, Bool.not_eq_false',
      List.isEmpty_eq_false_iff] at sent
    split at h
    · next none =>
      exact .inl ⟨⟨sent.1, sent.2, .inl none⟩, (Except.error.inj h).symm⟩
    · next cs text =>
      split at h
      · cases h
      · exact .inr ⟨_, (Except.error.inj h).symm⟩
      · next f notGrammar read =>
        refine .inl ⟨⟨sent.1, sent.2, .inr ⟨cs, text, ?_⟩⟩, (Except.error.inj h).symm⟩
        cases f with
        | grammar left => exact (notGrammar left rfl).elim
        | digits => exact .inl read
        | depth => exact .inr read

/-! ## Responses -/

/-- The response to what the service answers. -/
def answered (site : Site) (w : World) : SignIn.Answer → Response
  | .user _ => .json 201 (.obj [("message", .str "User created successfully!")])
  | .signedIn (.session token) | .session token =>
    (Response.json 200 (.obj [("message", .str "Login successful")])).withCookie
      (Cookie.setHeader site.cookies token)
  | .signedIn (.challenge attempt) =>
    (Response.json 206 (.obj [("message", .str "2FA required"),
      ("loginAttemptId", .str attempt.text)])).withHeader "cache-control" "no-store"
  | .signedOut =>
    (Response.json 200 (.obj [("message", .str "Logged out.")])).withCookie
      (Cookie.clearHeader site.cookies w.wallSeconds)
  | .belongsTo _ => .json 200 (.obj [("message", .str "Token is valid.")])

/-- The response to a request whose operation ended so: what the service answers, the status and the
message of a refusal, or an unexpected error with the fault that is let through. -/
def outcome (site : Site) (r : Request) (w : World) : Except Failure SignIn.Answer → Response
  | .ok answer => Origins.mark site.origins r (answered site w answer)
  | .error (.refused refusal) =>
    Origins.mark site.origins r (.failure refusal.kind.status refusal.message)
  | .error (.escaped f) => { Response.failure 500 "Unexpected error" with letThrough := some f }

/-- What is noted of an operation that ended so: the fault behind an unexpected refusal. -/
def remarks (r : Request) : Except Failure SignIn.Answer → List Entry
  | .error (.refused refusal) =>
    if refusal.kind = .unexpected then
      [⟨.error, source, "Unexpected error on " ++ r.method ++ " " ++ r.shownPath ++ ": " ++
        (refusal.because.map Fault.display).getD "None"⟩]
    else []
  | .ok _ | .error (.escaped _) => []

/-- The line that is noted last of a request: its response, or that nothing handled its fault. -/
def lastLine (r : Request) : Except Fault Response → Entry
  | .ok response => ⟨.info, source, r.method ++ " " ++ r.shownPath ++ " " ++
      toString response.status ++ " 0.0ms " ++ client⟩
  | .error _ => ⟨.error, source, "Unhandled exception on " ++ r.method ++ " " ++ r.shownPath⟩

/-- What an operation that ended so is answered with, before pages of other origins are minded. -/
def rendered (site : Site) (w : World) : Except Failure SignIn.Answer → Except Fault Response
  | .ok answer => .ok (answered site w answer)
  | .error (.refused refusal) => .ok (.failure refusal.kind.status refusal.message)
  | .error (.escaped f) => .error f

/-- What is sent of an answer. -/
def sent (site : Site) (r : Request) : Except Fault Response → Response
  | .ok response => Origins.mark site.origins r response
  | .error f => { Response.failure 500 "Unexpected error" with letThrough := some f }

/-- What is sent for an operation's end is what its outcome says. -/
lemma sent_rendered (site : Site) (r : Request) (w : World) (x : Except Failure SignIn.Answer) :
    sent site r (rendered site w x) = outcome site r w x := by
  cases x with
  | ok => rfl
  | error f =>
    cases f with
    | refused | escaped => rfl

/-- An operation is run, and what it ends with is answered and noted. -/
lemma answer_run {α : Type} {op : Op α} {f : α → SignIn.Answer} {success : α → World → Response}
    (same : ∀ v w, success v w = answered site w (f v)) {x : Except Failure SignIn.Answer}
    (run : Ends (f <$> op) w x w') :
    (answer r op success).run w =
      (rendered site w' x, w'.adding (remarks r x)) := by
  obtain ⟨s, ended, rfl⟩ := run.map_inv
  rw [answer, StateT.run_bind, show StateT.run op.run w = (s, w') from ended]
  have unchanged : w' = w'.adding [] := w'.adding_nil.symm
  cases s with
  | ok v => exact Prod.ext (congrArg Except.ok (same v w')) unchanged
  | error g =>
    cases g with
    | escaped f => exact Prod.ext rfl unchanged
    | refused refusal =>
      by_cases unexpected : refusal.kind = .unexpected
      · simp only [Except.map, rendered, remarks, if_pos unexpected]
        show StateT.run (if refusal.kind = .unexpected then _ else _) w' = _
        rw [if_pos unexpected]
        rfl
      · simp only [Except.map, rendered, remarks, if_neg unexpected]
        show StateT.run (if refusal.kind = .unexpected then _ else _) w' = _
        rw [if_neg unexpected]
        exact Prod.ext rfl unchanged

/-- On a route with a form, a body that is read makes the operation run that it asks for. -/
lemma onRoute_run {form : Form} (there : route.form? = some form) {f : Filled}
    (read : filled form r = .ok f) {x : Except Failure SignIn.Answer}
    (run : Ends ((route.asked f).op site.authority) w x w') :
    (onRoute site r route).run w =
      (rendered site w' x, w'.adding (remarks r x)) := by
  cases route with
  | signUp =>
    cases there
    rw [onRoute, answerForm, read]
    exact answer_run (fun _ _ => rfl) run
  | signIn =>
    cases there
    rw [onRoute, answerForm, read]
    refine answer_run (fun s _ => ?_) run
    cases s with
    | session | challenge => rfl
  | verify =>
    cases there
    rw [onRoute, answerForm, read]
    exact answer_run (fun _ _ => rfl) run
  | checkToken =>
    cases there
    rw [onRoute, answerForm, read]
    exact answer_run (fun _ _ => rfl) run
  | signOut | health => cases there

/-- A body that fills no form is answered before the service is asked. -/
lemma onRoute_unfilled {form : Form} (there : route.form? = some form) {response : Response}
    (bad : filled form r = .error response) :
    (onRoute site r route).run w = (.ok response, w) := by
  cases route with
  | signUp | signIn | verify | checkToken =>
    cases there
    rw [onRoute, answerForm, bad]
    rfl
  | signOut | health => cases there

/-- A request to sign out runs the operation on the token of its cookies. -/
lemma onRoute_signOut {x : Except Failure SignIn.Answer}
    (run : Ends ((SignIn.Request.signOut (Cookie.token? r.cookies)).op site.authority) w x w') :
    (onRoute site r .signOut).run w =
      (rendered site w' x, w'.adding (remarks r x)) :=
  answer_run (fun _ _ => rfl) run

/-- A request to one of the operations is answered as its route answers it. -/
lemma handle_run (post : r.method = "POST") (there : Route.ofPath? r.path = some route)
    (operation : route ≠ .health) {y : Except Fault Response}
    (run : (onRoute site r route).run w = (y, w')) :
    (handle site r).run w = (sent site r y, w'.adding [lastLine r y]) := by
  -- only other methods than POST ask what a page of another origin may do
  have noQuestion : Origins.isQuestion r = false := by
    rw [Origins.isQuestion, post]
    rfl
  have method : r.method = route.method := by
    rw [post]
    cases route with
    | health => exact absurd rfl operation
    | signUp | signIn | verify | signOut | checkToken => rfl
  have dispatched : (dispatch site r).run w = (y, w') := by
    rw [dispatch, there]
    simp only [if_pos method]
    exact run
  have responded : (respond site r).run w = (y.map (Origins.mark site.origins r), w') := by
    rw [respond, noQuestion]
    simp only [Bool.false_eq_true, if_false]
    rw [StateT.run_bind, dispatched]
    rfl
  rw [handle, StateT.run_bind, responded]
  cases y with
  | ok response => rfl
  | error f => rfl

/-- Every operation with a body has a form. -/
lemma exists_form (operation : route ≠ .health) (withBody : route ≠ .signOut) :
    ∃ form, route.form? = some form := by
  cases route with
  | signUp | signIn | verify | checkToken => exact ⟨_, rfl⟩
  | signOut => exact absurd rfl withBody
  | health => exact absurd rfl operation

/-- A form is filled exactly if the body is read as a value that the form reads. -/
lemma filled_ok_iff {form : Form} {f : Filled} :
    filled form r = .ok f ↔ ∃ v, bodyValue r = .ok v ∧ form.read v = .ok f := by
  rw [filled]
  cases bodyValue r with
  | error response => exact ⟨nofun, nofun⟩
  | ok v =>
    show (form.read v).mapError _ = .ok f ↔ _
    constructor
    · intro told
      cases read : form.read v with
      | error fs =>
        rw [read] at told
        cases told
      | ok f' =>
        rw [read] at told
        cases told
        exact ⟨v, rfl, read⟩
    · rintro ⟨_, ⟨⟩, read⟩
      rw [read]
      rfl

/-- A request whose body fills its form asks for what the filled form says. -/
lemma asks_of_filled {form : Form} {f : Filled} (post : r.method = "POST")
    (there : Route.ofPath? r.path = some route) (formed : route.form? = some form)
    (fill : filled form r = .ok f) : r.Asks route (route.asked f) := by
  obtain ⟨v, value, read⟩ := filled_ok_iff.1 fill
  obtain ⟨ms, rfl, _⟩ := Form.read_ok_iff.1 read
  exact ⟨post, there, _, carries_of_bodyValue value, (Route.means_iff formed).2 ⟨f, read, rfl⟩⟩

/-- A form is not filled for want of a value, or because the value is not read with it. -/
lemma filled_error {form : Form} {response : Response} (h : filled form r = .error response) :
    bodyValue r = .error response ∨
      ∃ v fs, bodyValue r = .ok v ∧ form.read v = .error fs ∧
        ∃ places, response = unprocessable places := by
  rw [filled] at h
  cases value : bodyValue r with
  | error f =>
    rw [value] at h
    cases h
    exact .inl rfl
  | ok v =>
    rw [value] at h
    cases read : form.read v with
    | error fs =>
      refine .inr ⟨v, fs, rfl, read, ?_⟩
      have told : (form.read v).mapError _ = .error response := h
      rw [read] at told
      cases told
      exact ⟨_, rfl⟩
    | ok f =>
      have told : (form.read v).mapError _ = .error response := h
      rw [read] at told
      cases told

section Unfilled

variable {form : Form} {response : Response}

end Unfilled

/-- What is asked of the service is done and answered. -/
lemma handle_asked {q : SignIn.Request} (asks : r.Asks route q)
    {x : Except Failure SignIn.Answer} (run : Ends (q.op site.authority) w x w') :
    (handle site r).run w = (outcome site r w' x,
      w'.adding (remarks r x ++ [lastLine r (rendered site w' x)])) := by
  obtain ⟨v, carries, means⟩ := asks.value
  have operation : route ≠ .health := by
    rintro rfl
    cases means
  have withBody : route ≠ .signOut := by
    rintro rfl
    cases means
  obtain ⟨form, formed⟩ := exists_form operation withBody
  obtain ⟨f, read, rfl⟩ := (Route.means_iff formed).1 means
  have fill := filled_ok_iff.2 ⟨v, bodyValue_of_carries carries, read⟩
  rw [handle_run asks.post asks.there operation (onRoute_run formed fill run), sent_rendered,
    adding_adding]

end App

/-! ## Samples -/

/-- A site that answers with the sample authority. -/
def Site.sample : Site := ⟨.sample, ⟨600, "lax", true⟩, []⟩

namespace App

end App

end Http

end SignIn
