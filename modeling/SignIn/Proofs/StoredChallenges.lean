import SignIn.Proofs.Canonical
import SignIn.Proofs.ChallengeHistory
import SignIn.Proofs.JsonGrammar
import SignIn.Proofs.Seals

/-!
# Challenges from any text

What the challenge store on the server tells of a text under the key of an address, whoever put it
there. The texts of an array of an id and a code are told as that challenge, among them the one that
issuing writes. Two kinds of texts are treated otherwise than as corrupt, although they are no such
array: an object whose two names are an id and a code is told as a challenge, and a text that is
nested too deeply fails with a defect. Which of these it is depends on what the text reads as:
`ofPayload_eq_ok_iff` and `ofPayload_eq_depth_iff`.
-/

namespace SignIn

/-! ## Texts -/

/-- One character is no id. -/
lemma AttemptId.ofText?_singleton (c : Char) : ofText? (String.singleton c) = none := by
  rw [ofText?, String.toList_singleton]
  rfl

/-- What has two images has two items. -/
lemma exists_of_map_eq_pair {α β : Type} {f : α → β} {xs : List α} {a b : β}
    (told : xs.map f = [a, b]) : ∃ x y, xs = [x, y] ∧ f x = a ∧ f y = b := by
  obtain ⟨x, rest, rfl, first, told⟩ := List.map_eq_cons_iff.1 told
  obtain ⟨y, rest, rfl, second, told⟩ := List.map_eq_cons_iff.1 told
  obtain rfl := List.map_eq_nil_iff.1 told
  exact ⟨x, y, rfl, first, second⟩

namespace Challenge

variable {c d : Challenge} {text : String}

/-- A text of an array of two strings: the challenge's id in any case, and its code. -/
def Encodes (text : String) (c : Challenge) : Prop :=
  ∃ s t, Json.PairText text.toList s t ∧ (AttemptId.IsWritten s ∧ s.toLower = c.attempt.text) ∧
    OneTimeCode.IsWritten t ∧ t = c.code.text

/-- A text of an object with two names: the challenge's id in any case, and its code. -/
def Names (text : String) (c : Challenge) : Prop :=
  ∃ s t v u, Json.read text.toList = .ok (.obj [(s, v), (t, u)]) ∧
    (AttemptId.IsWritten s ∧ s.toLower = c.attempt.text) ∧ OneTimeCode.IsWritten t ∧ t = c.code.text

/-- Fields that tell a challenge are its id in some case and its code. -/
lemma ofFields_inv {f g : Field} (told : ofFields f g = .ok c) :
    ∃ s t, f = some s ∧ g = some t ∧ (AttemptId.IsWritten s ∧ s.toLower = c.attempt.text) ∧
      OneTimeCode.IsWritten t ∧ t = c.code.text := by
  obtain ⟨a, first, told⟩ := exists_of_bind_ok told
  obtain ⟨k, second, told⟩ := exists_of_bind_ok told
  obtain rfl := Except.ok.inj told
  obtain ⟨s, rfl, attempt⟩ := Field.read_eq_ok_iff.1 first
  obtain ⟨t, rfl, code⟩ := Field.read_eq_ok_iff.1 second
  obtain ⟨written, lower⟩ := AttemptId.ofText?_inv attempt
  obtain ⟨digits, same⟩ := OneTimeCode.ofText?_inv code
  exact ⟨s, t, rfl, rfl, ⟨written, lower.symm⟩, digits, same.symm⟩

/-- The id of a challenge in any case and its code tell the challenge. -/
lemma ofFields_eq_ok {s t : String} (attempt : s.toLower = c.attempt.text)
    (code : t = c.code.text) : ofFields (some s) (some t) = .ok c := by
  have first : AttemptId.read (some s) = .ok c.attempt :=
    Field.read_eq_ok_iff.2 ⟨s, rfl, AttemptId.ofText?_eq_some_iff.2 attempt⟩
  have second : OneTimeCode.read (some t) = .ok c.code :=
    Field.read_eq_ok_iff.2 ⟨t, rfl, OneTimeCode.ofText?_eq_some_iff.2 code⟩
  rw [ofFields, first, second]
  rfl

/-- What has two parts is an array, a string of two characters or an object with two names. -/
lemma parts?_inv {v : Json} {f g : Field} (told : parts? v = some [f, g]) :
    (∃ x y, v = .arr [x, y] ∧ f = x.text? ∧ g = y.text?) ∨
      (∃ x y : Char, f = some (String.singleton x) ∧ g = some (String.singleton y)) ∨
      ∃ s t x y, v = .obj [(s, x), (t, y)] ∧ f = some s ∧ g = some t := by
  unfold parts? at told
  split at told
  case h_1 vs =>
    obtain ⟨x, y, rfl, rfl, rfl⟩ := exists_of_map_eq_pair (Option.some.inj told)
    exact .inl ⟨x, y, rfl, rfl, rfl⟩
  case h_2 s =>
    obtain ⟨x, y, _, rfl, rfl⟩ := exists_of_map_eq_pair (Option.some.inj told)
    exact .inr (.inl ⟨x, y, rfl, rfl⟩)
  case h_3 ms =>
    obtain ⟨⟨s, x⟩, ⟨t, y⟩, rfl, rfl, rfl⟩ := exists_of_map_eq_pair (Option.some.inj told)
    exact .inr (.inr ⟨s, t, x, y, rfl, rfl, rfl⟩)
  case h_4 => cases told

/-- Only a text has a text. -/
lemma text?_eq_some {v : Json} {s : String} (told : some s = v.text?) : v = .str s := by
  cases v with
  | str t => rw [Option.some.inj told]
  | _ => cases told

/-- A challenge is told of what reads as a value with two parts, which are its fields. -/
lemma ofPayload_inv (told : ofPayload text = .ok c) : ∃ v f g,
    Json.read text.toList = .ok v ∧ parts? v = some [f, g] ∧ ofFields f g = .ok c := by
  unfold ofPayload at told
  split at told
  case h_4 v read =>
    split at told
    case h_2 f g parts =>
      cases fields : ofFields f g with
      | error e =>
        rw [fields] at told
        cases told
      | ok d =>
        rw [fields] at told
        obtain rfl : d = c := Except.ok.inj told
        exact ⟨v, f, g, read, parts, fields⟩
    all_goals cases told
  all_goals cases told

/-- A value with two parts tells the challenge that they tell. -/
lemma ofPayload_of_parts {v : Json} {f g : Field} (read : Json.read text.toList = .ok v)
    (parts : parts? v = some [f, g]) (fields : ofFields f g = .ok c) :
    ofPayload text = .ok c := by
  simp only [ofPayload, read, parts, fields]
  rfl

/-- A challenge is told of the texts that encode it, and of objects that name it. -/
lemma ofPayload_eq_ok_iff : ofPayload text = .ok c ↔ Encodes text c ∨ Names text c := by
  constructor
  · intro told
    obtain ⟨v, f, g, read, parts, fields⟩ := ofPayload_inv told
    obtain ⟨s, t, rfl, rfl, attempt, code⟩ := ofFields_inv fields
    obtain ⟨x, y, rfl, first, second⟩ | ⟨x, y, first, _⟩ | ⟨s', t', x, y, rfl, first, second⟩ :=
      parts?_inv parts
    · obtain rfl := text?_eq_some first
      obtain rfl := text?_eq_some second
      exact .inl ⟨s, t, Json.read_eq_pair_iff.1 read, attempt, code⟩
    · -- a string of two characters has two parts as well, but its first is no id
      obtain rfl := Option.some.inj first
      have id := AttemptId.ofText?_of_toLower attempt.2
      rw [AttemptId.ofText?_singleton] at id
      cases id
    · obtain rfl := Option.some.inj first
      obtain rfl := Option.some.inj second
      exact .inr ⟨s, t, x, y, read, attempt, code⟩
  · rintro (⟨s, t, pair, ⟨_, attempt⟩, _, code⟩ | ⟨s, t, v, u, read, ⟨_, attempt⟩, _, code⟩)
    · exact ofPayload_of_parts (Json.read_eq_pair_iff.2 pair) rfl (ofFields_eq_ok attempt code)
    · exact ofPayload_of_parts read rfl (ofFields_eq_ok attempt code)

/-- A payload is too deep exactly if its JSON is. -/
lemma ofPayload_eq_depth_iff :
    ofPayload text = .error .depth ↔ Json.read text.toList = .error .depth := by
  constructor
  · intro told
    unfold ofPayload at told
    split at told
    case h_1 => cases told
    case h_2 => cases told
    case h_3 deep => exact deep
    case h_4 v read =>
      split at told
      case h_1 => cases told
      case h_2 f g _ =>
        cases fields : ofFields f g with
        | error e =>
          rw [fields] at told
          cases told
        | ok d =>
          rw [fields] at told
          cases told
      case h_3 => cases told
  · intro deep
    simp only [ofPayload, deep]

/-- A text encodes one challenge at most. -/
lemma Encodes.unique (told : Encodes text c) (other : Encodes text d) : c = d :=
  Except.ok.inj ((ofPayload_eq_ok_iff.2 (.inl told)).symm.trans
    (ofPayload_eq_ok_iff.2 (.inl other)))

/-- What is stored for a challenge encodes it. -/
lemma encodes_payload (c : Challenge) : Encodes c.payload c := by
  have read : Json.read c.payload.toList = .ok (.arr [.str c.attempt.text, .str c.code.text]) := by
    rw [payload, String.toList_ofList]
    exact Json.read_print Json.Layout.spaced_tidy (c.exact_stored _)
  obtain ⟨written, lower⟩ := AttemptId.ofText?_inv (AttemptId.ofText?_text c.attempt)
  exact ⟨_, _, Json.read_eq_pair_iff.1 read, ⟨written, lower.symm⟩,
    OneTimeCode.isWritten_text c.code, rfl⟩

end Challenge

/-! ## The store -/

/-- The world after a command that the server carried out. -/
def World.answered (w : World) (c : Command) : World :=
  { w with keyspace := w.keyspace.carriedOut w.uptime c }

namespace Challenges

variable {w w' : World} {lifetime : Int} {e : Email} {c : Challenge} {text : String}

/-- Only a payload that is too deep has no cause. -/
lemma payloadCause_eq_none {f : Challenge.PayloadFault} : payloadCause f = none ↔ f = .depth := by
  cases f <;> simp [payloadCause]

/-- Peeking at a text tells its challenge, or that it is corrupt, or fails with a defect. -/
lemma peek_inv {r : Except Fault Challenge} (store : w.challenges = .keyspace lifetime)
    (served : w.keyspace.outages = []) (stored : w.keyspace.find? w.uptime (key e) = some text)
    (h : Ends (peek e) w r w') :
    (∃ c, Challenge.ofPayload text = .ok c ∧ r = .ok c ∧ w' = w.answered (.read (key e))) ∨
      (Challenge.ofPayload text = .error .depth ∧ r = .error .tooDeep ∧
        w' = w.answered (.read (key e))) ∨
      ∃ f cause, Challenge.ofPayload text = .error f ∧ f ≠ .depth ∧
        r = .error (.challenge .unavailable (some cause)) ∧
        w' = (w.answered (.read (key e))).noting .error source
          ("Corrupt 2FA challenge stored for " ++ e.redacted) := by
  have order : w.keyspace.fault? (.read (key e)) = none := Keyspace.fault?_eq_none served trivial
  rw [peek, Ends.get_bind, store] at h
  simp only [command_eq] at h
  obtain ⟨k, w₁, asked, rest⟩ | ⟨g, asked, _⟩ := h.bind_inv
  · obtain ⟨_, told, rfl⟩ | ⟨_, broken, _⟩ := reported_inv asked
    · obtain rfl := Except.ok.inj told
      simp only [stored] at rest
      cases told : Challenge.ofPayload text with
      | ok c =>
        rw [told] at rest
        obtain ⟨rfl, rfl⟩ := Ends.pure_inv rest
        exact .inl ⟨c, rfl, rfl, rfl⟩
      | error f =>
        simp only [told] at rest
        cases known : payloadCause f with
        | none =>
          rw [known] at rest
          obtain ⟨rfl, rfl⟩ := Ends.throw_inv rest
          exact .inr (.inl ⟨congrArg Except.error (payloadCause_eq_none.1 known), rfl, rfl⟩)
        | some cause =>
          simp only [known, Ends.log_bind] at rest
          obtain ⟨rfl, rfl⟩ := Ends.throw_inv rest
          refine .inr (.inr ⟨f, cause, rfl, ?_, rfl, rfl⟩)
          intro deep
          cases (payloadCause_eq_none.2 deep).symm.trans known
    · cases order.symm.trans broken
  · obtain ⟨_, told, _⟩ | ⟨_, broken, _⟩ := reported_inv asked
    · cases told
    · cases order.symm.trans broken

/-- A challenge is peeked at exactly if the text is read as it. -/
lemma exists_peek_iff (store : w.challenges = .keyspace lifetime)
    (served : w.keyspace.outages = []) (stored : w.keyspace.find? w.uptime (key e) = some text) :
    (∃ v, Ends (peek e) w (.ok c) v) ↔ Challenge.ofPayload text = .ok c := by
  constructor
  · rintro ⟨v, h⟩
    obtain ⟨d, read, told, _⟩ | ⟨_, told, _⟩ | ⟨_, _, _, _, told, _⟩ :=
      peek_inv store served stored h
    · rw [read, Except.ok.inj told]
    · cases told
    · cases told
  · intro read
    obtain ⟨r, v, h⟩ := Ends.total (peek e) w
    obtain ⟨d, told, rfl, _⟩ | ⟨told, _⟩ | ⟨_, _, told, _⟩ := peek_inv store served stored h
    · obtain rfl := Except.ok.inj (read.symm.trans told)
      exact ⟨v, h⟩
    · cases read.symm.trans told
    · cases read.symm.trans told

/-- Peeking fails for depth exactly at a payload that is too deep. -/
lemma exists_peek_deep_iff (store : w.challenges = .keyspace lifetime)
    (served : w.keyspace.outages = []) (stored : w.keyspace.find? w.uptime (key e) = some text) :
    (∃ v, Ends (peek e) w (.error .tooDeep) v) ↔ Challenge.ofPayload text = .error .depth := by
  constructor
  · rintro ⟨v, h⟩
    obtain ⟨_, _, told, _⟩ | ⟨read, _⟩ | ⟨_, _, _, _, told, _⟩ := peek_inv store served stored h
    · cases told
    · exact read
    · cases told
  · intro read
    obtain ⟨r, v, h⟩ := Ends.total (peek e) w
    obtain ⟨_, told, _⟩ | ⟨_, rfl, _⟩ | ⟨_, _, told, other, _⟩ := peek_inv store served stored h
    · cases read.symm.trans told
    · exact ⟨v, h⟩
    · exact absurd (Except.error.inj (told.symm.trans read)) other

/-- A challenge that is issued on the server is stored as its text until its lifetime has passed. -/
lemma exists_issue (store : w.challenges = .keyspace lifetime) (lasting : 0 < lifetime)
    (served : w.keyspace.outages = []) (e : Email) (c : Challenge) :
    ∃ v, Ends (issue e c) w (.ok ()) v ∧ v.challenges = .keyspace lifetime ∧
      v.keyspace.outages = [] ∧ v.uptime = w.uptime ∧
      ∀ now, now < w.uptime + 1000 * lifetime →
        v.keyspace.find? now (key e) = some c.payload := by
  obtain ⟨r, v, h⟩ := Ends.total (issue e c) w
  have run := h
  rw [issue, Ends.get_bind, store] at run
  simp only [command_eq] at run
  obtain ⟨_, rfl, rfl⟩ | ⟨_, broken, _⟩ := reported_bind_inv run
  · refine ⟨_, h, store, (Keyspace.outages_carriedOut ..).trans served, rfl, ?_⟩
    intro now early
    rw [Keyspace.find?_put, if_pos rfl, if_pos early]
  · rw [Keyspace.fault?_eq_none served lasting] at broken
    cases broken

/-- On a server in order, peeking at a text tells a challenge exactly if the text encodes it or is
an object that names it. A text that is neither is corrupt, unless it is nested too deeply. What
issuing writes for a positive lifetime encodes the challenge and no other, and is told until that
time has passed. -/
theorem peek_decodes (store : w.challenges = .keyspace lifetime)
    (served : w.keyspace.outages = []) (e : Email) :
    (∀ text, w.keyspace.find? w.uptime (key e) = some text →
      (∀ c, (∃ v, Ends (peek e) w (.ok c) v) ↔ c.Encodes text ∨ c.Names text) ∧
      ((∃ v, Ends (peek e) w (.error .tooDeep) v) ↔ Json.read text.toList = .error .depth) ∧
      ((∀ c : Challenge, ¬(c.Encodes text ∨ c.Names text)) →
        Json.read text.toList ≠ .error .depth →
        ∃ cause v, Ends (peek e) w (.error (.challenge .unavailable (some cause))) v)) ∧
    (0 < lifetime → ∀ c, ∃ v written, Ends (issue e c) w (.ok ()) v ∧
      v.keyspace.find? v.uptime (key e) = some written ∧ (∀ d, d.Encodes written ↔ d = c) ∧
      ∀ (wall : Int) (ms : Nat), ms < 1000 * lifetime →
        ∃ u, Ends (peek e) (v.advance wall ms) (.ok c) u) := by
  constructor
  · intro text stored
    refine ⟨fun c => ?_, ?_, fun other flat => ?_⟩
    · rw [exists_peek_iff store served stored, Challenge.ofPayload_eq_ok_iff]
    · rw [exists_peek_deep_iff store served stored, Challenge.ofPayload_eq_depth_iff]
    · obtain ⟨r, v, h⟩ := Ends.total (peek e) w
      obtain ⟨c, told, _⟩ | ⟨deep, _⟩ | ⟨_, cause, _, _, rfl, _⟩ := peek_inv store served stored h
      · exact absurd (Challenge.ofPayload_eq_ok_iff.1 told) (other c)
      · exact absurd (Challenge.ofPayload_eq_depth_iff.1 deep) flat
      · exact ⟨cause, v, h⟩
  · intro lasting c
    obtain ⟨v, issued, store', served', uptime, stored⟩ := exists_issue store lasting served e c
    refine ⟨v, c.payload, issued, stored v.uptime (by omega), fun d => ?_, fun wall ms early => ?_⟩
    · constructor
      · intro told
        exact told.unique c.encodes_payload
      · rintro rfl
        exact d.encodes_payload
    · have there : (v.advance wall ms).keyspace.find? (v.advance wall ms).uptime (key e) =
          some c.payload := by
        refine stored _ ?_
        show v.uptime + ms < w.uptime + 1000 * lifetime
        omega
      exact (exists_peek_iff (w := v.advance wall ms) store' served' there).2
        (Challenge.ofPayload_payload c)

/-- A world with a server on which others have put a text under the key of an address. -/
def holding (text : String) : World :=
  { World.remote with keyspace := World.remote.keyspace.plant (key .sample) text }

/-- The world that was made to hold a text holds it. -/
lemma find?_holding (text : String) :
    (holding text).keyspace.find? (holding text).uptime (key .sample) = some text := by
  rw [Keyspace.find?, holding, Keyspace.plant, Keyed.find?_put_self]
  rfl

/-- An array of an id in upper case and a code with an escaped digit, with spaces. -/
def looseArray : String :=
  "\t[\"0000ABCD-0000-4000-8000-00000000000F\" , \"12345\\u0036\"]"

/-- An object whose names are an id and a code. -/
def namingObject : String :=
  "\x7b\"00000000-0000-4000-8000-000000000001\": 0, \"123456\": 0\x7d"

def deepArray : String :=
  String.ofList (List.replicate 3000 '[')

/-- Of the samples, an array that is laid out loosely is read, and a corrupt one is told and
replaced. -/
theorem peek_decodes_sample :
    ((∃ v, Ends (peek .sample) (holding looseArray)
        (.ok ⟨⟨0x0000abcd00004000800000000000000f⟩, ⟨123456⟩⟩) v) ∧
      ∃ cause v, Ends (peek .sample) (holding "[\"only-one\"]")
        (.error (.challenge .unavailable (some cause))) v) ∧
    ∃ v, Ends (issue .sample ⟨⟨1⟩, ⟨2⟩⟩) (holding "[\"only-one\"]") (.ok ()) v ∧
      ∃ u, Ends (peek .sample) (v.advance 0 599999) (.ok ⟨⟨1⟩, ⟨2⟩⟩) u := by
  refine ⟨⟨?_, ?_⟩, ?_⟩
  · obtain ⟨told, _⟩ := (peek_decodes (w := holding _) rfl rfl .sample).1 _ (find?_holding _)
    have read : Challenge.ofPayload looseArray =
        .ok ⟨⟨0x0000abcd00004000800000000000000f⟩, ⟨123456⟩⟩ := by cbv
    exact (told _).2 (Challenge.ofPayload_eq_ok_iff.1 read)
  · obtain ⟨_, _, corrupt⟩ :=
      (peek_decodes (w := holding _) rfl rfl .sample).1 _ (find?_holding _)
    have read : Challenge.ofPayload "[\"only-one\"]" = .error .partCount := by cbv
    refine corrupt (fun c told => ?_) (fun deep => ?_)
    · cases read.symm.trans (Challenge.ofPayload_eq_ok_iff.2 told)
    · cases read.symm.trans (Challenge.ofPayload_eq_depth_iff.2 deep)
  · obtain ⟨v, _, issued, _, _, later⟩ :=
      (peek_decodes (w := holding "[\"only-one\"]") rfl rfl .sample).2 (by decide) ⟨⟨1⟩, ⟨2⟩⟩
    exact ⟨v, issued, later 0 599999 (by decide)⟩

/-- An object is peeked at as a challenge although it is no array, and a text that is nested too
deeply fails with a defect although it is as corrupt as any other. -/
theorem peek_beyond_pairs :
    ((∃ c v, Ends (peek .sample) (holding namingObject) (.ok c) v) ∧
      ∀ c : Challenge, ¬c.Encodes namingObject) ∧
    (∃ v, Ends (peek .sample) (holding deepArray) (.error .tooDeep) v) ∧
      ∀ c : Challenge, ¬c.Encodes deepArray := by
  have names : Json.read namingObject.toList = .ok (.obj
      [("00000000-0000-4000-8000-000000000001", .int 0), ("123456", .int 0)]) := by cbv
  have told : Challenge.ofPayload namingObject =
      .ok ⟨⟨0x00000000000040008000000000000001⟩, ⟨123456⟩⟩ := by cbv
  have brackets : deepArray.toList = List.replicate 3000 '[' := String.toList_ofList
  have deep : Json.read deepArray.toList = .error .depth := by
    rw [brackets]
    exact Json.read_replicate (by decide)
  refine ⟨⟨⟨_, (exists_peek_iff rfl rfl (find?_holding _)).2 told⟩, ?_⟩,
    (exists_peek_deep_iff rfl rfl (find?_holding _)).2 (Challenge.ofPayload_eq_depth_iff.2 deep),
    ?_⟩
  · rintro c ⟨s, t, pair, _⟩
    cases names.symm.trans (Json.read_eq_pair_iff.2 pair)
  · rintro c ⟨s, t, pair, _⟩
    cases deep.symm.trans (Json.read_eq_pair_iff.2 pair)

end Challenges

end SignIn
