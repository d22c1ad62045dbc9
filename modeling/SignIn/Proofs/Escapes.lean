import SignIn.Proofs.Containment
import SignIn.Proofs.Seals

/-!
# Escapes

Which faults leave the service as what they are, instead of as refusals. It is tokens and torn
passwords that let them escape. A token may be nested too deeply for the reader, in its header or in
a payload that is sealed; a sealed claim of an instant may be a value that is never a number; and a
token may end so late that the store in memory cannot hold its ban. A torn password cannot be
compared with the one of a user, and cannot be kept in a table. `Request.escapes_iff` says that
there are no others among the requests whose other texts are whole: tokens and addresses have no
unpaired surrogates here, and one that has them is outside of what is said.
-/

namespace SignIn

open World Token

/-! ## Tokens -/

/-- A value that is never a number, whatever is cut off or read from it. -/
inductive Json.Unreckonable : Json → Prop
  | null : Unreckonable .null
  | arr (vs : List Json) : Unreckonable (.arr vs)
  | obj (ms : List (String × Json)) : Unreckonable (.obj ms)
  | infinite (neg : Bool) : Unreckonable (.real (.infinite neg))

/-- The way in which a check ends: with a value or a fault of the token itself, or with a foreign
fault, which is so exactly under a condition. -/
def Settles {α : Type} (r : Except Fault α) (stumbles : Prop) : Prop :=
  ((∀ f, r = .error f → ∃ g, f.kind = .token g) ∧ ¬ stumbles) ∨
    (∃ d, r = .error (.foreign d)) ∧ stumbles

namespace Settles

variable {α β : Type} {p q : Prop}

/-- A value settles, with no fault to stumble over. -/
lemma ok (v : α) : Settles (.ok v) False :=
  .inl ⟨nofun, id⟩

/-- A fault of the token itself settles. -/
lemma error {f : Fault} (own : ∃ g, f.kind = .token g) :
    Settles (.error f : Except Fault α) False := by
  refine .inl ⟨?_, id⟩
  rintro _ ⟨⟩
  exact own

/-- What settles under a condition settles under an equivalent one. -/
lemma congr {r : Except Fault α} (h : Settles r p) (same : p ↔ q) : Settles r q := by
  rw [Settles, ← same]
  exact h

/-- What is checked after a first check matters if the first check passes. -/
lemma bind {x : Except Fault α} {f : α → Except Fault β} (hx : Settles x p)
    (hf : ∀ v, x = .ok v → Settles (f v) q) :
    Settles (x >>= f) (p ∨ (∃ v, x = .ok v) ∧ q) := by
  cases x with
  | ok v =>
    obtain ⟨_, fine⟩ | ⟨⟨_, told⟩, _⟩ := hx
    · refine (hf v rfl).congr ⟨fun later => .inr ⟨⟨v, rfl⟩, later⟩, ?_⟩
      rintro (bad | ⟨_, later⟩)
      · exact absurd bad fine
      · exact later
    · cases told
  | error g =>
    refine Settles.congr (p := p) ?_ ⟨.inl, ?_⟩
    · obtain ⟨own, fine⟩ | ⟨⟨d, told⟩, bad⟩ := hx
      · refine .inl ⟨?_, fine⟩
        rintro _ ⟨⟩
        exact own g rfl
      · cases told
        exact .inr ⟨⟨d, rfl⟩, bad⟩
    · rintro (bad | ⟨⟨_, told⟩, _⟩)
      · exact bad
      · cases told

end Settles

namespace Token.Claims

/-- A claim is there, but its value is never a number. -/
def IsUnreckonable (name : String) (ms : Members) : Prop :=
  ∃ v, Keyed.find? name ms = some v ∧ v.Unreckonable

/-- A claim of an instant is not there, or it is an integer that passes a test. -/
def Passes (name : String) (ms : Members) (test : Int → Prop) : Prop :=
  ∀ v, Keyed.find? name ms = some v → ∃ n, integerOf v = .ok n ∧ test n

/-- Of the claims of instants, the first that does not pass is never a number. -/
def Stumbles (now : Int) (ms : Members) : Prop :=
  IsUnreckonable "iat" ms ∨ Passes "iat" ms (fun _ => True) ∧
    (IsUnreckonable "nbf" ms ∨ Passes "nbf" ms (· ≤ now) ∧ IsUnreckonable "exp" ms)

variable {now : Int} {ms : Members}

/-- Reading an instant stumbles exactly over what is never a number. -/
lemma instant_settles (v : Json) : Settles (instant v) v.Unreckonable := by
  have refuses : Settles (.error refused : Except Fault Int) False := .error ⟨_, rfl⟩
  cases v with
  | null => exact .inr ⟨⟨_, rfl⟩, .null⟩
  | arr vs => exact .inr ⟨⟨_, rfl⟩, .arr vs⟩
  | obj ms => exact .inr ⟨⟨_, rfl⟩, .obj ms⟩
  | bool | int => exact (Settles.ok _).congr ⟨False.elim, fun bad => by cases bad⟩
  | torn t => exact refuses.congr ⟨False.elim, fun bad => by cases bad⟩
  | str s =>
    -- a text that is no integer is the token's own fault
    have fine : False ↔ (Json.str s).Unreckonable := ⟨False.elim, fun bad => by cases bad⟩
    simp only [instant, integerOf]
    cases Numeral.integer? s.toList with
    | some n => exact (Settles.ok n).congr fine
    | none => exact refuses.congr fine
  | real x =>
    cases x with
    | nan => exact refuses.congr ⟨False.elim, fun bad => by cases bad⟩
    | infinite neg => exact .inr ⟨⟨_, rfl⟩, .infinite neg⟩
    | finite neg m e => exact (Settles.ok _).congr ⟨False.elim, fun bad => by cases bad⟩

/-- An instant is read exactly where an integer is. -/
lemma instant_ok_iff {v : Json} {n : Int} : instant v = .ok n ↔ integerOf v = .ok n := by
  rw [instant]
  cases integerOf v with
  | ok m =>
    dsimp only
    rw [Except.ok.injEq, Except.ok.injEq]
  | error f =>
    cases f with
    | unreadable | infinite | wrongType =>
      constructor
      · intro told
        cases told
      · intro told
        cases told

/-- A demand never stumbles. -/
lemma demand_settles (holds : Bool) {f : Fault} (own : ∃ g, f.kind = .token g) :
    Settles (demand holds f) False := by
  cases holds with
  | true => exact .ok ()
  | false => exact .error own

/-- Checks a claim of an instant, if it is there. -/
def checkInstant (name : String) (ms : Members) (test : Int → Prop) [DecidablePred test]
    (f : Fault) : Except Fault Unit :=
  check name ms fun v => instant v >>= fun n => demand (test n) f

/-- Checks the claims that are no instants. -/
def checkOthers (ms : Members) : Except Fault Unit := do
  check "aud" ms fun _ => .error refused
  check "sub" ms fun v => demand v.text?.isSome refused
  check "jti" ms fun v => demand v.text?.isSome refused
  check "at_hash" ms fun _ => .error refused

/-- The claims are checked in this order: the three instants, then the others. -/
lemma checkAll_eq (date : hasDate now = true) (ms : Members) :
    checkAll now ms = (do
      checkInstant "iat" ms (fun _ => True) refused
      checkInstant "nbf" ms (· ≤ now) refused
      checkInstant "exp" ms (now ≤ ·) expired
      checkOthers ms) := by
  rw [checkAll, dated_of_hasDate date]
  rfl

/-- Checking an instant stumbles exactly if the claim is there and is never a number. -/
lemma checkInstant_settles (name : String) (ms : Members) (test : Int → Prop)
    [DecidablePred test] {f : Fault} (own : ∃ g, f.kind = .token g) :
    Settles (checkInstant name ms test f) (IsUnreckonable name ms) := by
  rw [checkInstant, check, IsUnreckonable]
  cases Keyed.find? name ms with
  | none =>
    refine (Settles.ok ()).congr ⟨False.elim, ?_⟩
    rintro ⟨_, ⟨⟩, _⟩
  | some v =>
    refine ((instant_settles v).bind fun n _ => demand_settles (test n) own).congr ⟨?_, ?_⟩
    · rintro (bad | ⟨_, ⟨⟩⟩)
      exact ⟨v, rfl, bad⟩
    · rintro ⟨_, ⟨⟩, bad⟩
      exact .inl bad

/-- An instant is accepted exactly if it is not there or passes the test. -/
lemma checkInstant_ok_iff {name : String} {ms : Members} {test : Int → Prop}
    [DecidablePred test] {f : Fault} :
    (∃ u, checkInstant name ms test f = .ok u) ↔ Passes name ms test := by
  rw [checkInstant, check, Passes]
  cases Keyed.find? name ms with
  | none =>
    refine ⟨?_, fun _ => ⟨(), rfl⟩⟩
    rintro _ _ ⟨⟩
  | some v =>
    constructor
    · rintro ⟨_, passes⟩ _ ⟨⟩
      obtain ⟨n, read, holds⟩ := exists_of_bind_ok passes
      refine ⟨n, instant_ok_iff.1 read, ?_⟩
      rw [demand] at holds
      split at holds
      · next yes => exact of_decide_eq_true yes
      · cases holds
    · intro passes
      obtain ⟨n, read, holds⟩ := passes v rfl
      refine ⟨(), ?_⟩
      show (instant v).bind _ = _
      rw [instant_ok_iff.2 read, Except.bind, demand, decide_eq_true holds, if_pos rfl]

/-- Checking the other claims never stumbles. -/
lemma checkOthers_settles (ms : Members) : Settles (checkOthers ms) False := by
  have own : ∃ g, refused.kind = .token g := ⟨_, rfl⟩
  have checks {name : String} {test : Json → Except Fault Unit}
      (h : ∀ v, Settles (test v) False) : Settles (check name ms test) False := by
    rw [check]
    split
    · exact h _
    · exact .ok ()
  have no {p : Prop} : (False ∨ p ∧ False) ↔ False := by simp
  refine ((checks fun _ => .error own).bind fun _ _ => ?_).congr no
  refine ((checks fun _ => demand_settles _ own).bind fun _ _ => ?_).congr no
  exact ((checks fun _ => demand_settles _ own).bind fun _ _ =>
    checks fun _ => .error own).congr no

/-- Checking all claims stumbles exactly over a claim of an instant that is never a number. -/
lemma checkAll_settles (date : hasDate now = true) (ms : Members) :
    Settles (checkAll now ms) (Stumbles now ms) := by
  have own : ∃ g, refused.kind = .token g := ⟨_, rfl⟩
  have own' : ∃ g, expired.kind = .token g := ⟨_, rfl⟩
  rw [checkAll_eq date]
  -- from the last check to the first: each matters only if those before it pass
  have last := (checkInstant_settles "exp" ms (now ≤ ·) own').bind fun _ _ => checkOthers_settles ms
  have middle := (checkInstant_settles "nbf" ms (· ≤ now) own).bind fun _ _ => last
  refine ((checkInstant_settles "iat" ms (fun _ => True) own).bind fun _ _ => middle).congr ?_
  rw [checkInstant_ok_iff, checkInstant_ok_iff, and_false, or_false, Stumbles]

/-- Reading the subject never stumbles. -/
lemma subject_settles (ms : Members) : Settles (subject ms) False := by
  rw [subject]
  split
  · exact .error ⟨_, rfl⟩
  · split
    · exact .ok _
    · exact .error ⟨_, rfl⟩

end Token.Claims

namespace Authority

variable {a : Authority} {w w' : World} {t : String}

/-- A text that is nested too deeply for the reader in its header, or in its payload while it is
sealed, or that is sealed and claims an instant that is never a number. -/
inductive Stumbles (a : Authority) (now : Int) (t : String) : Prop
  | header (deep : HasDeepHeader t)
  | payload {header payload signature : List Char}
      (signed : Sealed a.secret t header payload signature)
      (deep : jsonOf? payload = some (.error .depth))
  | claims {header payload signature : List Char} {ms : Claims.Members}
      (signed : Sealed a.secret t header payload signature)
      (object : jsonOf? payload = some (.ok (.obj ms))) (stumbles : Claims.Stumbles now ms)

/-- What a sealed text stumbles over is in its payload. -/
lemma stumbles_iff {now : Int} {header payload signature : List Char}
    (h : Sealed a.secret t header payload signature) :
    a.Stumbles now t ↔ jsonOf? payload = some (.error .depth) ∨
      ∃ ms, jsonOf? payload = some (.ok (.obj ms)) ∧ Claims.Stumbles now ms := by
  constructor
  · intro stumbles
    cases stumbles with
    | header deep =>
      -- the header of a sealed text has been read as an object
      obtain ⟨header', payload', signature', parts, deep⟩ := deep
      obtain ⟨ms, object, _⟩ := h.algorithm
      rw [(h.parts.unique parts).1, object] at deep
      cases deep
    | payload signed deep =>
      rw [(h.parts.unique signed.parts).2.1] at deep
      exact .inl deep
    | claims signed object stumbles =>
      rw [(h.parts.unique signed.parts).2.1] at object
      exact .inr ⟨_, object, stumbles⟩
  · rintro (deep | ⟨ms, object, stumbles⟩)
    · exact .payload h deep
    · exact .claims h object stumbles

/-- Opening a token ends with a fault of the token's own, or the text stumbles. -/
lemma openAt_settles (plain : Key.IsPlain a.secret) {now : Int} (date : hasDate now = true)
    (t : String) : Settles (a.openAt now t) (a.Stumbles now t) := by
  rw [openAt]
  -- the payload decides over a text that is sealed, and the header over any other
  by_cases signed : ∃ header payload signature, Sealed a.secret t header payload signature
  · obtain ⟨header, payload, signature, signed⟩ := signed
    rw [sealedClaims_of_sealed plain signed, objectOf_partOctets, stumbles_iff signed]
    split
    · next ms object =>
      have opens := (Claims.checkAll_settles date ms).bind fun _ _ => Claims.subject_settles ms
      refine opens.congr ?_
      rw [and_false, or_false]
      constructor
      · intro stumbles
        exact .inr ⟨ms, object, stumbles⟩
      · rintro (deep | ⟨ms', object', stumbles⟩)
        · rw [object] at deep
          cases deep
        · cases object.symm.trans object'
          exact stumbles
    · next deep => exact .inr ⟨⟨_, rfl⟩, .inl deep⟩
    · next noObject notDeep =>
      refine Settles.congr (p := False) (.error ⟨_, rfl⟩) ⟨False.elim, ?_⟩
      rintro (deep | ⟨ms, object, _⟩)
      · exact notDeep deep
      · exact noObject ms object
  · have unsealed (header payload signature : List Char) :
        ¬ Sealed a.secret t header payload signature :=
      fun h => signed ⟨header, payload, signature, h⟩
    obtain ⟨told, deep⟩ | ⟨told, shallow⟩ := sealedClaims_of_not_sealed plain unsealed
    · rw [told]
      exact .inr ⟨⟨_, rfl⟩, .header deep⟩
    · rw [told]
      refine Settles.congr (p := False) (.error ⟨_, rfl⟩) ⟨False.elim, fun stumbles => ?_⟩
      cases stumbles with
      | header deep => exact shallow deep
      | payload h _ => exact unsealed _ _ _ h
      | claims h _ _ => exact unsealed _ _ _ h

/-- A token is not good if it does not open, or if it is banned or its ban cannot be asked for. -/
lemma validate_error_inv {f : Fault} (h : Ends (a.validate t) w (.error f) w') :
    a.openAt w.wallSeconds t = .error f ∨ (∃ e, a.openAt w.wallSeconds t = .ok e) ∧
      (f = .token .revoked ∨
        Ends (World.guarded .isBanned (Bans.contains t)) w (.error f) w') := by
  rw [validate, Ends.get_bind] at h
  cases opened : a.openAt w.wallSeconds t with
  | error g =>
    rw [opened] at h
    cases (Ends.throw_inv h).1
    exact .inl rfl
  | ok e =>
    simp only [opened] at h
    refine .inr ⟨⟨e, rfl⟩, ?_⟩
    obtain ⟨banned, _, _, h⟩ | ⟨g, asked, told⟩ := h.bind_inv
    · cases banned with
      | true =>
        cases (Ends.throw_inv h).1
        exact .inl rfl
      | false => cases (Ends.pure_inv h).1
    · cases told
      exact .inr asked

/-- How long a token that opens is still good can be told. -/
lemma exists_remainingAt {now : Int} {e : Email} (h : a.openAt now t = .ok e) :
    ∃ n, a.remainingAt now t = .ok n := by
  rw [openAt] at h
  obtain ⟨ms, told, h⟩ := exists_of_bind_ok h
  obtain ⟨_, holds, subject⟩ := exists_of_bind_ok h
  obtain ⟨v, envelope, _, _, payload⟩ := sealedClaims_eq_ok told
  -- its end was read as an integer when the claims were checked
  obtain ⟨⟨x, found⟩, _⟩ := subject_inv subject
  obtain ⟨n, read, _⟩ := checkAll_inv holds found
  rw [remainingAt, envelope]
  simp only [payload, found, read]
  exact ⟨_, rfl⟩

/-- A token is good, but it ends so late that the store in memory cannot hold its ban. -/
structure Unbannable (a : Authority) (w : World) (t : String) : Prop where
  opens : ∃ e, a.openAt w.wallSeconds t = .ok e
  unbanned : w.bannedAt w.uptime t = false
  inMemory : ∃ r, w.bans = .register r
  inOrder : w.outages .isBanned = none ∧ w.outages .revoke = none
  overlong : ∃ n, a.remainingAt w.wallSeconds t = .ok n ∧
    (Seconds.whole (max 1 n)).fits = false

end Authority

namespace Service

open Authority

variable {a : Authority} {w w' : World} {t : String}

/-- A text that does not open with a fault of the token's own is refused. -/
lemma checkToken_of_token {f : Fault} {g : TokenFault}
    (h : a.openAt w.wallSeconds t = .error f) (kind : f.kind = .token g) :
    Ends (checkToken a t) w (.error (.refused (.of .invalidToken (some f)))) w := by
  rw [checkToken, attempt_bind]
  refine ⟨_, w, validate_of_openAt_error h, ?_⟩
  simp only [kind]
  rfl

/-- A foreign fault of opening a token escapes from checking it. -/
lemma checkToken_of_foreign {d : Defect} (h : a.openAt w.wallSeconds t = .error (.foreign d)) :
    Ends (checkToken a t) w (.error (.escaped (.foreign d))) w := by
  rw [checkToken, attempt_bind]
  exact ⟨_, w, validate_of_openAt_error h, rfl⟩

/-- Only a text that stumbles lets a fault escape when it is checked. -/
lemma checkToken_contained (plain : Key.IsPlain a.secret) (date : hasDate w.wallSeconds = true)
    (own : w.FailsOwn) (steady : ¬ a.Stumbles w.wallSeconds t) : Contained (checkToken a t) w := by
  refine .attempt_bind fun s v run => ?_
  cases s with
  | ok e => exact .pure e
  | error f =>
    have owned : (∃ g, f.kind = .token g) ∨ f.kind = .ban := by
      obtain opened | ⟨_, rfl | asked⟩ := validate_error_inv run
      · obtain ⟨owned, _⟩ | ⟨_, stumbles⟩ := openAt_settles plain date t
        · exact .inl (owned f opened)
        · exact absurd stumbles steady
      · exact .inl ⟨_, rfl⟩
      · exact .inr (FailsOwn.guarded (own.outages _)
          (fun _ => Bans.contains_failsOwn t w) f v asked)
    obtain ⟨g, kind⟩ | kind := owned
    · simp only [kind]
      exact .refuse _ _
    · simp only [kind]
      exact .unexpectedBan kind

/-- Ending a session whose token was just found good fails with a fault of the ban store's own, if
its ban can be held. -/
lemma revoke_failsOwn {e : Email} (own : w.FailsOwn) (short : ¬ a.Unbannable w t)
    (checked : Ends (checkToken a t) w (.ok e) w') (f : Fault) (w'' : World)
    (run : Ends (a.revoke t) w' (.error f) w'') : f.kind = .ban := by
  obtain ⟨opened, unbanned⟩ := checkToken_inv checked
  obtain ⟨n, remaining⟩ := exists_remainingAt opened
  have kept := checkToken_keeps a t checked
  rw [Authority.revoke] at run
  obtain ⟨m, v, asked, run⟩ | ⟨g, asked, _⟩ := run.bind_inv
  · obtain ⟨told, rfl⟩ := remaining_inv asked
    rw [kept.wallSeconds, remaining] at told
    cases told
    obtain ⟨g, broken, told, _⟩ | ⟨order, run⟩ := guarded_inv run
    · cases told
      rw [kept.outages] at broken
      exact own.outages _ _ broken
    · obtain kind | ⟨_, inMemory, overlong⟩ := Bans.revoke_error run
      · exact kind
      -- a ban that cannot be held now could not be held before the token was checked
      · obtain ⟨_, asked⟩ := validate_ok_iff.1 (checkToken_ok_iff.1 checked)
        obtain ⟨_, _, told, _⟩ | ⟨order', asked⟩ := guarded_inv asked
        · cases told
        · rw [kept.outages] at order
          exact absurd ⟨⟨e, opened⟩, unbanned, Bans.inMemory_of_contains asked inMemory,
            ⟨order', order⟩, n, remaining, overlong⟩ short
  · obtain ⟨told, _⟩ := remaining_inv asked
    rw [kept.wallSeconds, remaining] at told
    cases told

/-- Signing out lets a fault escape that checking the token does, or the overflow of its ban. -/
lemma signOut_contained (plain : Key.IsPlain a.secret) (date : hasDate w.wallSeconds = true)
    (own : w.FailsOwn) (steady : ¬ a.Stumbles w.wallSeconds t) (short : ¬ a.Unbannable w t) :
    Contained (signOut a (some t)) w := by
  rw [signOut]
  cases given : (some t).filter (· ≠ "") with
  | none => exact .refuse _ _
  | some u =>
    obtain ⟨same, _⟩ := Option.filter_eq_some_iff.1 given
    cases same
    refine .bind (checkToken_contained plain date own steady) fun e v checked => ?_
    refine .attempt_bind fun s v' run => ?_
    cases s with
    | ok _ => exact .log _
    | error f =>
      have kind := revoke_failsOwn own short checked f v' run
      dsimp only
      exact .bind (.unexpectedBan kind) fun _ _ _ => .log _

/-- A token that is not empty is a token. -/
lemma filter_of_ne (given : t ≠ "") : (some t).filter (· ≠ "") = some t := by
  rw [Option.filter_eq_some_iff, decide_eq_true_iff]
  exact ⟨rfl, given⟩

/-- Signing out with a text fails as checking it does, unless it is empty. -/
lemma signOut_of_checkToken (given : t ≠ "") {w' : World} {g : Failure}
    (failed : Ends (checkToken a t) w (.error g) w') :
    Ends (signOut a (some t)) w (.error g) w' := by
  rw [signOut, filter_of_ne given]
  exact failed.bind_error _

/-- Signing out with a token that is good but cannot be banned lets the overflow escape. -/
lemma signOut_unbannable (given : t ≠ "") (long : a.Unbannable w t) :
    ∃ w', Ends (signOut a (some t)) w (.error (.escaped .overflow)) w' := by
  obtain ⟨⟨e, opened⟩, unbanned, ⟨b, store⟩, ⟨order, order'⟩, n, remaining, overlong⟩ := long
  -- checking the token may have dropped a ban that was over
  let v : World := { w with bans := .register (b.contains w.uptime t).2 }
  have asked : Ends (Bans.contains t) w (.ok false) v := by
    rw [bannedAt, store] at unbanned
    rw [Bans.contains, Ends.get_bind]
    simp only [store]
    rw [Ends.set_bind, show (b.contains w.uptime t).1 = false from unbanned]
    rfl
  have checked : Ends (checkToken a t) w (.ok e) v :=
    checkToken_ok_iff.2 (validate_ok_iff.2 ⟨opened, guarded_of_none order asked⟩)
  have remains : Ends (a.remaining t) v (.ok n) v := by
    rw [Authority.remaining, Ends.get_bind, show v.wallSeconds = w.wallSeconds from rfl, remaining]
    rfl
  have fails : Ends (a.revoke t) v (.error .overflow) v :=
    remains.bind (guarded_of_none order' (Bans.revoke_overlong rfl overlong))
  refine ⟨v, ?_⟩
  rw [signOut, filter_of_ne given]
  refine checked.bind (attempt_bind.2 ⟨_, v, fails, ?_⟩)
  exact Ends.bind_error _ rfl

end Service

/-- The requests that let a fault escape: a torn password cannot be kept or compared, a token is
checked or signed out over which the service stumbles, or one is signed out whose ban cannot be
held. -/
inductive Request.Escapes (a : Authority) (w : World) : Request → Prop
  | signUp {email : Field} {password : SecretField} {secondFactor : Bool} {e : Email} {p : Password}
    (address : Email.read email = .ok e) (word : Password.read password = .ok p)
    (unkept : w.Unkept e p) : Escapes a w (.signUp email password secondFactor)
  | signIn {email : Field} {password : SecretField} {e : Email} {p : Password}
    (address : Email.read email = .ok e) (word : Password.read password = .ok p)
    (torn : w.Incomparable e p) : Escapes a w (.signIn email password)
  | checkToken {t : String} (stumbles : a.Stumbles w.wallSeconds t) : Escapes a w (.checkToken t)
  | signOut {t : String} (given : t ≠ "") (stumbles : a.Stumbles w.wallSeconds t) :
    Escapes a w (.signOut (some t))
  | overlong {t : String} (given : t ≠ "") (overlong : a.Unbannable w t) :
    Escapes a w (.signOut (some t))

/-- A request that does not escape lets nothing escape. -/
lemma Request.contained {a : Authority} {w : World} (plain : Key.IsPlain a.secret)
    (start : hasDate w.wallSeconds = true) (finish : hasDate (w.wallSeconds + a.seconds) = true)
    (own : w.FailsOwn) {r : Request} (safe : ¬ r.Escapes a w) : Contained (r.op a) w := by
  cases r with
  | signUp email password secondFactor =>
    exact .map (Service.signUp_contained own secondFactor
      fun _ _ address word unkept => safe (.signUp address word unkept))
  | signIn email password =>
    exact .map (Service.signIn_contained plain start finish own
      fun _ _ address word torn => safe (.signIn address word torn))
  | verify email attemptId code =>
    exact .map (Service.verify_contained plain start finish own _ _ _)
  | signOut token =>
    refine .map ?_
    cases token with
    | none => exact .refuse _ _
    | some t =>
      by_cases given : t = ""
      · rw [given]
        exact .refuse _ _
      · exact Service.signOut_contained plain start own (fun h => safe (.signOut given h))
          fun h => safe (.overlong given h)
  | checkToken t =>
    exact .map (Service.checkToken_contained plain start own fun h => safe (.checkToken h))

/-- A request that escapes ends with a fault that escaped. -/
lemma Request.Escapes.run {a : Authority} {w : World} (plain : Key.IsPlain a.secret)
    (start : hasDate w.wallSeconds = true) {r : Request} (h : r.Escapes a w) :
    ∃ f w', Ends (r.op a) w (.error (.escaped f)) w' := by
  have checked {t : String} (stumbles : a.Stumbles w.wallSeconds t) :
      ∃ d, Ends (Service.checkToken a t) w (.error (.escaped (.foreign d))) w := by
    obtain ⟨_, steady⟩ | ⟨⟨d, opened⟩, _⟩ := Authority.openAt_settles plain start t
    · exact absurd stumbles steady
    · exact ⟨d, Service.checkToken_of_foreign opened⟩
  cases h with
  | @signUp _ _ secondFactor _ _ address word unkept =>
    obtain ⟨w', run⟩ := Service.signUp_unkept address word unkept secondFactor
    exact ⟨_, w', run.map Answer.user⟩
  | signIn address word torn =>
    obtain ⟨w', run⟩ := Service.signIn_incomparable (a := a) address word torn
    exact ⟨_, w', run.map Answer.signedIn⟩
  | checkToken stumbles =>
    obtain ⟨d, run⟩ := checked stumbles
    exact ⟨_, w, run.map Answer.belongsTo⟩
  | @signOut t given stumbles =>
    obtain ⟨d, run⟩ := checked stumbles
    have out := Service.signOut_of_checkToken given run
    exact ⟨_, w, out.map fun _ => Answer.signedOut⟩
  | overlong given overlong =>
    obtain ⟨w', run⟩ := Service.signOut_unbannable given overlong
    exact ⟨_, w', run.map fun _ => Answer.signedOut⟩

/-- A fault escapes exactly from those requests, if the secret is plain, the clock and the ends of
sessions have dates, and the collaborators fail with no faults but their own. A text that does not
open, for whatever it claims, is otherwise refused as an invalid token. -/
theorem Request.escapes_iff {a : Authority} {w : World} (plain : Key.IsPlain a.secret)
    (start : hasDate w.wallSeconds = true) (finish : hasDate (w.wallSeconds + a.seconds) = true)
    (own : w.FailsOwn) :
    (∀ r : Request, (∃ f w', Ends (r.op a) w (.error (.escaped f)) w') ↔ r.Escapes a w) ∧
      ∀ t, (∀ e, a.openAt w.wallSeconds t ≠ .ok e) → ¬ a.Stumbles w.wallSeconds t →
        ∃ f, Ends (Service.checkToken a t) w
            (.error (.refused (.of .invalidToken (some f)))) w ∧
          (t ≠ "" → Ends (Service.signOut a (some t)) w
            (.error (.refused (.of .invalidToken (some f)))) w) := by
  refine ⟨fun r => ⟨?_, fun escapes => ?_⟩, fun t closed steady => ?_⟩
  · rintro ⟨f, w', run⟩
    refine Classical.byContradiction fun safe => ?_
    exact Request.contained plain start finish own safe f w' run
  · exact escapes.run plain start
  · obtain ⟨owned, _⟩ | ⟨_, stumbles⟩ := Authority.openAt_settles plain start t
    · cases opened : a.openAt w.wallSeconds t with
      | ok e => exact absurd opened (closed e)
      | error f =>
        obtain ⟨g, kind⟩ := owned f opened
        have refused := Service.checkToken_of_token opened kind
        exact ⟨f, refused, fun given => Service.signOut_of_checkToken given refused⟩
    · exact absurd stumbles steady

/-- The world of the sample fails with no faults of others. -/
lemma World.sample_failsOwn : World.sample.FailsOwn where
  outages _ _ := nofun
  mailing _ _ := nofun
  holdable b store := by
    cases store
    decide

/-- A text with a header that is too deep escapes from the sample world, and a text without a point
is refused. -/
theorem Request.escapes_iff_sample : Key.IsPlain Authority.sample.secret ∧
    hasDate World.sample.wallSeconds = true ∧
    hasDate (World.sample.wallSeconds + Authority.sample.seconds) = true ∧
    World.sample.FailsOwn ∧
    (∃ f w', Ends ((Request.checkToken (Authority.bracketed 3000)).op Authority.sample)
      World.sample (.error (.escaped f)) w') ∧
    ∃ f, Ends (Service.checkToken Authority.sample "no token") World.sample
      (.error (.refused (.of .invalidToken (some f)))) World.sample := by
  obtain ⟨escapes, refused⟩ := @Request.escapes_iff Authority.sample World.sample
    Authority.sample_isPlain rfl rfl World.sample_failsOwn
  refine ⟨Authority.sample_isPlain, rfl, rfl, World.sample_failsOwn, ?_, ?_⟩
  · refine (escapes _).2 (.checkToken (.header ⟨_, _, _, Authority.bracketed_parts 3000, ?_⟩))
    rw [Authority.jsonOf?_encode, Json.read_replicate (by decide)]
  · have noParts {header payload signature : List Char} :
        ¬ Parts "no token" header payload signature := by
      intro parts
      have point : '.' ∈ "no token".toList := by
        rw [parts.text]
        exact List.mem_append_right _ List.mem_cons_self
      exact absurd point (by decide)
    have steady : ¬ Authority.sample.Stumbles World.sample.wallSeconds "no token" := by
      intro stumbles
      cases stumbles with
      | header deep =>
        obtain ⟨_, _, _, parts, _⟩ := deep
        exact noParts parts
      | payload signed _ => exact noParts signed.parts
      | claims signed _ _ => exact noParts signed.parts
    obtain ⟨f, checked, _⟩ := refused "no token" nofun steady
    exact ⟨f, checked⟩

/-- A token of the sample authority's own that claims to end at no number is not refused. -/
theorem Authority.checkToken_endless : Key.IsPlain sample.secret ∧
    hasDate World.sample.wallSeconds = true ∧
    hasDate (World.sample.wallSeconds + sample.seconds) = true ∧ World.sample.FailsOwn ∧
    ∃ t, sample.mint [("sub", .str "a@x.com"), ("exp", .null)] = .ok t ∧
      Ends (Service.checkToken sample t) World.sample (.error (.escaped .wrongType))
        World.sample := by
  refine ⟨sample_isPlain, rfl, rfl, World.sample_failsOwn, ?_⟩
  obtain ⟨signature, sign⟩ := Key.exists_sign sample_isPlain
    (Text.Utf8.encode (signedText [("sub", .str "a@x.com"), ("exp", .null)]))
  have mint : sample.mint [("sub", .str "a@x.com"), ("exp", .null)] =
      .ok (assemble (signedText [("sub", .str "a@x.com"), ("exp", .null)]) signature) := by
    rw [Authority.mint, sign]
    rfl
  have told (room : Nat) :
      Json.Exact (room + 1) (.obj [("sub", .str "a@x.com"), ("exp", .null)]) := by
    refine .obj (by decide) fun m mem => ?_
    simp only [List.mem_cons, List.not_mem_nil, or_false] at mem
    obtain rfl | rfl := mem
    · exact .str
    · exact .null
  refine ⟨_, mint, Service.checkToken_of_foreign ?_⟩
  rw [openAt, sealedClaims_of_mint sample_isPlain (told _) mint]
  rfl

end SignIn
