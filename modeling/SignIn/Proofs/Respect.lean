import SignIn.Proofs.Mirror

/-!
# Operations in related worlds

Two runs of one operation that start in related worlds. `Respects` says that the operation ends
alike in both and leaves the worlds related: it mirrors itself, with the same values. So the
operations are put together as those that mirror each other are, with the renaming that changes
nothing: a `Congruence` lists what is to be shown of a relation, which is little more than what the
calls of the stores do in related worlds. A relation that holds of equal worlds only is an invariant
of one run.
-/

namespace SignIn

open World

variable {ε α β : Type}

/-- Related worlds cannot be told apart by an operation: it ends alike in both, up to what is not
told of its failures, and they are related after it. -/
def Respects (R : World → World → Prop) (told : ε → ε) (x : ExceptT ε (StateM World) α) : Prop :=
  ∀ ⦃w v⦄, R w v → ∀ ⦃r w' s v'⦄, Ends x w r w' → Ends x v s v' →
    r.mapError told = s.mapError told ∧ R w' v'

/-- Results match with the same values if the same is told of them. -/
lemma Matched.eq_iff {told : ε → ε} {r s : Except ε α} :
    Matched Eq told r s ↔ r.mapError told = s.mapError told := by
  constructor
  · intro matched
    cases matched with
    | ok same => rw [same]
    | error same => exact congrArg Except.error same
  · intro same
    cases r with
    | ok u =>
      cases s with
      | ok u' => exact .ok (Except.ok.inj same)
      | error e' => cases same
    | error e =>
      cases s with
      | ok u' => cases same
      | error e' => exact .error (Except.error.inj same)

namespace Respects

variable {R : World → World → Prop} {told : ε → ε} {x : ExceptT ε (StateM World) α}

/-- An operation that respects a relation mirrors itself. -/
lemma iff_mirrors : Respects R told x ↔ Mirrors R Eq told x x := by
  constructor
  · intro h w v related r w' s v' run run'
    obtain ⟨same, related'⟩ := h related run run'
    exact ⟨Matched.eq_iff.2 same, related'⟩
  · intro h w v related r w' s v' run run'
    obtain ⟨matched, related'⟩ := h related run run'
    exact ⟨Matched.eq_iff.1 matched, related'⟩

/-- An operation that respects a relation mirrors itself. -/
lemma mirrors (h : Respects R told x) : Mirrors R Eq told x x :=
  iff_mirrors.1 h

/-- An operation all of whose failures are told in full. -/
lemma exact (h : Respects R id x) {w v w' v' : World} {r s : Except ε α} (related : R w v)
    (run : Ends x w r w') (run' : Ends x v s v') : r = s ∧ R w' v' := by
  obtain ⟨matched, related'⟩ := h.mirrors related run run'
  cases matched with
  | ok same | error same => exact ⟨congrArg _ same, related'⟩

/-- Returning respects every relation. -/
lemma pure (u : α) : Respects R told (Pure.pure u : ExceptT ε (StateM World) α) :=
  iff_mirrors.2 (.pure rfl)

/-- What is done one after the other respects what the two respect. -/
lemma bind {f : α → ExceptT ε (StateM World) β} (hx : Respects R told x)
    (hf : ∀ u, Respects R told (f u)) : Respects R told (x >>= f) := by
  refine iff_mirrors.2 (hx.mirrors.bind fun u _ same => ?_)
  subst same
  exact (hf u).mirrors

/-- A function of an operation respects what the operation respects. -/
lemma map {f : α → β} (h : Respects R told x) : Respects R told (f <$> x) :=
  iff_mirrors.2 (h.mirrors.map fun _ _ same => congrArg f same)

/-- A call of a collaborator respects what its work respects, if related worlds have the same
outages. -/
lemma guarded {told : Fault → Fault} (outages : ∀ ⦃w v⦄, R w v → v.outages = w.outages)
    {t : Target} {c : Call α} (h : Respects R told c) : Respects R told (World.guarded t c) :=
  iff_mirrors.2 (h.mirrors.guarded outages)

section Failures

variable {told : Failure → Failure}

/-- What is made of how a call ended, if all of its faults are told in full. -/
lemma attempt_bind {c : Call α} {f : Except Fault α → Op β} (hc : Respects R id c)
    (hf : ∀ s, Respects R told (f s)) : Respects R told (Service.attempt c >>= f) := by
  refine iff_mirrors.2 (hc.mirrors.attempt_bind ?_ fun g => (hf (.error g)).mirrors)
  intro u _ same
  subst same
  exact (hf (.ok u)).mirrors

/-- Refusing respects every relation. -/
lemma refuse (kind : RefusalKind) (because : Option Fault) :
    Respects R told (Service.refuse kind because : Op α) :=
  iff_mirrors.2 (.refuse kind because)

/-- The refusal of an unexpected fault of the accounts respects every relation. -/
lemma unexpectedAccount (f : Fault) : Respects R told (Service.unexpectedAccount f : Op α) :=
  iff_mirrors.2 (.unexpectedAccount f)

/-- The refusal of an unexpected fault of the bans respects every relation. -/
lemma unexpectedBan (f : Fault) : Respects R told (Service.unexpectedBan f : Op α) :=
  iff_mirrors.2 (.unexpectedBan f)

end Failures

end Respects

/-! ## Congruences -/

/-- What it takes of a relation that it is respected by the operations that name none but some
addresses: related worlds show one clock, are out of order at the same calls and draw the same
values; and what the calls tell and change is related too. -/
structure Congruence (R : World → World → Prop) (told : Failure → Failure)
    (Named : Email → Prop) : Prop where
  wall : ∀ ⦃w v⦄, R w v → v.wall = w.wall
  outages : ∀ ⦃w v⦄, R w v → v.outages = w.outages
  noting : ∀ ⦃w v⦄, R w v → ∀ level source text,
    R (w.noting level source text) (v.noting level source text)
  ids : ∀ ⦃w v⦄, R w v → v.ids = w.ids ∧ R w.idDrawn v.idDrawn
  codes : ∀ ⦃w v⦄, R w v → v.codes = w.codes ∧ R w.codeDrawn v.codeDrawn
  /-- Whoever is found under an address that may be named, has an address that may be named. -/
  own : ∀ ⦃w v⦄, R w v → ∀ ⦃e u⦄, Named e → w.accounts.read e = .ok u → Named u.email
  lookUp : ∀ ⦃e⦄, Named e → Respects R id (Accounts.lookUp e)
  issue : ∀ ⦃e⦄, Named e → ∀ c, Respects R id (Challenges.issue e c)
  take : ∀ ⦃e⦄, Named e → ∀ c, Respects R id (Challenges.take e c)
  send : ∀ m, Respects R id (Mailer.send m)

namespace Congruence

variable {R : World → World → Prop} {told : Failure → Failure} {Named : Email → Prop}

/-- A congruence is a correspondence that renames nothing. -/
lemma correspondence (k : Congruence R told Named) : Correspondence .same R told Named where
  faithful := Renaming.same_faithful
  wall := k.wall
  outages := k.outages
  noting := k.noting
  ids := k.ids
  codes w v related := by
    obtain ⟨same, related'⟩ := k.codes related
    exact ⟨by rw [same]; rfl, related'⟩
  own := k.own
  lookUp _ named := (k.lookUp named).mirrors.mono fun _ _ same => same.symm
  issue _ named c := (k.issue named c).mirrors
  take _ named c := (k.take named c).mirrors
  send e c := (k.send (Service.codeMessage e c)).mirrors

/-- A line of the service respects every congruence. -/
lemma log (k : Congruence R told Named) (text : String) : Respects R told (Service.log text) :=
  Respects.iff_mirrors.2 (k.correspondence.log text)

/-- What is read of one field is renamed by nothing. -/
lemma read_same {r : Except Flaw α} : r = r.map id := by
  cases r with
  | ok | error => rfl

/-- A token follows itself. -/
lemma follows_same (a : Authority) (t : String) : Renaming.same.Follows a Eq t where
  opens _ := .refl _ _
  remains _ := rfl

/-- Tokens that are minted alike for one address are the same. -/
lemma minted_same {a : Authority} {e : Email} {t t' : String}
    (minted : Renaming.same.MintedAlike a e t t') : t = t' := by
  obtain ⟨_, _, _, first, second⟩ := minted
  exact Except.ok.inj (first.symm.trans second)

/-! ### Sessions -/

/-- Checking a token respects a congruence if asking for its ban does. -/
lemma checkToken (k : Congruence R told Named) (a : Authority) {t : String}
    (asked : Respects R id (Bans.contains t)) : Respects R told (Service.checkToken a t) :=
  Respects.iff_mirrors.2 (k.correspondence.checkToken a (follows_same a t) asked.mirrors)

/-- Revoking a token respects a congruence if banning it does. -/
lemma revoke (k : Congruence R told Named) (a : Authority) {t : String}
    (banned : ∀ n, Respects R id (Bans.revoke t (.whole n))) : Respects R id (a.revoke t) :=
  Respects.iff_mirrors.2
    (k.correspondence.revoke a (follows_same a t) fun n => (banned n).mirrors)

/-- Signing out respects a congruence if asking for the ban of its token and banning it do. -/
lemma signOut (k : Congruence R told Named) (a : Authority) {token : Option String}
    (asked : ∀ t, token.filter (· ≠ "") = some t → Respects R id (Bans.contains t))
    (banned : ∀ t, token.filter (· ≠ "") = some t → ∀ n,
      Respects R id (Bans.revoke t (.whole n))) :
    Respects R told (Service.signOut a token) := by
  have mirrored := k.correspondence.signOut a (fun _ _ same => by rw [same])
    (fun t _ => follows_same a t) (fun t given => (asked t given).mirrors)
    fun t given n => (banned t given n).mirrors
  rw [show token.map Renaming.same.token = token from congrFun Option.map_id token] at mirrored
  exact Respects.iff_mirrors.2 mirrored

/-! ### Accounts and challenges -/

/-- Registering respects what adding to the store does. -/
lemma register (k : Congruence R told Named) {u : User} (added : Respects R id (Accounts.add u)) :
    Respects R told (Service.register u) :=
  Respects.iff_mirrors.2 (k.correspondence.register (u := u) added.mirrors)

/-- Signing up respects what registering the user of the fields does. -/
lemma signUp (k : Congruence R told Named) {email : Field} {password : SecretField}
    {secondFactor : Bool} (named : ∀ e, Email.read email = .ok e → Named e)
    (registered : ∀ u : User, Email.read email = .ok u.email →
      Password.read password = .ok u.password → Respects R told (Service.register u)) :
    Respects R told (Service.signUp email password secondFactor) :=
  Respects.iff_mirrors.2 ((k.correspondence.signUp named read_same read_same
    fun u address word => (registered u address word).mirrors).mono fun _ _ same => same.symm)

/-- Signing in respects a congruence that names the address of its field. -/
lemma signIn (k : Congruence R told Named) (a : Authority) {email : Field}
    (named : ∀ e, Email.read email = .ok e → Named e) (password : SecretField) :
    Respects R told (Service.signIn a email password) := by
  refine Respects.iff_mirrors.2
    ((k.correspondence.signIn a named read_same (@read_same _ (Password.read password))).mono
      fun s s' alike => ?_)
  cases alike with
  | session minted => rw [minted_same minted]
  | challenge => rfl

/-- Verifying a code respects a congruence that names the address of its field. -/
lemma verify (k : Congruence R told Named) (a : Authority) {email : Field}
    (named : ∀ e, Email.read email = .ok e → Named e) (attemptId code : Field) :
    Respects R told (Service.verify a email attemptId code) :=
  Respects.iff_mirrors.2
    ((k.correspondence.verify a named read_same (@read_same _ (OneTimeCode.read code))).mono
      fun _ _ ⟨_, minted⟩ => minted_same minted)

end Congruence

end SignIn
