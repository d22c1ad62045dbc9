import Mathlib.Logic.Function.Basic
import SignIn.Proofs.Requests

/-!
# Operations side by side

Two operations that are run in related worlds, one in each. `Mirrors` says that they end in the same
way, with related values if they return, and leave the worlds related; it is composed along the code
of both. The operations of the service are put together here once for every relation and every
renaming of what callers send: a `Correspondence` lists what is to be shown of them, which is little
more than what the calls of the stores do in related worlds.
-/

namespace SignIn

open World Token

variable {ε α α' β β' : Type}

/-- Two results match: both are values that are related, or both are failures of which the same is
told. -/
inductive Matched (Q : α → α' → Prop) (told : ε → ε) : Except ε α → Except ε α' → Prop
  | ok {u : α} {u' : α'} (related : Q u u') : Matched Q told (.ok u) (.ok u')
  | error {e e' : ε} (same : told e = told e') : Matched Q told (.error e) (.error e')

/-- A result matches itself. -/
lemma Matched.refl (told : ε → ε) (r : Except ε α) : Matched Eq told r r := by
  cases r with
  | ok => exact .ok rfl
  | error => exact .error rfl

/-- Matched values may be related more loosely. -/
lemma Matched.mono {Q Q' : α → α' → Prop} {told : ε → ε} {r : Except ε α} {s : Except ε α'}
    (h : Matched Q told r s) (sub : ∀ u u', Q u u' → Q' u u') : Matched Q' told r s := by
  cases h with
  | ok related => exact .ok (sub _ _ related)
  | error same => exact .error same

/-- A result matches what a function makes of it. -/
lemma Matched.of_map {f : α → α'} {told : ε → ε} {r : Except ε α} {s : Except ε α'}
    (h : s = r.map f) : Matched (fun u u' => u' = f u) told r s := by
  subst h
  cases r with
  | ok => exact .ok rfl
  | error => exact .error rfl

/-- In related worlds two operations end in the same way, and the worlds are related after them. -/
def Mirrors (R : World → World → Prop) (Q : α → α' → Prop) (told : ε → ε)
    (x : ExceptT ε (StateM World) α) (x' : ExceptT ε (StateM World) α') : Prop :=
  ∀ ⦃w v⦄, R w v → ∀ ⦃r w' s v'⦄, Ends x w r w' → Ends x' v s v' → Matched Q told r s ∧ R w' v'

namespace Mirrors

variable {R : World → World → Prop} {Q : α → α' → Prop} {P : β → β' → Prop} {told : ε → ε}
  {x : ExceptT ε (StateM World) α} {x' : ExceptT ε (StateM World) α'}

/-- What mirrors with related values mirrors with values that are related more loosely. -/
lemma mono {Q' : α → α' → Prop} (h : Mirrors R Q told x x') (sub : ∀ u u', Q u u' → Q' u u') :
    Mirrors R Q' told x x' := by
  intro w v held r w' s v' run run'
  obtain ⟨matched, held'⟩ := h held run run'
  exact ⟨matched.mono sub, held'⟩

/-- Returning related values mirrors. -/
lemma pure {u : α} {u' : α'} (related : Q u u') :
    Mirrors R Q told (Pure.pure u : ExceptT ε (StateM World) α)
      (Pure.pure u' : ExceptT ε (StateM World) α') := by
  intro w v held r w' s v' run run'
  obtain ⟨rfl, rfl⟩ := Ends.pure_inv run
  obtain ⟨rfl, rfl⟩ := Ends.pure_inv run'
  exact ⟨.ok related, held⟩

/-- Failures that tell the same mirror. -/
lemma throw {e e' : ε} (same : told e = told e') :
    Mirrors R Q told (MonadExcept.throw e : ExceptT ε (StateM World) α)
      (MonadExcept.throw e' : ExceptT ε (StateM World) α') := by
  intro w v held r w' s v' run run'
  obtain ⟨rfl, rfl⟩ := Ends.throw_inv run
  obtain ⟨rfl, rfl⟩ := Ends.throw_inv run'
  exact ⟨.error same, held⟩

/-- Results that match mirror. -/
lemma except {u : Except ε α} {u' : Except ε α'} (matched : Matched Q told u u') :
    Mirrors R Q told (liftM u : ExceptT ε (StateM World) α)
      (liftM u' : ExceptT ε (StateM World) α') := by
  intro w v held r w' s v' run run'
  obtain ⟨rfl, rfl⟩ := Ends.except_inv run
  obtain ⟨rfl, rfl⟩ := Ends.except_inv run'
  exact ⟨matched, held⟩

/-- What comes second has to mirror what comes second for the values that the first can return. -/
lemma bind_reached {f : α → ExceptT ε (StateM World) β} {f' : α' → ExceptT ε (StateM World) β'}
    (hx : Mirrors R Q told x x')
    (hf : ∀ u u', (∃ w v w', R w v ∧ Ends x w (.ok u) w') → Q u u' →
      Mirrors R P told (f u) (f' u')) : Mirrors R P told (x >>= f) (x' >>= f') := by
  intro w v held r w' s v' run run'
  obtain ⟨u, w₁, first, second⟩ | ⟨e, first, rfl⟩ := run.bind_inv
  · obtain ⟨u', v₁, first', second'⟩ | ⟨e', first', rfl⟩ := run'.bind_inv
    · obtain ⟨matched, held₁⟩ := hx held first first'
      cases matched with
      | ok related => exact hf u u' ⟨w, v, w₁, held, first⟩ related held₁ second second'
    · cases (hx held first first').1
  · obtain ⟨u', v₁, first', second'⟩ | ⟨e', first', rfl⟩ := run'.bind_inv
    · cases (hx held first first').1
    · obtain ⟨matched, held₁⟩ := hx held first first'
      cases matched with
      | error same => exact ⟨.error same, held₁⟩

/-- What is done one after the other mirrors if each of the two does. -/
lemma bind {f : α → ExceptT ε (StateM World) β} {f' : α' → ExceptT ε (StateM World) β'}
    (hx : Mirrors R Q told x x') (hf : ∀ u u', Q u u' → Mirrors R P told (f u) (f' u')) :
    Mirrors R P told (x >>= f) (x' >>= f') :=
  hx.bind_reached fun u u' _ => hf u u'

/-- Reading the world mirrors if what follows mirrors for related worlds. -/
lemma get_bind {f : World → ExceptT ε (StateM World) α} {f' : World → ExceptT ε (StateM World) α'}
    (hf : ∀ ⦃w v⦄, R w v → Mirrors R Q told (f w) (f' v)) :
    Mirrors R Q told (get >>= f) (get >>= f') := by
  intro w v held r w' s v' run run'
  rw [Ends.get_bind] at run run'
  exact hf held held run run'

/-- Functions that keep related values related keep operations mirrored. -/
lemma map {g : α → β} {g' : α' → β'} (h : Mirrors R Q told x x')
    (hg : ∀ u u', Q u u' → P (g u) (g' u')) : Mirrors R P told (g <$> x) (g' <$> x') := by
  intro w v held r w' s v' run run'
  obtain ⟨r₁, run₁, rfl⟩ := run.map_inv
  obtain ⟨s₁, run₁', rfl⟩ := run'.map_inv
  obtain ⟨matched, held'⟩ := h held run₁ run₁'
  refine ⟨?_, held'⟩
  cases matched with
  | ok related => exact .ok (hg _ _ related)
  | error same => exact .error same

/-- Calls of a collaborator mirror if their work does and related worlds have the same outages. -/
lemma guarded {told : Fault → Fault} (outages : ∀ ⦃w v⦄, R w v → v.outages = w.outages)
    {t : Target} {c : Call α} {c' : Call α'} (h : Mirrors R Q told c c') :
    Mirrors R Q told (World.guarded t c) (World.guarded t c') := by
  refine .get_bind fun w v held => ?_
  rw [outages held]
  cases w.outages t with
  | some f => exact .throw rfl
  | none => exact h

section Failures

variable {told : Failure → Failure}

/-- What is made of how two calls ended, if all of their faults are told in full. -/
lemma attempt_bind {c : Call α} {c' : Call α'} {f : Except Fault α → Op β}
    {f' : Except Fault α' → Op β'} (hc : Mirrors R Q id c c')
    (ok : ∀ u u', Q u u' → Mirrors R P told (f (.ok u)) (f' (.ok u')))
    (error : ∀ g, Mirrors R P told (f (.error g)) (f' (.error g))) :
    Mirrors R P told (Service.attempt c >>= f) (Service.attempt c' >>= f') := by
  intro w v held r w' s v' run run'
  obtain ⟨p, w₁, first, second⟩ := Service.attempt_bind.1 run
  obtain ⟨q, v₁, first', second'⟩ := Service.attempt_bind.1 run'
  obtain ⟨matched, held₁⟩ := hc held first first'
  cases matched with
  | ok related => exact ok _ _ related held₁ second second'
  | error same =>
    cases same
    exact error _ held₁ second second'

/-- A step behind a field mirrors if the fields are read alike. -/
lemma field_bind {u : Except Flaw α} {u' : Except Flaw α'} {f : α → Op β} {f' : α' → Op β'}
    (hu : Matched Q id u u')
    (hf : ∀ k k', u = .ok k → Q k k' → Mirrors R P told (f k) (f' k')) :
    Mirrors R P told (Service.field u >>= f) (Service.field u' >>= f') := by
  cases hu with
  | ok related => exact hf _ _ rfl related
  | error same =>
    cases same
    exact throw rfl

/-- The same refusal mirrors itself. -/
lemma refuse (kind : RefusalKind) (because : Option Fault) :
    Mirrors R Q told (Service.refuse kind because : Op α) (Service.refuse kind because : Op α') :=
  throw rfl

/-- The same escaping fault mirrors itself. -/
lemma escape (f : Fault) :
    Mirrors R Q told (Service.escape f : Op α) (Service.escape f : Op α') :=
  throw rfl

/-- Calls whose faults escape mirror as operations if they do as calls. -/
lemma orEscape {c : Call α} {c' : Call α'} (h : Mirrors R Q id c c') :
    Mirrors R Q told (Service.orEscape c) (Service.orEscape c') :=
  h.attempt_bind (fun _ _ related => .pure related) fun f => .escape f

/-- The refusal of an unexpected fault of the accounts mirrors itself. -/
lemma unexpectedAccount (f : Fault) :
    Mirrors R Q told (Service.unexpectedAccount f : Op α)
      (Service.unexpectedAccount f : Op α') := by
  rw [Service.unexpectedAccount, Service.unexpectedAccount]
  cases f.kind with
  | account => exact .refuse _ _
  | flaw | ban | challenge | token | mail | foreign => exact .escape f

/-- The refusal of an unexpected fault of the challenges mirrors itself. -/
lemma unexpectedChallenge (f : Fault) :
    Mirrors R Q told (Service.unexpectedChallenge f : Op α)
      (Service.unexpectedChallenge f : Op α') := by
  rw [Service.unexpectedChallenge, Service.unexpectedChallenge]
  cases f.kind with
  | challenge => exact .refuse _ _
  | flaw | account | ban | token | mail | foreign => exact .escape f

/-- The refusal of an unexpected fault of the bans mirrors itself. -/
lemma unexpectedBan (f : Fault) :
    Mirrors R Q told (Service.unexpectedBan f : Op α) (Service.unexpectedBan f : Op α') := by
  rw [Service.unexpectedBan, Service.unexpectedBan]
  cases f.kind with
  | ban => exact .refuse _ _
  | flaw | account | challenge | token | mail | foreign => exact .escape f

end Failures

end Mirrors

/-! ## Renamings -/

/-- A renaming of what callers send and are sent. -/
structure Renaming where
  email : Email → Email
  password : Password → Password
  code : OneTimeCode → OneTimeCode
  token : String → String

namespace Renaming

variable {ρ : Renaming}

def user (ρ : Renaming) (u : User) : User :=
  ⟨ρ.email u.email, ρ.password u.password, u.secondFactor⟩

def challenge (ρ : Renaming) (c : Challenge) : Challenge := ⟨c.attempt, ρ.code c.code⟩

/-- A renaming that keeps apart what is apart, keeps what may be shown of an address, and keeps
whether a password is whole. -/
structure Faithful (ρ : Renaming) : Prop where
  email : Function.Injective ρ.email
  redacted : ∀ e, (ρ.email e).redacted = e.redacted
  password : Function.Injective ρ.password
  whole : ∀ p, (ρ.password p).isWhole = p.isWhole
  code : Function.Injective ρ.code
  token : Function.Injective ρ.token
  empty : ρ.token "" = ""

/-- The renaming that changes nothing. -/
def same : Renaming := ⟨id, id, id, id⟩

/-- Changing nothing keeps everything apart. -/
lemma same_faithful : same.Faithful :=
  ⟨fun _ _ h => h, fun _ => rfl, fun _ _ h => h, fun _ => rfl, fun _ _ h => h, fun _ _ h => h, rfl⟩

/-- Passwords agree when the passwords in their place do. -/
lemma Faithful.verdict (faithful : ρ.Faithful) (u : User) (p : Password) :
    Accounts.verdict (ρ.user u) (ρ.password p) = Accounts.verdict u p := by
  have right : ρ.password u.password = ρ.password p ↔ u.password = p :=
    ⟨fun h => faithful.password h, fun h => congrArg ρ.password h⟩
  rw [Accounts.verdict, Accounts.verdict, Password.agrees?, Password.agrees?]
  simp only [user, faithful.whole, right]

/-- The token that is submitted in place of another one opens when that one does, and for an address
that is related to that one's, and it lasts as long. -/
structure Follows (ρ : Renaming) (a : Authority) (P : Email → Email → Prop) (t : String) :
    Prop where
  opens : ∀ now, Matched P id (a.openAt now t) (a.openAt now (ρ.token t))
  remains : ∀ now, a.remainingAt now (ρ.token t) = a.remainingAt now t

/-- Two tokens are minted alike, one for an address and one for the address in its place. -/
def MintedAlike (ρ : Renaming) (a : Authority) (e : Email) (t t' : String) : Prop :=
  ∃ expiry id, hasDate expiry = true ∧ a.mint (Authority.claims e expiry id) = .ok t ∧
    a.mint (Authority.claims (ρ.email e) expiry id) = .ok t'

end Renaming

/-- Whether a token is minted does not depend on its claims. -/
lemma Authority.mint_matched (a : Authority) (ms ms' : Token.Claims.Members) :
    Matched (fun t t' => a.mint ms = .ok t ∧ a.mint ms' = .ok t') id (a.mint ms) (a.mint ms') := by
  rw [mint, mint, Token.Key.sign, Token.Key.sign]
  split
  · exact .error rfl
  · exact .ok ⟨rfl, rfl⟩

/-- What it takes of a relation that it is kept by the operations that name none but some addresses
and by the operations that name others in their place: related worlds show one clock, are out of
order at the same calls and draw the same values, but for codes that are renamed; and what the calls
tell and change is related too. -/
structure Correspondence (ρ : Renaming) (R : World → World → Prop) (told : Failure → Failure)
    (Named : Email → Prop) : Prop where
  faithful : ρ.Faithful
  wall : ∀ ⦃w v⦄, R w v → v.wall = w.wall
  outages : ∀ ⦃w v⦄, R w v → v.outages = w.outages
  noting : ∀ ⦃w v⦄, R w v → ∀ level source text,
    R (w.noting level source text) (v.noting level source text)
  ids : ∀ ⦃w v⦄, R w v → v.ids = w.ids ∧ R w.idDrawn v.idDrawn
  codes : ∀ ⦃w v⦄, R w v →
    ⟨v.codes.draw v.codes.used⟩ = ρ.code ⟨w.codes.draw w.codes.used⟩ ∧ R w.codeDrawn v.codeDrawn
  /-- Whoever is found under an address that may be named, has an address that may be named. -/
  own : ∀ ⦃w v⦄, R w v → ∀ ⦃e u⦄, Named e → w.accounts.read e = .ok u → Named u.email
  lookUp : ∀ ⦃e⦄, Named e → Mirrors R (fun u u' => u' = ρ.user u) id (Accounts.lookUp e)
    (Accounts.lookUp (ρ.email e))
  issue : ∀ ⦃e⦄, Named e → ∀ c,
    Mirrors R Eq id (Challenges.issue e c) (Challenges.issue (ρ.email e) (ρ.challenge c))
  take : ∀ ⦃e⦄, Named e → ∀ c,
    Mirrors R Eq id (Challenges.take e c) (Challenges.take (ρ.email e) (ρ.challenge c))
  send : ∀ e c, Mirrors R Eq id (Mailer.send (Service.codeMessage e c))
    (Mailer.send (Service.codeMessage (ρ.email e) (ρ.code c)))

namespace Correspondence

variable {ρ : Renaming} {R : World → World → Prop} {told : Failure → Failure} {Named : Email → Prop}
  {Q : α → α' → Prop} {P : Email → Email → Prop}

/-- Calls of a collaborator mirror if their work does. -/
lemma guarded (k : Correspondence ρ R told Named) {t : Target} {c : Call α} {c' : Call α'}
    (h : Mirrors R Q id c c') : Mirrors R Q id (World.guarded t c) (World.guarded t c') :=
  h.guarded k.outages

/-- Related worlds show one wall clock. -/
lemma wallSeconds (k : Correspondence ρ R told Named) {w v : World} (related : R w v) :
    v.wallSeconds = w.wallSeconds := by
  rw [World.wallSeconds, World.wallSeconds, k.wall related]

/-- A line about an address is the same line about the address in its place. -/
lemma log (k : Correspondence ρ R told Named) (text : String) :
    Mirrors R Eq told (Service.log text) (Service.log text) := by
  intro w v related r w' s v' run run'
  obtain ⟨rfl, rfl⟩ := Service.log_inv run
  obtain ⟨rfl, rfl⟩ := Service.log_inv run'
  exact ⟨.ok rfl, k.noting related _ _ _⟩

/-- In related worlds the same id is drawn. -/
lemma drawId (k : Correspondence ρ R told Named) {told' : ε → ε} :
    Mirrors R Eq told' (liftM World.drawId : ExceptT ε (StateM World) (BitVec 128))
      (liftM World.drawId) := by
  intro w v related r w' s v' run run'
  obtain ⟨rfl, rfl⟩ := Ends.drawId_inv run
  obtain ⟨rfl, rfl⟩ := Ends.drawId_inv run'
  obtain ⟨same, related'⟩ := k.ids related
  rw [same]
  exact ⟨.ok rfl, related'⟩

/-- In related worlds the codes that are drawn are one another's in the renaming. -/
lemma drawCode (k : Correspondence ρ R told Named) {told' : ε → ε} :
    Mirrors R (fun c c' => (⟨c'⟩ : OneTimeCode) = ρ.code ⟨c⟩) told'
      (liftM World.drawCode : ExceptT ε (StateM World) (Fin 1000000)) (liftM World.drawCode) := by
  intro w v related r w' s v' run run'
  obtain ⟨rfl, rfl⟩ := Ends.drawCode_inv run
  obtain ⟨rfl, rfl⟩ := Ends.drawCode_inv run'
  obtain ⟨renamed, related'⟩ := k.codes related
  exact ⟨.ok renamed, related'⟩

/-! ### Sessions -/

/-- Sessions are opened for both addresses, or for neither. -/
lemma openSession (k : Correspondence ρ R told Named) (a : Authority) (e : Email) :
    Mirrors R (ρ.MintedAlike a e) id (a.issue e) (a.issue (ρ.email e)) := by
  refine .get_bind fun w v related => ?_
  rw [k.wallSeconds related]
  refine .bind (.except (.refl _ _)) fun now _ same => ?_
  subst same
  dsimp only
  split
  · next date =>
    refine .bind k.drawId fun drawn _ same => ?_
    subst same
    -- a secret that cannot sign fails with the same fault for whatever is claimed
    have matched : Matched (ρ.MintedAlike a e) id
        (a.mint (Authority.claims e (now + a.seconds) drawn))
        (a.mint (Authority.claims (ρ.email e) (now + a.seconds) drawn)) :=
      (a.mint_matched _ _).mono fun _ _ ⟨minted, minted'⟩ => ⟨_, drawn, date, minted, minted'⟩
    generalize a.mint (Authority.claims e (now + a.seconds) drawn) = r,
      a.mint (Authority.claims (ρ.email e) (now + a.seconds) drawn) = s at matched ⊢
    cases matched with
    | ok minted => exact .pure minted
    | error same => exact .throw same
  · exact .throw rfl

/-- A token and the one in its place are validated alike if their bans are told alike. -/
lemma validate (k : Correspondence ρ R told Named) (a : Authority) {t : String}
    (follows : ρ.Follows a P t)
    (asked : Mirrors R Eq id (Bans.contains t) (Bans.contains (ρ.token t))) :
    Mirrors R P id (a.validate t) (a.validate (ρ.token t)) := by
  refine .get_bind fun w v related => ?_
  rw [k.wallSeconds related]
  have opens := follows.opens w.wallSeconds
  generalize a.openAt w.wallSeconds t = r, a.openAt w.wallSeconds (ρ.token t) = s at opens ⊢
  cases opens with
  | error same => exact .throw same
  | ok shown =>
    refine .bind (k.guarded asked) fun banned _ same => ?_
    subst same
    split
    · exact .throw rfl
    · exact .pure shown

/-- Checking a token and the one in its place gives related addresses. -/
lemma checkToken (k : Correspondence ρ R told Named) (a : Authority) {t : String}
    (follows : ρ.Follows a P t)
    (asked : Mirrors R Eq id (Bans.contains t) (Bans.contains (ρ.token t))) :
    Mirrors R P told (Service.checkToken a t) (Service.checkToken a (ρ.token t)) := by
  refine .attempt_bind (k.validate a follows asked) (fun _ _ shown => .pure shown) fun f => ?_
  dsimp only
  cases f.kind with
  | token => exact .refuse _ _
  | flaw | account | ban | challenge | mail | foreign => exact .unexpectedBan f

/-- Revoking a token and the one in its place ends alike if the same bans can be put on both. -/
lemma revoke (k : Correspondence ρ R told Named) (a : Authority) {t : String}
    (follows : ρ.Follows a P t)
    (banned : ∀ n, Mirrors R Eq id (Bans.revoke t (.whole n))
      (Bans.revoke (ρ.token t) (.whole n))) :
    Mirrors R Eq id (a.revoke t) (a.revoke (ρ.token t)) := by
  have remaining : Mirrors R Eq id (a.remaining t) (a.remaining (ρ.token t)) := by
    refine .get_bind fun w v related => ?_
    rw [k.wallSeconds related, follows.remains]
    cases a.remainingAt w.wallSeconds t with
    | ok n => exact .pure rfl
    | error f => exact .throw rfl
  refine .bind remaining fun n _ same => ?_
  subst same
  exact k.guarded (banned n)

/-- Signing out of a token and of the one in its place ends alike. -/
lemma signOut (k : Correspondence ρ R told Named) (a : Authority) {token : Option String}
    (shown : ∀ e e', P e e' → e'.redacted = e.redacted)
    (follows : ∀ t, token.filter (· ≠ "") = some t → ρ.Follows a P t)
    (asked : ∀ t, token.filter (· ≠ "") = some t →
      Mirrors R Eq id (Bans.contains t) (Bans.contains (ρ.token t)))
    (banned : ∀ t, token.filter (· ≠ "") = some t → ∀ n,
      Mirrors R Eq id (Bans.revoke t (.whole n)) (Bans.revoke (ρ.token t) (.whole n))) :
    Mirrors R Eq told (Service.signOut a token) (Service.signOut a (token.map ρ.token)) := by
  have filtered : (token.map ρ.token).filter (· ≠ "") =
      (token.filter (· ≠ "")).map ρ.token := by
    cases token with
    | none => rfl
    | some t =>
      -- nothing but the empty text is sent in place of the empty text
      have empty : ρ.token t = "" ↔ t = "" :=
        ⟨fun h => k.faithful.token (h.trans k.faithful.empty.symm), fun h => h ▸ k.faithful.empty⟩
      by_cases none : t = ""
      · simp only [Option.map_some, Option.filter, none, k.faithful.empty]
        rfl
      · simp only [Option.map_some, Option.filter, ne_eq, empty, none, not_false_eq_true,
          decide_true, if_true]
  rw [Service.signOut, Service.signOut, filtered]
  cases given : token.filter (· ≠ "") with
  | none => exact .refuse _ _
  | some t =>
    refine .bind (k.checkToken a (follows t given) (asked t given)) fun e e' related => ?_
    rw [shown e e' related]
    exact .attempt_bind (k.revoke a (follows t given) (banned t given)) (fun _ _ _ => k.log _)
      fun f => .bind (Q := Eq) (.unexpectedBan f) fun _ _ _ => k.log _

/-! ### Accounts -/

/-- An address is free when the address in its place is. -/
lemma requireFree (k : Correspondence ρ R told Named) {e : Email} (named : Named e) :
    Mirrors R Eq told (Service.requireFree e) (Service.requireFree (ρ.email e)) := by
  refine .attempt_bind (k.guarded (k.lookUp named)) (fun _ _ _ => .refuse _ _) fun f => ?_
  dsimp only
  split
  · exact .pure rfl
  · exact .unexpectedAccount f

/-- Registering ends alike if adding to the store does. -/
lemma register (k : Correspondence ρ R told Named) {u : User}
    (added : Mirrors R Eq id (Accounts.add u) (Accounts.add (ρ.user u))) :
    Mirrors R Eq told (Service.register u) (Service.register (ρ.user u)) := by
  refine .attempt_bind (k.guarded added) (fun _ _ _ => .pure rfl) fun f => ?_
  dsimp only
  split
  · exact .refuse _ _
  · exact .unexpectedAccount f

/-- Signing up ends alike if registering the user of the fields does. -/
lemma signUp (k : Correspondence ρ R told Named) {email email' : Field}
    {password password' : SecretField} {secondFactor : Bool}
    (named : ∀ e, Email.read email = .ok e → Named e)
    (address : Email.read email' = (Email.read email).map ρ.email)
    (word : Password.read password' = (Password.read password).map ρ.password)
    (registered : ∀ u : User, Email.read email = .ok u.email →
      Password.read password = .ok u.password →
      Mirrors R Eq told (Service.register u) (Service.register (ρ.user u))) :
    Mirrors R (fun u u' => u' = ρ.user u) told (Service.signUp email password secondFactor)
      (Service.signUp email' password' secondFactor) := by
  refine .field_bind (.of_map address) fun e _ read same => ?_
  refine .field_bind (.of_map word) fun p _ read' same' => ?_
  subst same same'
  refine .bind (k.requireFree (named e read)) fun _ _ _ => ?_
  refine .bind (registered ⟨e, p, secondFactor⟩ read read') fun _ _ _ => ?_
  rw [k.faithful.redacted]
  exact .bind (k.log _) fun _ _ _ => .pure rfl

/-- The user of an address and a password is found when the user in its place is. -/
lemma credentialsOf (k : Correspondence ρ R told Named) {e : Email} (named : Named e)
    (p : Password) :
    Mirrors R (fun u u' => u' = ρ.user u) told (Service.credentialsOf e p)
      (Service.credentialsOf (ρ.email e) (ρ.password p)) := by
  have checked : Mirrors R Eq id (Accounts.check e p)
      (Accounts.check (ρ.email e) (ρ.password p)) := by
    refine .bind (k.lookUp named) fun u _ same => ?_
    subst same
    rw [k.faithful.verdict]
    exact .except (.refl id _)
  refine .attempt_bind (.bind (k.guarded checked) fun _ _ _ => k.guarded (k.lookUp named))
    (fun _ _ same => .pure same) fun f => ?_
  rw [k.faithful.redacted]
  dsimp only
  split
  · exact .refuse _ _
  · exact .bind (k.log _) fun _ _ _ => .refuse _ _
  · exact .escape f

/-! ### Challenges -/

/-- A challenge and the one in its place are mailed, or neither is. -/
lemma mailing (k : Correspondence ρ R told Named) (e : Email) (c : Challenge) :
    Mirrors R Eq told (Service.mailing e c) (Service.mailing (ρ.email e) (ρ.challenge c)) := by
  have noted : Mirrors R Eq told
      (Service.log ("2FA challenge issued for " ++ e.redacted) >>= fun _ => Pure.pure c.attempt)
      (Service.log ("2FA challenge issued for " ++ (ρ.email e).redacted) >>= fun _ =>
        Pure.pure (ρ.challenge c).attempt) := by
    rw [k.faithful.redacted]
    exact .bind (k.log _) fun _ _ _ => .pure rfl
  refine .attempt_bind (k.guarded (k.send e c.code)) (fun _ _ _ => noted) fun f => ?_
  dsimp only
  split
  · exact .bind (Q := Eq) (.refuse _ _) fun _ _ _ => noted
  · exact .bind (Q := Eq) (.escape f) fun _ _ _ => noted

/-- An address is challenged when the address in its place is. -/
lemma challenge (k : Correspondence ρ R told Named) {e : Email} (named : Named e) :
    Mirrors R Eq told (Service.challenge e) (Service.challenge (ρ.email e)) := by
  refine .bind k.drawId fun id _ same => .bind k.drawCode fun c c' renamed => ?_
  subst same
  have challenge : (⟨⟨id⟩, ⟨c'⟩⟩ : Challenge) = ρ.challenge ⟨⟨id⟩, ⟨c⟩⟩ := by
    rw [Renaming.challenge, renamed]
  refine .attempt_bind (Q := Eq) ?_ (fun _ _ _ => ?_) fun f => ?_
  · rw [challenge]
    exact k.guarded (k.issue named ⟨⟨id⟩, ⟨c⟩⟩)
  · have mailed := k.mailing e ⟨⟨id⟩, ⟨c⟩⟩
    rw [← challenge] at mailed
    exact mailed
  · have mailed := k.mailing e ⟨⟨id⟩, ⟨c⟩⟩
    rw [← challenge] at mailed
    exact .bind (Q := Eq) (.unexpectedChallenge f) fun _ _ _ => mailed

/-- What signing in gives: the same challenge, or a session for the address in place of another. -/
inductive SignedInAlike (ρ : Renaming) (a : Authority) : SignedIn → SignedIn → Prop
  | session {e : Email} {t t' : String} (minted : ρ.MintedAlike a e t t') :
    SignedInAlike ρ a (.session t) (.session t')
  | challenge (attempt : AttemptId) : SignedInAlike ρ a (.challenge attempt) (.challenge attempt)

/-- Signing in with fields and with the fields in their place ends alike. -/
lemma signIn (k : Correspondence ρ R told Named) (a : Authority)
    {email email' : Field} {password password' : SecretField}
    (named : ∀ e, Email.read email = .ok e → Named e)
    (address : Email.read email' = (Email.read email).map ρ.email)
    (word : Password.read password' = (Password.read password).map ρ.password) :
    Mirrors R (SignedInAlike ρ a) told (Service.signIn a email password)
      (Service.signIn a email' password') := by
  refine .field_bind (.of_map address) fun e _ read same => ?_
  refine .field_bind (.of_map word) fun p _ _ same' => ?_
  subst same same'
  refine .bind_reached (k.credentialsOf (named e read) p) fun u _ reached same => ?_
  obtain ⟨w, v, _, related, checked⟩ := reached
  subst same
  have named' : Named u.email := k.own related (named e read) (Service.credentialsOf_inv checked).1
  show Mirrors R _ told (if u.secondFactor = true then _ else _)
    (if u.secondFactor = true then _ else _)
  split
  · refine .bind (k.challenge named') fun attempt _ same => ?_
    subst same
    exact .pure (.challenge attempt)
  · rw [k.faithful.redacted]
    refine .bind (k.log _) fun _ _ _ => ?_
    exact .bind (.orEscape (k.openSession a u.email)) fun _ _ minted => .pure (.session minted)

/-- Verifying a code and the code in its place ends alike. -/
lemma verify (k : Correspondence ρ R told Named) (a : Authority)
    {email email' attemptId code code' : Field} (named : ∀ e, Email.read email = .ok e → Named e)
    (address : Email.read email' = (Email.read email).map ρ.email)
    (digits : OneTimeCode.read code' = (OneTimeCode.read code).map ρ.code) :
    Mirrors R (fun t t' => ∃ e, ρ.MintedAlike a e t t') told (Service.verify a email attemptId code)
      (Service.verify a email' attemptId code') := by
  refine .field_bind (.of_map address) fun e _ read same => ?_
  refine .field_bind (.refl _ _) fun id _ _ same' => ?_
  refine .field_bind (.of_map digits) fun c _ _ same'' => ?_
  subst same same' same''
  have met := k.guarded (t := .take) (k.take (named e read) ⟨id, c⟩)
  refine .attempt_bind met (fun taken _ same => ?_) fun f => ?_
  · subst same
    rw [k.faithful.redacted]
    cases taken with
    | false => exact .bind (k.log _) fun _ _ _ => .refuse _ _
    | true =>
      refine .bind (k.log _) fun _ _ _ => ?_
      exact .mono (.orEscape (k.openSession a e)) fun _ _ minted => ⟨e, minted⟩
  · exact .unexpectedChallenge f

end Correspondence

end SignIn
