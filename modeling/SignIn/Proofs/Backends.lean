import SignIn.Proofs.Respect
import SignIn.Proofs.Run

/-!
# Interchangeable stores

Which stores keep the accounts, the bans and the challenges cannot be told from the answers of the
service and the messages that it sends. `Alike` relates two worlds that tell the same from now on.
Every operation answers alike worlds alike and leaves them alike, which is put together along its
code from what the calls of the stores tell; along a run it is an induction over the events.
-/

namespace SignIn

open World

variable {ε α β : Type}

/-! ## Alike worlds -/

/-- Two worlds tell the same of a part from now on. -/
def SamePart (w v : World) : Part → Prop
  | .accounts => ∀ e, v.accounts.read e = w.accounts.read e
  | .bans => ∀ now, w.uptime ≤ now → ∀ t, v.bannedAt now t = w.bannedAt now t
  | .challenges => ∀ now, w.uptime ≤ now → ∀ e c, v.pendingAt now e c = w.pendingAt now e c
  | .draws => v.ids = w.ids ∧ v.codes = w.codes
  | .mailer => v.mailer = w.mailer

/-- Two worlds in order that tell the same from now on, whichever stores they have. -/
structure Alike (w v : World) : Prop where
  order : w.InOrder
  order' : v.InOrder
  wall : v.wall = w.wall
  uptime : v.uptime = w.uptime
  outages : v.outages = w.outages
  lifetime : v.challenges.lifetime = w.challenges.lifetime
  same : ∀ p, SamePart w v p

namespace Alike

variable {parts : List Part} {w v w' v' : World}

/-- Alike worlds stay alike when their clocks move. -/
lemma advance (h : Alike w v) (wall : Int) {uptime : Int} (forward : 0 ≤ uptime) :
    Alike (w.advance wall uptime) (v.advance wall uptime) where
  order := { h.order with started := Int.add_nonneg h.order.started forward }
  order' := { h.order' with started := Int.add_nonneg h.order'.started forward }
  wall := congrArg (· + wall) h.wall
  uptime := congrArg (· + uptime) h.uptime
  outages := h.outages
  lifetime := h.lifetime
  same p := by
    have earlier {now : Int} (le : w.uptime + uptime ≤ now) : w.uptime ≤ now := by omega
    cases p with
    | accounts => exact h.same .accounts
    | bans => exact fun now le => h.same .bans now (earlier le)
    | challenges => exact fun now le => h.same .challenges now (earlier le)
    | draws => exact h.same .draws
    | mailer => exact h.same .mailer

/-- Alike worlds stay alike when the same calls fall out of order. -/
lemma disturb (h : Alike w v) (o : Target → Option Fault) :
    Alike { w with outages := o } { v with outages := o } where
  order := { h.order with }
  order' := { h.order' with }
  wall := h.wall
  uptime := h.uptime
  outages := rfl
  lifetime := h.lifetime
  same p := by
    cases p with
    | accounts => exact h.same .accounts
    | bans => exact h.same .bans
    | challenges => exact h.same .challenges
    | draws => exact h.same .draws
    | mailer => exact h.same .mailer

/-- Worlds stay alike if they do so in all parts that change. -/
lemma next (h : Alike w v) (k : SameBut parts w w') (k' : SameBut parts v v')
    (changed : ∀ p ∈ parts, SamePart w' v' p) : Alike w' v' where
  order := k.inOrder h.order
  order' := k'.inOrder h.order'
  wall := by rw [k'.wall, k.wall, h.wall]
  uptime := by rw [k'.uptime, k.uptime, h.uptime]
  outages := by rw [k'.outages, k.outages, h.outages]
  lifetime := by rw [k'.lifetime, k.lifetime, h.lifetime]
  same p := by
    by_cases inside : p ∈ parts
    · exact changed p inside
    · cases p with
      | accounts =>
        intro e
        rw [k'.accounts inside, k.accounts inside]
        exact h.same .accounts e
      | bans =>
        intro now le t
        rw [k.uptime] at le
        rw [k'.bans inside now (by rw [h.uptime]; exact le), k.bans inside now le]
        exact h.same .bans now le t
      | challenges =>
        intro now le e c
        rw [k.uptime] at le
        rw [k'.challenges inside now (by rw [h.uptime]; exact le), k.challenges inside now le]
        exact h.same .challenges now le e c
      | draws =>
        obtain ⟨ids, codes⟩ := h.same .draws
        obtain ⟨ids₁, codes₁⟩ := k.draws inside
        obtain ⟨ids₂, codes₂⟩ := k'.draws inside
        exact ⟨by rw [ids₂, ids, ids₁], by rw [codes₂, codes, codes₁]⟩
      | mailer =>
        show v'.mailer = w'.mailer
        rw [k'.mailer inside, k.mailer inside]
        exact h.same .mailer

/-- Alike worlds stay alike where no part changes. -/
lemma still (h : Alike w v) (k : SameBut [] w w') (k' : SameBut [] v v') : Alike w' v' :=
  h.next k k' (by nofun)

/-- Alike worlds stay alike where one part changes in the same way. -/
lemma next_part {p : Part} (h : Alike w v) (k : SameBut [p] w w') (k' : SameBut [p] v v')
    (changed : SamePart w' v' p) : Alike w' v' :=
  h.next k k' fun q mem => by rw [List.mem_singleton.1 mem]; exact changed

/-- Alike worlds show the same wall clock. -/
lemma wallSeconds (h : Alike w v) : v.wallSeconds = w.wallSeconds := by
  rw [World.wallSeconds, World.wallSeconds, h.wall]

/-- Alike worlds have the same bans by now. -/
lemma banned_now (h : Alike w v) (t : String) : v.bannedAt v.uptime t = w.bannedAt w.uptime t := by
  rw [h.uptime]
  exact h.same .bans w.uptime (Int.le_refl _) t

/-- Alike worlds have the same challenges pending by now. -/
lemma pending_now (h : Alike w v) (e : Email) (c : Challenge) :
    v.pendingAt v.uptime e c = w.pendingAt w.uptime e c := by
  rw [h.uptime]
  exact h.same .challenges w.uptime (Int.le_refl _) e c

end Alike

/-! ## Blind operations -/

/-- Alike worlds cannot be told apart by an operation: it ends alike in both, up to what is not told
of its failures, and they are alike after it. -/
def Blind (told : ε → ε) (x : ExceptT ε (StateM World) α) : Prop :=
  ∀ ⦃w v⦄, Alike w v → ∀ ⦃r w' s v'⦄, Ends x w r w' → Ends x v s v' →
    r.mapError told = s.mapError told ∧ Alike w' v'

/-- A blind operation respects alike worlds. -/
lemma Blind.respects {told : ε → ε} {x : ExceptT ε (StateM World) α} (h : Blind told x) :
    Respects Alike told x :=
  h

/-! ## Collaborators -/

/-- Looking up an account is blind. -/
lemma Accounts.lookUp_blind (e : Email) : Blind id (lookUp e) := by
  intro w v alike r w' s v' run run'
  obtain ⟨rfl, kept⟩ := lookUp_inv run
  obtain ⟨rfl, kept'⟩ := lookUp_inv run'
  refine ⟨?_, alike.still kept kept'⟩
  rw [alike.same .accounts e]

/-- Asking for a ban is blind. -/
lemma Bans.contains_blind (t : String) : Blind id (contains t) := by
  intro w v alike r w' s v' run run'
  obtain ⟨kept, rfl | ⟨_, broken⟩⟩ := contains_inv run
  · obtain ⟨kept', rfl | ⟨_, broken⟩⟩ := contains_inv run'
    · refine ⟨?_, alike.still kept kept'⟩
      rw [alike.banned_now]
    · exact absurd alike.order'.served broken
  · exact absurd alike.order.served broken

/-- Issuing a challenge is blind. -/
lemma Challenges.issue_blind (e : Email) (c : Challenge) : Blind id (issue e c) := by
  intro w v alike r w' s v' run run'
  obtain ⟨kept, ⟨rfl, set⟩ | ⟨_, _, trouble⟩⟩ := issue_inv run
  · obtain ⟨kept', ⟨rfl, set'⟩ | ⟨_, _, trouble⟩⟩ := issue_inv run'
    · refine ⟨rfl, alike.next_part kept kept' fun now le f d => ?_⟩
      rw [kept.uptime] at le
      rw [set now le, set' now (by rw [alike.uptime]; exact le), alike.uptime, alike.lifetime,
        alike.same .challenges now le f d]
    · exact absurd alike.order'.keepsChallenges trouble
  · exact absurd alike.order.keepsChallenges trouble

/-- Taking a challenge is blind. -/
lemma Challenges.take_blind (e : Email) (c : Challenge) : Blind id (take e c) := by
  intro w v alike r w' s v' run run'
  have pending := alike.pending_now e c
  obtain ⟨rfl, there, kept, taken⟩ | ⟨kept, ⟨rfl, gone⟩ | ⟨_, trouble⟩⟩ := take_inv run
  · obtain ⟨rfl, _, kept', taken'⟩ | ⟨_, ⟨_, gone⟩ | ⟨_, trouble⟩⟩ := take_inv run'
    · refine ⟨rfl, alike.next_part kept kept' fun now le f d => ?_⟩
      rw [kept.uptime] at le
      rw [taken now le, taken' now (by rw [alike.uptime]; exact le),
        alike.same .challenges now le f d]
    · rw [pending, there] at gone
      cases gone
    · exact absurd alike.order'.served trouble
  · obtain ⟨_, there, _⟩ | ⟨kept', ⟨rfl, _⟩ | ⟨_, trouble⟩⟩ := take_inv run'
    · rw [pending, gone] at there
      cases there
    · exact ⟨rfl, alike.still kept kept'⟩
    · exact absurd alike.order'.served trouble
  · exact absurd alike.order.served trouble

/-- Sending a message is blind. -/
lemma Mailer.send_blind (m : Message) : Blind id (send m) := by
  intro w v alike r w' s v' run run'
  obtain ⟨kept, answered⟩ := send_inv run
  obtain ⟨kept', answered'⟩ := send_inv run'
  have mailer : v.mailer = w.mailer := alike.same .mailer
  rw [mailer, ← answered] at answered'
  obtain ⟨rfl, mailer'⟩ := Prod.mk.inj answered'
  exact ⟨rfl, alike.next_part kept kept' mailer'⟩

/-! ## What is told of failures -/

/-- A fault as far as it is told: not by which statement a store noticed that an address is
taken. -/
def Fault.told (f : Fault) : Fault :=
  match f.kind with
  | .account .taken => { f with cause := none }
  | _ => f

def Failure.told : Failure → Failure
  | .refused r => .refused { r with because := r.because.map Fault.told }
  | .escaped f => .escaped f

/-- Faults that are told alike are the same, unless an address is taken. -/
lemma Fault.told_inv {f g : Fault} (h : f.told = g.told) :
    f = g ∨ f.kind = .account .taken ∧ g.kind = .account .taken := by
  rw [told, told] at h
  split at h
  · next taken =>
    split at h
    · next taken' => exact .inr ⟨taken, taken'⟩
    · exact .inr ⟨taken, by rw [← h]; exact taken⟩
  · split at h
    · next taken' => exact .inr ⟨by rw [h]; exact taken', taken'⟩
    · exact .inl h

/-- Only the way in which a taken address is noticed depends on the store, if the password can be
kept in any. -/
lemma Accounts.add_blind {u : User} (whole : u.password.isWhole = true) :
    Blind Fault.told (add u) := by
  intro w v alike r w' s v' run run'
  have reads := alike.same .accounts
  have bound (a : Accounts) : a.canKeep u.password ≠ false := by
    rw [a.canKeep_of_whole whole]
    exact Bool.true_eq_false.mp
  obtain ⟨kept, ⟨rfl, _, free, found⟩ |
    ⟨unchanged, ⟨⟨c, rfl⟩, taken⟩ | ⟨_, trouble⟩ | ⟨_, _, torn⟩⟩⟩ := add_inv run
  · obtain ⟨kept', ⟨rfl, _, _, found'⟩ |
      ⟨_, ⟨_, taken⟩ | ⟨_, trouble⟩ | ⟨_, _, torn⟩⟩⟩ := add_inv run'
    · refine ⟨rfl, alike.next_part kept kept' fun e => ?_⟩
      rw [found, found', reads e]
    · exact absurd ((reads u.email).trans free) taken
    · exact absurd (trouble.symm.trans alike.order'.present) Bool.false_ne_true
    · exact absurd torn (bound _)
  · obtain ⟨kept', ⟨_, _, free, _⟩ |
      ⟨unchanged', ⟨⟨c', rfl⟩, _⟩ | ⟨_, trouble⟩ | ⟨_, _, torn⟩⟩⟩ := add_inv run'
    · exact absurd ((reads u.email).symm.trans free) taken
    · refine ⟨rfl, alike.next_part kept kept' fun e => ?_⟩
      rw [unchanged, unchanged']
      exact reads e
    · exact absurd (trouble.symm.trans alike.order'.present) Bool.false_ne_true
    · exact absurd torn (bound _)
  · exact absurd (trouble.symm.trans alike.order.present) Bool.false_ne_true
  · exact absurd torn (bound _)

/-! ## Operations -/

/-- Registering a user whose password is whole is blind. -/
lemma Service.register_blind {u : User} (whole : u.password.isWhole = true) :
    Blind Failure.told (register u) := by
  intro w v alike r w' s v' run run'
  obtain ⟨p, w₁, first, second⟩ := attempt_bind.1 run
  obtain ⟨q, v₁, first', second'⟩ := attempt_bind.1 run'
  obtain ⟨same, alike₁⟩ :=
    (Accounts.add_blind whole).respects.guarded (fun _ _ h => h.outages) alike first first'
  cases p with
  | ok _ =>
    cases q with
    | ok _ => exact Respects.pure () alike₁ second second'
    | error g => cases same
  | error f =>
    cases q with
    | ok _ => cases same
    | error g =>
      have alike_told := Except.error.inj same
      obtain rfl | ⟨taken, taken'⟩ := Fault.told_inv alike_told
      · have rest : Respects Alike Failure.told (match f.kind with
            | .account .taken => refuse .alreadyRegistered (some f)
            | _ => unexpectedAccount f : Op Unit) := by
          split
          · exact .refuse _ _
          · exact .unexpectedAccount f
        exact rest alike₁ second second'
      -- the address was taken meanwhile, which the stores notice in different ways
      · simp only [taken] at second
        simp only [taken'] at second'
        obtain ⟨rfl, rfl⟩ := refuse_inv second
        obtain ⟨rfl, rfl⟩ := refuse_inv second'
        refine ⟨congrArg Except.error ?_, alike₁⟩
        simp only [Failure.told, Refusal.of, Option.map_some, alike_told]

/-- Operations are blind to what their calls are blind to. -/
lemma alike_congruence : Congruence Alike Failure.told fun _ => True where
  wall _ _ alike := alike.wall
  outages _ _ alike := alike.outages
  noting _ _ alike _ _ _ := alike.still (.noting ..) (.noting ..)
  ids w v alike := by
    obtain ⟨ids, codes⟩ := alike.same .draws
    have drawn (w : World) : SameBut [.draws] w w.idDrawn :=
      { SameBut.refl _ w with draws := absurd List.mem_cons_self }
    refine ⟨ids, alike.next_part (drawn w) (drawn v) ⟨?_, codes⟩⟩
    rw [idDrawn, idDrawn, ids]
  codes w v alike := by
    obtain ⟨ids, codes⟩ := alike.same .draws
    have drawn (w : World) : SameBut [.draws] w w.codeDrawn :=
      { SameBut.refl _ w with draws := absurd List.mem_cons_self }
    refine ⟨codes, alike.next_part (drawn w) (drawn v) ⟨ids, ?_⟩⟩
    rw [codeDrawn, codeDrawn, codes]
  own _ _ _ _ _ _ _ := trivial
  lookUp e _ := Accounts.lookUp_blind e
  issue e _ := Challenges.issue_blind e
  take e _ := Challenges.take_blind e
  send := Mailer.send_blind

/-- Checking a token is blind. -/
lemma Service.checkToken_blind (a : Authority) (t : String) :
    Blind Failure.told (checkToken a t) :=
  alike_congruence.checkToken a (Bans.contains_blind t)

/-! ### Signing out -/

/-- A text that is sealed with the secret has the claims of a minted token. -/
def Authority.Authentic (a : Authority) (t : String) : Prop :=
  ∀ ms, a.sealedClaims t = .ok ms →
    ∃ e expiry id, Token.hasDate expiry = true ∧ ms = Authority.claims e expiry id

/-- What the service has minted is authentic. -/
lemma Authority.Mints.authentic {a : Authority} {t : String} {e : Email} {expiry : Int}
    (minted : a.Mints t e expiry) : a.Authentic t := by
  intro ms told
  obtain ⟨id, rfl⟩ := minted.claims_eq told
  exact ⟨e, expiry, id, minted.1, rfl⟩

/-- An authentic token that opens is good for a number of seconds that every clock can hold. -/
lemma Authority.Authentic.remaining {a : Authority} {t : String} {now : Int} {e : Email}
    (authentic : a.Authentic t) (opened : a.openAt now t = .ok e) :
    ∃ n, a.remainingAt now t = .ok n ∧ (Seconds.whole (max 1 n)).fits = true := by
  rw [openAt] at opened
  cases told : a.sealedClaims t with
  | error f =>
    rw [told] at opened
    cases opened
  | ok ms =>
    obtain ⟨f, expiry, id, date, rfl⟩ := authentic ms told
    refine ⟨_, Authority.remainingAt_of_sealed told now, ?_⟩
    cases date' : Token.hasDate now with
    | true => exact Token.fits_of_dates date date'
    | false =>
      obtain ⟨d, undated⟩ := Token.dated_of_undated date'
      rw [← openAt, Authority.openAt_of_sealed told, undated] at opened
      cases opened

section SigningOut

variable {t : String} {w v w' v' : World}

/-- A token that is not banned is banned alike in alike worlds: no store has to keep a later end of
a ban that there was before. -/
lemma Bans.revoke_alike {n : Int} {r s : Except Fault Unit} (alike : Alike w v)
    (fits : (Seconds.whole (max 1 n)).fits = true) (free : w.bannedAt w.uptime t = false)
    (run : Ends (revoke t (.whole n)) w r w') (run' : Ends (revoke t (.whole n)) v s v') :
    r = s ∧ Alike w' v' := by
  obtain ⟨kept, ⟨rfl, banned⟩ | ⟨_, _, trouble⟩⟩ := revoke_inv run
  · obtain ⟨kept', ⟨rfl, banned'⟩ | ⟨_, _, trouble⟩⟩ := revoke_inv run'
    · have free' := alike.banned_now t
      rw [free] at free'
      rw [alike.uptime] at banned'
      refine ⟨rfl, alike.next_part kept kept' fun now le u => ?_⟩
      rw [kept.uptime] at le
      have le' : v.uptime ≤ now := by rw [alike.uptime]; exact le
      -- both stores tell the token banned up to one instant and free from then on
      by_cases same : u = t
      · subst same
        by_cases early : now < w.uptime + 1000 * max 1 n
        · rw [banned.before now le early, banned'.before now le' early]
        · have late := Int.not_lt.1 early
          rw [banned.after alike.order.started free now le late,
            banned'.after alike.order'.started free' now le' late]
      · rw [banned.others now le u same, banned'.others now le' u same,
          alike.same .bans now le u]
    · exact absurd ⟨alike.order'.served, fits⟩ trouble
  · exact absurd ⟨alike.order.served, fits⟩ trouble

/-- Ending a session is banning its token for the seconds that are left of it. -/
lemma Authority.revoke_of_remaining {a : Authority} {n : Int} {r : Except Fault Unit}
    (remaining : a.remainingAt w.wallSeconds t = .ok n) (run : Ends (a.revoke t) w r w') :
    Ends (World.guarded .revoke (Bans.revoke t (.whole n))) w r w' := by
  obtain ⟨m, w₁, asked, rest⟩ | ⟨_, asked, _⟩ := run.bind_inv
  · obtain ⟨told, rfl⟩ := Service.remaining_inv asked
    rw [remaining] at told
    cases told
    exact rest
  · have told := (Service.remaining_inv asked).1
    rw [remaining] at told
    cases told

/-- An authentic token that is open and not banned is revoked alike in alike worlds. -/
lemma Authority.revoke_alike {a : Authority} {e : Email} {r s : Except Fault Unit}
    (alike : Alike w v) (authentic : a.Authentic t) (opened : a.openAt w.wallSeconds t = .ok e)
    (free : w.bannedAt w.uptime t = false) (run : Ends (a.revoke t) w r w')
    (run' : Ends (a.revoke t) v s v') : r = s ∧ Alike w' v' := by
  obtain ⟨n, remaining, fits⟩ := authentic.remaining opened
  have remaining' : a.remainingAt v.wallSeconds t = .ok n := by rw [alike.wallSeconds, remaining]
  obtain ⟨f, broken, rfl, rfl⟩ | ⟨order, revoked⟩ :=
    World.guarded_inv (revoke_of_remaining remaining run)
  · obtain ⟨f', broken', rfl, rfl⟩ | ⟨order', _⟩ :=
      World.guarded_inv (revoke_of_remaining remaining' run')
    · rw [alike.outages, broken] at broken'
      cases broken'
      exact ⟨rfl, alike⟩
    · rw [alike.outages, broken] at order'
      cases order'
  · obtain ⟨f', broken', _⟩ | ⟨_, revoked'⟩ :=
      World.guarded_inv (revoke_of_remaining remaining' run')
    · rw [alike.outages, order] at broken'
      cases broken'
    · exact Bans.revoke_alike alike fits free revoked revoked'

/-- Signing out with an authentic token: the store that bans it cannot be told. -/
lemma Service.signOut_blind {a : Authority} {token : Option String}
    (authentic : ∀ t, token = some t → a.Authentic t) :
    Blind Failure.told (signOut a token) := by
  intro w v alike r w' s v' run run'
  rw [signOut] at run run'
  cases given : token.filter (· ≠ "") with
  | none =>
    rw [given] at run run'
    exact Respects.refuse _ _ alike run run'
  | some t =>
    rw [given] at run run'
    have genuine := authentic t (Option.filter_eq_some_iff.1 given).1
    obtain ⟨e, w₁, checked, rest⟩ | ⟨g, checked, rfl⟩ := run.bind_inv
    · obtain ⟨e', v₁, checked', rest'⟩ | ⟨g', checked', rfl⟩ := run'.bind_inv
      · obtain ⟨same, alike₁⟩ := checkToken_blind a t alike checked checked'
        cases same
        -- only a token that is open and free is revoked, so its ban is the same in both worlds
        obtain ⟨opened, free⟩ := checkToken_inv checked
        have kept := checkToken_keeps a t checked
        rw [← kept.wallSeconds] at opened
        rw [← kept.uptime, ← kept.bans List.not_mem_nil _ (Int.le_of_eq kept.uptime.symm)] at free
        obtain ⟨p, w₂, ended, last⟩ := attempt_bind.1 rest
        obtain ⟨q, v₂, ended', last'⟩ := attempt_bind.1 rest'
        obtain ⟨rfl, alike₂⟩ := Authority.revoke_alike alike₁ genuine opened free ended ended'
        cases p with
        | ok _ => exact alike_congruence.log _ alike₂ last last'
        | error f =>
          have refused : Respects Alike Failure.told (unexpectedBan f >>= fun _ : Unit =>
              log ("Logout for " ++ e.redacted)) :=
            .bind (.unexpectedBan f) fun _ => alike_congruence.log _
          exact refused alike₂ last last'
      · cases (checkToken_blind a t alike checked checked').1
    · obtain ⟨e', v₁, checked', rest'⟩ | ⟨g', checked', rfl⟩ := run'.bind_inv
      · cases (checkToken_blind a t alike checked checked').1
      · obtain ⟨same, alike₁⟩ := checkToken_blind a t alike checked checked'
        exact ⟨congrArg Except.error (Except.error.inj same), alike₁⟩

end SigningOut

/-! ## Runs -/

/-- What happens to the service from outside: requests, which sign up with whole passwords and sign
out authentic tokens only, steady clocks, and calls that go out of order. -/
def Event.Outside (a : Authority) : Event → Prop
  | .request (.signUp _ password _) => ∀ p, Password.read password = .ok p → p.isWhole = true
  | .request (.signOut token) => ∀ t, token = some t → a.Authentic t
  | .request _ => True
  | .advance _ uptime => 0 ≤ uptime
  | .outages _ => True
  | .server _ => False
  | .close => False

/-- What a caller is told in an event. -/
def World.report (a : Authority) (w : World) : Event → Option (Except Failure Answer)
  | .request r => some (((r.op a).run w).1.mapError Failure.told)
  | _ => none

/-- What is told in each event of a run, and the mailer after each event. -/
def transcript (a : Authority) : World → List Event → List (Option (Except Failure Answer) × Mailer)
  | _, [] => []
  | w, ev :: es => (w.report a ev, (w.step a ev).mailer) :: transcript a (w.step a ev) es

section Runs

variable {a : Authority} {w v : World}

/-- A request about which the backends may not differ is blind. -/
lemma Request.blind {r : Request} (outside : (Event.request r).Outside a) :
    Blind Failure.told (r.op a) := by
  have k := alike_congruence
  have named {email : Field} (e : Email) (_ : Email.read email = .ok e) : True := trivial
  cases r with
  | signUp email password secondFactor =>
    exact (k.signUp named fun u _ word => Service.register_blind (outside u.password word)).map
  | signIn email password => exact (k.signIn a named password).map
  | verify email attemptId code => exact (k.verify a named attemptId code).map
  | signOut token => exact (Service.signOut_blind outside).respects.map
  | checkToken token => exact (Service.checkToken_blind a token).respects.map

/-- An event is told alike in alike worlds and leaves them alike. -/
lemma Alike.step (h : Alike w v) {ev : Event} (outside : ev.Outside a) :
    w.report a ev = v.report a ev ∧ Alike (w.step a ev) (v.step a ev) := by
  cases ev with
  | request r =>
    obtain ⟨x, w', run⟩ := Ends.total (r.op a) w
    obtain ⟨y, v', run'⟩ := Ends.total (r.op a) v
    obtain ⟨same, alike⟩ := Request.blind outside h run run'
    rw [run.step, run'.step]
    refine ⟨?_, alike⟩
    rw [World.report, World.report, show (r.op a).run w = (x, w') from run,
      show (r.op a).run v = (y, v') from run', same]
  | advance wall uptime =>
    have forward : 0 ≤ uptime := outside
    exact ⟨rfl, h.advance wall forward⟩
  | outages o =>
    exact ⟨rfl, h.disturb o⟩
  | server o => cases outside
  | close => cases outside

/-- Alike worlds answer a run alike. -/
lemma Alike.transcript (h : Alike w v) {es : List Event} (outside : ∀ ev ∈ es, ev.Outside a) :
    SignIn.transcript a w es = SignIn.transcript a v es := by
  induction es generalizing w v with
  | nil => rfl
  | cons ev es ih =>
    obtain ⟨told, alike⟩ := h.step (outside ev List.mem_cons_self)
    have mailer : (v.step a ev).mailer = (w.step a ev).mailer := alike.same .mailer
    have rest := ih alike fun ev' mem => outside ev' (List.mem_cons_of_mem ev mem)
    rw [SignIn.transcript, SignIn.transcript, told, mailer, rest]

end Runs

/-! ## A sample -/

/-- The standard settings, but with the bans and the challenges on the server. -/
def Settings.onServer : Settings := { standard with bans := .redis, challenges := .redis }

end SignIn
