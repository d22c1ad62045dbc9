import SignIn.Proofs.Lifetime
import SignIn.Proofs.Stores

/-!
# What the operations do

The operations of the service in terms of the views of the world. `Keeps` bounds what an operation
may change however it ends, and is composed along its code. Where more is needed than a bound there
is an inversion: signing up registers a user or changes no account, signing in and verifying set and
take challenges, signing out bans a token.
-/

namespace SignIn

open World

variable {ε α β : Type}

/-! ## Failures -/

namespace Service

variable {w w' : World} {f : Fault} {r : Except Failure α}

/-- An unexpected fault of the accounts ends in a failure and changes nothing. -/
lemma unexpectedAccount_inv (h : Ends (unexpectedAccount f : Op α) w r w') :
    (∃ g, r = .error g) ∧ w' = w := by
  rw [unexpectedAccount] at h
  split at h
  · obtain ⟨rfl, rfl⟩ := refuse_inv h
    exact ⟨⟨_, rfl⟩, rfl⟩
  · obtain ⟨rfl, rfl⟩ := escape_inv h
    exact ⟨⟨_, rfl⟩, rfl⟩

/-- An unexpected fault of the challenges ends in a failure and changes nothing. -/
lemma unexpectedChallenge_inv (h : Ends (unexpectedChallenge f : Op α) w r w') :
    (∃ g, r = .error g) ∧ w' = w := by
  rw [unexpectedChallenge] at h
  split at h
  · obtain ⟨rfl, rfl⟩ := refuse_inv h
    exact ⟨⟨_, rfl⟩, rfl⟩
  · obtain ⟨rfl, rfl⟩ := escape_inv h
    exact ⟨⟨_, rfl⟩, rfl⟩

/-- An unexpected fault of the bans ends in a failure and changes nothing. -/
lemma unexpectedBan_inv (h : Ends (unexpectedBan f : Op α) w r w') :
    (∃ g, r = .error g) ∧ w' = w := by
  rw [unexpectedBan] at h
  split at h
  · obtain ⟨rfl, rfl⟩ := refuse_inv h
    exact ⟨⟨_, rfl⟩, rfl⟩
  · obtain ⟨rfl, rfl⟩ := escape_inv h
    exact ⟨⟨_, rfl⟩, rfl⟩

end Service

/-! ## Bounds -/

/-- However it ends, an operation changes nothing that is told but in the given parts. -/
def Keeps (parts : List Part) (x : ExceptT ε (StateM World) α) : Prop :=
  ∀ ⦃w r w'⦄, Ends x w r w' → SameBut parts w w'

namespace Keeps

variable {parts more : List Part} {x : ExceptT ε (StateM World) α}

/-- An operation that changes some parts changes at most more. -/
lemma mono (h : Keeps parts x) (sub : parts ⊆ more) : Keeps more x :=
  fun _ _ _ run => (h run).mono sub

/-- Returning changes nothing. -/
lemma pure (v : α) : Keeps parts (Pure.pure v : ExceptT ε (StateM World) α) := by
  intro w r w' run
  obtain ⟨_, rfl⟩ := Ends.pure_inv run
  exact .refl _ _

/-- Failing changes nothing. -/
lemma throw (e : ε) : Keeps parts (MonadExcept.throw e : ExceptT ε (StateM World) α) := by
  intro w r w' run
  obtain ⟨_, rfl⟩ := Ends.throw_inv run
  exact .refl _ _

/-- What is done one after the other changes what the two change. -/
lemma bind {f : α → ExceptT ε (StateM World) β} (hx : Keeps parts x)
    (hf : ∀ v, Keeps parts (f v)) : Keeps parts (x >>= f) := by
  intro w r w' run
  obtain ⟨v, w₁, first, second⟩ | ⟨e, first, _⟩ := run.bind_inv
  · exact (hx first).trans (hf v second)
  · exact hx first

/-- Reading the world changes nothing. -/
lemma get_bind {f : World → ExceptT ε (StateM World) α} (hf : ∀ v, Keeps parts (f v)) :
    Keeps parts (get >>= f) :=
  fun w _ _ run => hf w (Ends.get_bind.1 run)

/-- A result that is there already changes nothing. -/
lemma except (v : Except ε α) : Keeps parts (liftM v : ExceptT ε (StateM World) α) := by
  intro w r w' run
  obtain ⟨_, rfl⟩ := Ends.except_inv run
  exact .refl _ _

/-- Drawing an id changes the draws alone. -/
lemma drawId : Keeps [.draws] (liftM World.drawId : ExceptT ε (StateM World) (BitVec 128)) := by
  intro w r w' run
  obtain ⟨_, rfl⟩ := Ends.drawId_inv run
  exact { SameBut.refl _ w with draws := absurd List.mem_cons_self }

/-- Drawing a code changes the draws alone. -/
lemma drawCode : Keeps [.draws] (liftM World.drawCode : ExceptT ε (StateM World) _) := by
  intro w r w' run
  obtain ⟨_, rfl⟩ := Ends.drawCode_inv run
  exact { SameBut.refl _ w with draws := absurd List.mem_cons_self }

/-- A call of a collaborator changes what its work changes. -/
lemma guarded {t : Target} {c : Call α} (h : Keeps parts c) : Keeps parts (World.guarded t c) := by
  intro w r w' run
  obtain ⟨_, _, _, rfl⟩ | ⟨_, run⟩ := World.guarded_inv run
  · exact .refl _ _
  · exact h run

/-- An attempt changes what its call changes. -/
lemma attempt {c : Call α} (h : Keeps parts c) : Keeps parts (Service.attempt c) := by
  intro w r w' run
  obtain ⟨_, _, run⟩ := Service.attempt_iff.1 run
  exact h run

/-- Reading a field changes nothing. -/
lemma field (v : Except Flaw α) : Keeps parts (Service.field v) := by
  intro w r w' run
  obtain ⟨rfl, _⟩ := Service.field_inv run
  exact .refl _ _

/-- A line of the service changes nothing but the journal. -/
lemma log (text : String) : Keeps parts (Service.log text) := by
  intro w r w' run
  obtain ⟨_, rfl⟩ := Service.log_inv run
  exact .noting ..

/-- Refusing changes nothing. -/
lemma refuse (kind : RefusalKind) (because : Option Fault) :
    Keeps parts (Service.refuse kind because : Op α) :=
  throw _

/-- Letting a fault escape changes nothing. -/
lemma escape (f : Fault) : Keeps parts (Service.escape f : Op α) :=
  throw _

/-- A call whose faults escape changes what the call changes. -/
lemma orEscape {c : Call α} (h : Keeps parts c) : Keeps parts (Service.orEscape c) := by
  refine bind h.attempt fun s => ?_
  cases s with
  | ok v => exact pure v
  | error f => exact escape f

/-- The refusal of an unexpected fault of the accounts changes nothing. -/
lemma unexpectedAccount (f : Fault) : Keeps parts (Service.unexpectedAccount f : Op α) := by
  intro w r w' run
  obtain ⟨_, rfl⟩ := Service.unexpectedAccount_inv run
  exact .refl _ _

/-- The refusal of an unexpected fault of the challenges changes nothing. -/
lemma unexpectedChallenge (f : Fault) : Keeps parts (Service.unexpectedChallenge f : Op α) := by
  intro w r w' run
  obtain ⟨_, rfl⟩ := Service.unexpectedChallenge_inv run
  exact .refl _ _

/-- The refusal of an unexpected fault of the bans changes nothing. -/
lemma unexpectedBan (f : Fault) : Keeps parts (Service.unexpectedBan f : Op α) := by
  intro w r w' run
  obtain ⟨_, rfl⟩ := Service.unexpectedBan_inv run
  exact .refl _ _

end Keeps

/-! ## Collaborators -/

/-- How a mailer answers a message, and the mailer after that. -/
def Mailer.answer (m : Message) : Mailer → Except Fault Unit × Mailer
  | .dummy => (.ok (), .dummy)
  | .recorder sent closes => (.ok (), .recorder (sent ++ [m]) closes)
  | .provider p =>
    match (p.deliver m).1 with
    | .ok () => (.ok (), .provider (p.deliver m).2)
    | .error (.failed reason message) =>
      (.error ⟨.mail, some message, some (.request reason)⟩, .provider (p.deliver m).2)
    | .error (.escaped d) => (.error (.foreign d), .provider (p.deliver m).2)

/-- Sending a message ends as the mailer answers it, and changes the mailer only. -/
lemma Mailer.send_inv {m : Message} {w w' : World} {r : Except Fault Unit}
    (run : Ends (send m) w r w') :
    SameBut [.mailer] w w' ∧ (r, w'.mailer) = w.mailer.answer m := by
  have out {β : Prop} : .mailer ∉ [Part.mailer] → β := absurd List.mem_cons_self
  rw [send, Ends.get_bind] at run
  cases store : w.mailer with
  | dummy =>
    simp only [store] at run
    obtain ⟨rfl, rfl⟩ := Ends.log_inv run
    exact ⟨.noting .., by rw [World.noting, store, answer]⟩
  | recorder sent closes =>
    simp only [store] at run
    obtain ⟨rfl, rfl⟩ := Ends.set_inv run
    exact ⟨{ SameBut.refl _ w with mailer := out }, rfl⟩
  | provider p =>
    simp only [store, Ends.set_bind] at run
    have changed : SameBut [.mailer] w { w with mailer := .provider (p.deliver m).2 } :=
      { SameBut.refl _ w with mailer := out }
    rw [answer]
    cases outcome : (p.deliver m).1 with
    | ok _ =>
      simp only [outcome] at run
      obtain ⟨rfl, rfl⟩ := Ends.log_inv run
      exact ⟨changed.trans (.noting ..), rfl⟩
    | error f =>
      cases f with
      | failed reason message =>
        simp only [outcome, Ends.log_bind] at run
        obtain ⟨rfl, rfl⟩ := Ends.throw_inv run
        exact ⟨changed.trans (.noting ..), rfl⟩
      | escaped d =>
        simp only [outcome] at run
        obtain ⟨rfl, rfl⟩ := Ends.throw_inv run
        exact ⟨changed, rfl⟩

namespace Authority

/-- Issuing a token draws an id and changes nothing else. -/
lemma issue_keeps (a : Authority) (e : Email) : Keeps [.draws] (a.issue e) := by
  refine .get_bind fun v => .bind (.except _) fun now => ?_
  dsimp only
  split
  · refine .bind .drawId fun id => ?_
    split
    · exact .pure _
    · exact .throw _
  · exact .throw _

/-- Validating a token changes nothing. -/
lemma validate_keeps (a : Authority) (t : String) : Keeps [] (a.validate t) := by
  refine .get_bind fun v => ?_
  split
  · exact .throw _
  · refine .bind (.guarded fun _ _ _ run => (Bans.contains_inv run).1) fun banned => ?_
    split
    · exact .throw _
    · exact .pure _

end Authority

/-! ## Operations -/

namespace Service

variable {w w' : World}

/-! ### Accounts -/

/-- Asking whether an address is free changes nothing. -/
lemma requireFree_keeps (e : Email) : Keeps [] (requireFree e) := by
  refine .bind (.attempt (.guarded fun _ _ _ run => (Accounts.lookUp_inv run).2)) fun s => ?_
  cases s with
  | ok u => exact .refuse _ _
  | error f =>
    dsimp only
    split
    · exact .pure _
    · exact .unexpectedAccount f

/-- A user is registered if the address is free and the password can be kept, or no account
changes. -/
lemma register_inv {u : User} {r : Except Failure Unit} (h : Ends (register u) w r w') :
    SameBut [.accounts] w w' ∧
      ((r = .ok () ∧ w.accounts.canKeep u.password = true ∧
        w.accounts.read u.email = .error (.account .unknown) ∧
        ∀ e, w'.accounts.read e = if u.email = e then .ok u else w.accounts.read e) ∨
      (∃ g, r = .error g) ∧ w'.accounts = w.accounts) := by
  rw [register] at h
  obtain ⟨s, v, run, rest⟩ := attempt_bind.1 h
  cases s with
  | ok _ =>
    obtain ⟨rfl, rfl⟩ := Ends.pure_inv rest
    obtain ⟨_, _, told, _⟩ | ⟨_, run⟩ := World.guarded_inv run
    · cases told
    · obtain ⟨same, added | ⟨_, ⟨⟨_, told⟩, _⟩ | ⟨⟨_, told⟩, _⟩ | ⟨told, _⟩⟩⟩ :=
        Accounts.add_inv run
      · exact ⟨same, .inl ⟨rfl, added.2⟩⟩
      · cases told
      · cases told
      · cases told
  | error f =>
    have failed : (∃ g, r = .error g) ∧ w' = v := by
      dsimp only at rest
      split at rest
      · obtain ⟨rfl, rfl⟩ := refuse_inv rest
        exact ⟨⟨_, rfl⟩, rfl⟩
      · exact unexpectedAccount_inv rest
    obtain ⟨told, rfl⟩ := failed
    obtain ⟨_, _, _, rfl⟩ | ⟨_, run⟩ := World.guarded_inv run
    · exact ⟨.refl _ _, .inr ⟨told, rfl⟩⟩
    · obtain ⟨same, ⟨added, _⟩ | ⟨kept, _⟩⟩ := Accounts.add_inv run
      · cases added
      · exact ⟨same, .inr ⟨told, kept⟩⟩

/-- Signing up changes the accounts alone. -/
lemma signUp_keeps (email : Field) (password : SecretField) (secondFactor : Bool) :
    Keeps [.accounts] (signUp email password secondFactor) := by
  refine .bind (.field _) fun e => .bind (.field _) fun p => ?_
  refine .bind ((requireFree_keeps e).mono (List.nil_subset _)) fun _ => ?_
  exact .bind (fun _ _ _ run => (register_inv run).1) fun _ => .bind (.log _) fun _ => .pure _

/-- Signing up registers the user of its fields at a free address, or changes no account. -/
lemma signUp_inv {email : Field} {password : SecretField} {secondFactor : Bool}
    {r : Except Failure User}
    (h : Ends (signUp email password secondFactor) w r w') :
    (∃ e p, Email.read email = .ok e ∧ Password.read password = .ok p ∧
        r = .ok ⟨e, p, secondFactor⟩ ∧ w.accounts.read e = .error (.account .unknown) ∧
        ∀ f, w'.accounts.read f =
          if e = f then .ok ⟨e, p, secondFactor⟩ else w.accounts.read f) ∨
      (∃ g, r = .error g) ∧ w'.accounts = w.accounts := by
  obtain ⟨e, address, h₁⟩ | ⟨_, _, rfl, rfl⟩ := field_bind_inv h
  · obtain ⟨p, password, h₂⟩ | ⟨_, _, rfl, rfl⟩ := field_bind_inv h₁
    · obtain ⟨_, w₁, checked, h₃⟩ | ⟨g, checked, rfl⟩ := h₂.bind_inv
      · have unchanged := (requireFree_keeps e checked).accounts List.not_mem_nil
        obtain ⟨_, w₂, added, h₄⟩ | ⟨g, added, rfl⟩ := h₃.bind_inv
        · obtain ⟨_, ⟨_, _, free, found⟩ | ⟨⟨_, told⟩, _⟩⟩ := register_inv added
          · rw [log_bind] at h₄
            obtain ⟨rfl, rfl⟩ := Ends.pure_inv h₄
            rw [unchanged] at free found
            exact .inl ⟨e, p, address, password, rfl, free, found⟩
          · cases told
        · obtain ⟨_, ⟨told, _⟩ | ⟨_, kept⟩⟩ := register_inv added
          · cases told
          · exact .inr ⟨⟨_, rfl⟩, kept.trans unchanged⟩
      · exact .inr ⟨⟨_, rfl⟩, (requireFree_keeps e checked).accounts List.not_mem_nil⟩
    · exact .inr ⟨⟨_, rfl⟩, rfl⟩
  · exact .inr ⟨⟨_, rfl⟩, rfl⟩

/-- Looking for the user of an address and a password changes nothing. -/
lemma credentialsOf_keeps (e : Email) (p : Password) : Keeps [] (credentialsOf e p) := by
  have check : Keeps [] (Accounts.check e p) := fun _ _ _ run => (Accounts.check_inv run).2
  have lookUp : Keeps [] (Accounts.lookUp e) := fun _ _ _ run => (Accounts.lookUp_inv run).2
  refine .bind (.attempt (.bind (.guarded check) fun _ => .guarded lookUp)) fun s => ?_
  cases s with
  | ok u => exact .pure u
  | error f =>
    dsimp only
    split
    · exact .refuse _ _
    · exact .bind (.log _) fun _ => .refuse _ _
    · exact .escape f

/-- Only the user who is found under the address has the right credentials, and only with the
user's password. -/
lemma credentialsOf_inv {e : Email} {p : Password} {u : User}
    (h : Ends (credentialsOf e p) w (.ok u) w') :
    w.accounts.read e = .ok u ∧ u.password = p := by
  rw [credentialsOf] at h
  obtain ⟨s, v, run, h⟩ := attempt_bind.1 h
  cases s with
  | ok u' =>
    obtain ⟨told, rfl⟩ := Ends.pure_inv h
    obtain rfl := Except.ok.inj told
    obtain ⟨_, w₁, checked, looked⟩ | ⟨_, _, told⟩ := run.bind_inv
    · obtain ⟨_, _, told, _⟩ | ⟨_, checked⟩ := World.guarded_inv checked
      · cases told
      · obtain ⟨checked, same⟩ := Accounts.check_inv checked
        obtain ⟨_, _, told, _⟩ | ⟨_, looked⟩ := World.guarded_inv looked
        · cases told
        · obtain ⟨found, _⟩ := Accounts.lookUp_inv looked
          rw [same.accounts List.not_mem_nil] at found
          rw [← found, Except.bind] at checked
          exact ⟨found.symm, (Accounts.verdict_eq_ok_iff.1 checked.symm).1⟩
    · cases told
  | error f =>
    dsimp only at h
    split at h
    · cases (refuse_inv h).1
    · obtain ⟨_, _, _, h⟩ | ⟨_, _, told⟩ := h.bind_inv
      · cases (refuse_inv h).1
      · cases told
    · cases (escape_inv h).1

/-! ### Challenges -/

/-- A call whose faults escape ends as the call, its fault escaping. -/
lemma orEscape_inv {c : Call α} {r : Except Failure α} (h : Ends (orEscape c) w r w') :
    ∃ s, Ends c w s w' ∧ r = s.mapError .escaped := by
  rw [orEscape] at h
  obtain ⟨s, v, run, rest⟩ := attempt_bind.1 h
  cases s with
  | ok v =>
    obtain ⟨rfl, rfl⟩ := Ends.pure_inv rest
    exact ⟨_, run, rfl⟩
  | error f =>
    obtain ⟨rfl, rfl⟩ := escape_inv rest
    exact ⟨_, run, rfl⟩

/-- The challenge that is drawn next. -/
def nextChallenge (w : World) : Challenge :=
  ⟨⟨w.ids.draw w.ids.used⟩, ⟨w.codes.draw w.codes.used⟩⟩

/-- The call that stores the challenge that was drawn in a world. -/
def Stores (w : World) (e : Email) (r : Except Fault Unit) (w' : World) : Prop :=
  Ends (World.guarded .issue (Challenges.issue e (nextChallenge w))) w.idDrawn.codeDrawn r w'

/-- What setting a challenge does after it was stored: it mails the code. -/
def mailing (e : Email) (c : Challenge) : Op AttemptId := do
  match ← attempt (World.guarded .send (Mailer.send (codeMessage e c.code))) with
  | .ok () => pure ()
  | .error f =>
    match f.kind with
    | .mail => refuse .unexpected (some f)
    | _ => escape f
  log ("2FA challenge issued for " ++ e.redacted)
  return c.attempt

/-- Mailing a challenge changes the mailer alone. -/
lemma mailing_keeps (e : Email) (c : Challenge) : Keeps [.mailer] (mailing e c) := by
  refine .bind (.attempt (.guarded fun _ _ _ run => (Mailer.send_inv run).1)) fun s => ?_
  cases s with
  | ok _ => exact .bind (.log _) fun _ => .pure _
  | error f =>
    dsimp only
    split
    · exact .bind (.refuse _ _) fun _ => .bind (.log _) fun _ => .pure _
    · exact .bind (.escape f) fun _ => .bind (.log _) fun _ => .pure _

/-- Mailing a code fails only if the message cannot be sent, and does nothing after that. -/
lemma mailing_inv {e : Email} {c : Challenge} {r : Except Failure AttemptId}
    (h : Ends (mailing e c) w r w') :
    r = .ok c.attempt ∨ ∃ f, Ends (World.guarded .send (Mailer.send (codeMessage e c.code))) w
      (.error f) w' := by
  rw [mailing, attempt_bind] at h
  obtain ⟨s, v, sent, h⟩ := h
  cases s with
  | ok _ =>
    dsimp only at h
    rw [log_bind] at h
    exact .inl (Ends.pure_inv h).1
  | error f =>
    dsimp only at h
    obtain rfl : w' = v := by
      split at h
      · obtain ⟨_, _, refused, _⟩ | ⟨_, refused, _⟩ := h.bind_inv
        · cases (refuse_inv refused).1
        · exact (refuse_inv refused).2
      · obtain ⟨_, _, escaped, _⟩ | ⟨_, escaped, _⟩ := h.bind_inv
        · cases (escape_inv escaped).1
        · exact (escape_inv escaped).2
    exact .inr ⟨f, sent⟩

/-- Setting a challenge stores the one that is drawn next and mails its code, or fails to store
it. -/
lemma challenge_inv {e : Email} {r : Except Failure AttemptId} (h : Ends (challenge e) w r w') :
    (∃ v, Stores w e (.ok ()) v ∧ Ends (mailing e (nextChallenge w)) v r w') ∨
      ∃ f, Stores w e (.error f) w' ∧ ∃ g, r = .error g := by
  rw [challenge, Ends.drawId_bind, Ends.drawCode_bind, attempt_bind] at h
  obtain ⟨s, v, stored, h⟩ := h
  cases s with
  | ok _ => exact .inl ⟨v, stored, h⟩
  | error f =>
    dsimp only at h
    obtain ⟨_, _, refused, _⟩ | ⟨_, refused, told⟩ := h.bind_inv
    · obtain ⟨⟨_, told⟩, _⟩ := unexpectedChallenge_inv refused
      cases told
    · obtain ⟨_, rfl⟩ := unexpectedChallenge_inv refused
      exact .inr ⟨f, stored, _, told⟩

/-- Storing a challenge sets it, or nothing is told anew. -/
lemma stores_inv {e : Email} {r : Except Fault Unit} (h : Stores w e r w') :
    SameBut [.challenges, .draws] w w' ∧
      (r = .ok () ∧
          w.ChallengeSet w' e (nextChallenge w) (w.uptime + 1000 * w.challenges.lifetime) ∨
        (∃ f, r = .error f) ∧ SameBut [.draws] w w') := by
  have drawn : SameBut [.draws] w w.idDrawn.codeDrawn :=
    { SameBut.refl _ w with draws := absurd List.mem_cons_self }
  have draws : SameBut [.challenges, .draws] w w.idDrawn.codeDrawn :=
    drawn.mono (List.subset_cons_self _ _)
  obtain ⟨f, _, rfl, rfl⟩ | ⟨_, run⟩ := World.guarded_inv h
  · exact ⟨draws, .inr ⟨⟨f, rfl⟩, drawn⟩⟩
  · obtain ⟨same, ⟨rfl, set⟩ | ⟨failed, kept, _⟩⟩ := Challenges.issue_inv run
    · refine ⟨draws.trans (same.mono (List.cons_subset_cons _ (List.nil_subset _))),
        .inl ⟨rfl, fun now le f d => ?_⟩⟩
      rw [set now le f d]
      rfl
    · exact ⟨draws.trans (kept.mono (List.nil_subset _)),
        .inr ⟨failed, drawn.trans (kept.mono (List.nil_subset _))⟩⟩

/-- Challenging an address sets a challenge, draws for it and mails it. -/
lemma challenge_keeps (e : Email) : Keeps [.challenges, .draws, .mailer] (challenge e) := by
  intro w r w' run
  have sub : [Part.challenges, .draws] ⊆ [.challenges, .draws, .mailer] :=
    List.cons_subset_cons _ (List.cons_subset_cons _ (List.nil_subset _))
  obtain ⟨v, stored, mailed⟩ | ⟨f, stored, _⟩ := challenge_inv run
  · refine ((stores_inv stored).1.mono sub).trans ((mailing_keeps e _ mailed).mono ?_)
    exact List.subset_cons_of_subset _ (List.subset_cons_self _ _)
  · exact (stores_inv stored).1.mono sub

/-- Signing in ends with the failure of its credentials, or sets a challenge, or opens a session. -/
lemma signIn_inv {a : Authority} {email : Field} {password : SecretField}
    {r : Except Failure SignedIn} (h : Ends (signIn a email password) w r w') :
    (∃ g, r = .error g) ∧ SameBut [] w w' ∧
        (∀ e p u v, Email.read email = .ok e → Password.read password = .ok p →
          ¬ Ends (credentialsOf e p) w (.ok u) v) ∨
      ∃ e p u v, Email.read email = .ok e ∧ Password.read password = .ok p ∧
        Ends (credentialsOf e p) w (.ok u) v ∧
        (u.secondFactor = true ∧ (∃ s, Ends (challenge u.email) v s w' ∧ r = s.map .challenge) ∨
          u.secondFactor = false ∧ ∃ s, Ends (a.issue u.email)
            (v.noting .info source ("Login succeeded for " ++ e.redacted)) s w' ∧
              r = (s.mapError .escaped).map .session) := by
  rw [signIn] at h
  obtain ⟨e, address, h₁⟩ | ⟨_, flawed, rfl, rfl⟩ := field_bind_inv h
  · obtain ⟨p, word, h₂⟩ | ⟨_, flawed, rfl, rfl⟩ := field_bind_inv h₁
    · obtain ⟨u, v, checked, h₃⟩ | ⟨g, checked, rfl⟩ := h₂.bind_inv
      · refine .inr ⟨e, p, u, v, address, word, checked, ?_⟩
        cases second : u.secondFactor with
        | true =>
          rw [second, if_pos rfl] at h₃
          refine .inl ⟨rfl, ?_⟩
          obtain ⟨_, w₁, set, h₄⟩ | ⟨g, set, rfl⟩ := h₃.bind_inv
          · obtain ⟨rfl, rfl⟩ := Ends.pure_inv h₄
            exact ⟨_, set, rfl⟩
          · exact ⟨_, set, rfl⟩
        | false =>
          rw [second, if_neg Bool.false_ne_true] at h₃
          refine .inr ⟨rfl, ?_⟩
          rw [log_bind] at h₃
          obtain ⟨t, w₁, opened, h₄⟩ | ⟨g, opened, rfl⟩ := h₃.bind_inv
          · obtain ⟨rfl, rfl⟩ := Ends.pure_inv h₄
            obtain ⟨s, run, told⟩ := orEscape_inv opened
            exact ⟨s, run, by rw [← told]; rfl⟩
          · obtain ⟨s, run, told⟩ := orEscape_inv opened
            exact ⟨s, run, by rw [← told]; rfl⟩
      · refine .inl ⟨⟨_, rfl⟩, credentialsOf_keeps e p checked, ?_⟩
        intro e' p' u v address' word' accepted
        rw [address] at address'
        rw [word] at word'
        cases address'
        cases word'
        cases (checked.unique accepted).1
    · refine .inl ⟨⟨_, rfl⟩, .refl _ _, fun _ _ _ _ _ word => ?_⟩
      rw [flawed] at word
      cases word
  · refine .inl ⟨⟨_, rfl⟩, .refl _ _, fun _ _ _ _ address => ?_⟩
    rw [flawed] at address
    cases address

/-- The redemption of the challenge that the fields of a verification name. -/
def Redeems (email attemptId code : Field) (w : World) (e : Email) (w' : World) : Prop :=
  ∃ id c, Email.read email = .ok e ∧ AttemptId.read attemptId = .ok id ∧
    OneTimeCode.read code = .ok c ∧
      Ends (World.guarded .take (Challenges.take e ⟨id, c⟩)) w (.ok true) w'

/-- A redeemed challenge was pending, and the address has none after that. -/
lemma redeems_inv {email attemptId code : Field} {e : Email}
    (h : Redeems email attemptId code w e w') :
    (∃ c, AttemptId.read attemptId = .ok c.attempt ∧ OneTimeCode.read code = .ok c.code ∧
        w.pendingAt w.uptime e c = true) ∧
      SameBut [.challenges] w w' ∧ w.ChallengeTaken w' e := by
  obtain ⟨id, c, _, attempt, digits, run⟩ := h
  obtain ⟨_, _, told, _⟩ | ⟨_, run⟩ := World.guarded_inv run
  · cases told
  · obtain ⟨_, pending, same, taken⟩ | ⟨_, ⟨told, _⟩ | ⟨⟨_, told⟩, _⟩⟩ := Challenges.take_inv run
    · exact ⟨⟨⟨id, c⟩, attempt, digits, pending⟩, same, taken⟩
    · cases told
    · cases told

/-- Verifying redeems a challenge and opens a session, or changes nothing. -/
lemma verify_inv {a : Authority} {email attemptId code : Field} {r : Except Failure String}
    (h : Ends (verify a email attemptId code) w r w') :
    (∃ e v, Redeems email attemptId code w e v ∧ ∃ s, Ends (a.issue e)
        (v.noting .info source ("2FA verification succeeded for " ++ e.redacted)) s w' ∧
          r = s.mapError .escaped) ∨
      (∃ g, r = .error g) ∧ SameBut [] w w' ∧ ∀ e v, ¬ Redeems email attemptId code w e v := by
  rw [verify] at h
  obtain ⟨e, address, h₁⟩ | ⟨_, flawed, rfl, rfl⟩ := field_bind_inv h
  · obtain ⟨id, attempt, h₂⟩ | ⟨_, flawed, rfl, rfl⟩ := field_bind_inv h₁
    · obtain ⟨c, digits, h₃⟩ | ⟨_, flawed, rfl, rfl⟩ := field_bind_inv h₂
      · obtain ⟨s, v, run, h₄⟩ := attempt_bind.1 h₃
        -- the fields name one pair, and the store answers once
        have only {s : Except Fault Bool}
            (run : Ends (World.guarded .take (Challenges.take e ⟨id, c⟩)) w s v)
            (other : s ≠ .ok true) (e' : Email) (v' : World) :
            ¬ Redeems email attemptId code w e' v' := by
          rintro ⟨id', c', address', attempt', digits', run'⟩
          rw [address] at address'
          rw [attempt] at attempt'
          rw [digits] at digits'
          cases address'
          cases attempt'
          cases digits'
          exact other (run.unique run').1
        have unchanged {s : Except Fault Bool}
            (run : Ends (World.guarded .take (Challenges.take e ⟨id, c⟩)) w s v)
            (other : s ≠ .ok true) : SameBut [] w v := by
          obtain ⟨_, _, _, rfl⟩ | ⟨_, run⟩ := World.guarded_inv run
          · exact .refl _ _
          · obtain ⟨told, _⟩ | ⟨same, _⟩ := Challenges.take_inv run
            · exact absurd told other
            · exact same
        cases s with
        | error f =>
          obtain ⟨failed, rfl⟩ := unexpectedChallenge_inv h₄
          exact .inr ⟨failed, unchanged run nofun, only run nofun⟩
        | ok taken =>
          cases taken with
          | false =>
            dsimp only at h₄
            rw [log_bind] at h₄
            obtain ⟨rfl, rfl⟩ := refuse_inv h₄
            have other : Except.ok false ≠ (.ok true : Except Fault Bool) := nofun
            exact .inr ⟨⟨_, rfl⟩, (unchanged run other).trans (.noting ..), only run other⟩
          | true =>
            dsimp only at h₄
            rw [log_bind] at h₄
            exact .inl ⟨e, v, ⟨id, c, address, attempt, digits, run⟩, orEscape_inv h₄⟩
      · refine .inr ⟨⟨_, rfl⟩, .refl _ _, fun _ _ ⟨_, _, _, _, digits, _⟩ => ?_⟩
        rw [flawed] at digits
        cases digits
    · refine .inr ⟨⟨_, rfl⟩, .refl _ _, fun _ _ ⟨_, _, _, attempt, _⟩ => ?_⟩
      rw [flawed] at attempt
      cases attempt
  · refine .inr ⟨⟨_, rfl⟩, .refl _ _, fun _ _ ⟨_, _, address, _⟩ => ?_⟩
    rw [flawed] at address
    cases address

/-- Signing in leaves accounts and bans alone. -/
lemma signIn_keeps (a : Authority) (email : Field) (password : SecretField) :
    Keeps [.challenges, .draws, .mailer] (signIn a email password) := by
  intro w r w' run
  obtain ⟨_, same, _⟩ | ⟨e, p, u, v, _, _, checked, ⟨_, s, set, _⟩ | ⟨_, s, opened, _⟩⟩ :=
    signIn_inv run
  · exact same.mono (List.nil_subset _)
  · exact ((credentialsOf_keeps e p checked).mono (List.nil_subset _)).trans
      (challenge_keeps u.email set)
  · have sub : [Part.draws] ⊆ [.challenges, .draws, .mailer] :=
      List.subset_cons_of_subset _ (List.cons_subset_cons _ (List.nil_subset _))
    refine ((credentialsOf_keeps e p checked).mono (List.nil_subset _)).trans ?_
    exact (SameBut.noting ..).trans ((a.issue_keeps u.email opened).mono sub)

/-- Verifying a code leaves accounts, bans and the mailer alone. -/
lemma verify_keeps (a : Authority) (email attemptId code : Field) :
    Keeps [.challenges, .draws] (verify a email attemptId code) := by
  intro w r w' run
  obtain ⟨e, v, redeemed, s, opened, _⟩ | ⟨_, same, _⟩ := verify_inv run
  · obtain ⟨_, same, _⟩ := redeems_inv redeemed
    have sub : [Part.challenges] ⊆ [.challenges, .draws] :=
      List.cons_subset_cons _ (List.nil_subset _)
    refine (same.mono sub).trans ?_
    exact (SameBut.noting ..).trans ((a.issue_keeps e opened).mono (List.subset_cons_self _ _))
  · exact same.mono (List.nil_subset _)

/-! ### Tokens -/

/-- A token belongs to the address that it names if it opens and is not banned. -/
lemma checkToken_ok_iff {a : Authority} {t : String} {e : Email} :
    Ends (checkToken a t) w (.ok e) w' ↔ Ends (a.validate t) w (.ok e) w' := by
  rw [checkToken, attempt_bind]
  constructor
  · rintro ⟨s, v, run, rest⟩
    cases s with
    | ok e' =>
      obtain ⟨told, rfl⟩ := Ends.pure_inv rest
      cases told
      exact run
    | error f =>
      dsimp only at rest
      split at rest
      · cases (refuse_inv rest).1
      · obtain ⟨⟨_, told⟩, _⟩ := unexpectedBan_inv rest
        cases told
  · intro run
    exact ⟨.ok e, w', run, rfl⟩

/-- A token that belongs to an address opens and is not banned. -/
lemma checkToken_inv {a : Authority} {t : String} {e : Email}
    (h : Ends (checkToken a t) w (.ok e) w') :
    a.openAt w.wallSeconds t = .ok e ∧ w.bannedAt w.uptime t = false := by
  obtain ⟨opened, asked⟩ := Authority.validate_ok_iff.1 (checkToken_ok_iff.1 h)
  obtain ⟨_, _, told, _⟩ | ⟨_, asked⟩ := World.guarded_inv asked
  · cases told
  · obtain ⟨_, told | ⟨⟨_, told⟩, _⟩⟩ := Bans.contains_inv asked
    · exact ⟨opened, (Except.ok.inj told).symm⟩
    · cases told

/-- Checking a token changes nothing. -/
lemma checkToken_keeps (a : Authority) (t : String) : Keeps [] (checkToken a t) := by
  refine .bind (.attempt (a.validate_keeps t)) fun s => ?_
  cases s with
  | ok e => exact .pure e
  | error f =>
    dsimp only
    split
    · exact .refuse _ _
    · exact .unexpectedBan f

/-- What is left of a token is read off its text and the wall clock. -/
lemma remaining_inv {a : Authority} {t : String} {r : Except Fault Int}
    (h : Ends (a.remaining t) w r w') : r = a.remainingAt w.wallSeconds t ∧ w' = w := by
  rw [Authority.remaining, Ends.get_bind] at h
  cases remaining : a.remainingAt w.wallSeconds t with
  | ok n =>
    rw [remaining] at h
    exact Ends.pure_inv h
  | error f =>
    rw [remaining] at h
    exact Ends.throw_inv h

/-- Ending a session bans its token for as long as it is still good, or changes nothing. -/
lemma revoke_inv {a : Authority} {t : String} {r : Except Fault Unit}
    (h : Ends (a.revoke t) w r w') :
    SameBut [.bans] w w' ∧
      ((r = .ok () ∧ ∃ n, a.remainingAt w.wallSeconds t = .ok n ∧
          w.BanSet w' t (w.uptime + 1000 * max 1 n)) ∨
        (∃ f, r = .error f) ∧ SameBut [] w w') := by
  rw [Authority.revoke] at h
  obtain ⟨n, v, asked, rest⟩ | ⟨f, asked, rfl⟩ := h.bind_inv
  · obtain ⟨remaining, rfl⟩ := remaining_inv asked
    obtain ⟨f, _, rfl, rfl⟩ | ⟨_, run⟩ := World.guarded_inv rest
    · exact ⟨.refl _ _, .inr ⟨⟨f, rfl⟩, .refl _ _⟩⟩
    · obtain ⟨same, ⟨rfl, banned⟩ | ⟨failed, kept, _⟩⟩ := Bans.revoke_inv run
      · exact ⟨same, .inl ⟨rfl, n, remaining.symm, banned⟩⟩
      · exact ⟨same, .inr ⟨failed, kept⟩⟩
  · obtain ⟨_, rfl⟩ := remaining_inv asked
    exact ⟨.refl _ _, .inr ⟨⟨f, rfl⟩, .refl _ _⟩⟩

/-- Signing out bans a token that is good, or changes nothing that is told. -/
lemma signOut_inv {a : Authority} {token : Option String} {r : Except Failure Unit}
    (h : Ends (signOut a token) w r w') :
    (∃ t, token = some t ∧ r = .ok () ∧ (∃ e v, Ends (checkToken a t) w (.ok e) v) ∧
        SameBut [.bans] w w' ∧ ∃ n, a.remainingAt w.wallSeconds t = .ok n ∧
          w.BanSet w' t (w.uptime + 1000 * max 1 n)) ∨
      (∃ g, r = .error g) ∧ SameBut [] w w' := by
  rw [signOut] at h
  cases given : token.filter (· ≠ "") with
  | none =>
    rw [given] at h
    obtain ⟨rfl, rfl⟩ := refuse_inv h
    exact .inr ⟨⟨_, rfl⟩, .refl _ _⟩
  | some t =>
    rw [given] at h
    obtain ⟨e, v, checked, h₁⟩ | ⟨g, checked, rfl⟩ := h.bind_inv
    · have kept := checkToken_keeps a t checked
      obtain ⟨s, v₁, run, h₂⟩ := attempt_bind.1 h₁
      obtain ⟨same, ⟨rfl, n, remaining, banned⟩ | ⟨⟨f, rfl⟩, unchanged⟩⟩ := revoke_inv run
      · obtain ⟨rfl, rfl⟩ := log_inv h₂
        -- checking told nothing anew, so the ban is one of the world before it
        refine .inl ⟨t, (Option.filter_eq_some_iff.1 given).1, rfl, ⟨e, v, checked⟩, ?_, n, ?_, ?_⟩
        · exact ((kept.mono (List.nil_subset _)).trans same).trans (.noting ..)
        · rw [← kept.wallSeconds]
          exact remaining
        · rw [kept.uptime] at banned
          have set := BanSet.of_sameBut kept banned
          exact ⟨set.before, set.after, set.others⟩
      · dsimp only at h₂
        obtain ⟨_, v₂, refused, _⟩ | ⟨g, refused, rfl⟩ := h₂.bind_inv
        · obtain ⟨⟨_, told⟩, _⟩ := unexpectedBan_inv refused
          cases told
        · obtain ⟨_, rfl⟩ := unexpectedBan_inv refused
          exact .inr ⟨⟨_, rfl⟩, kept.trans unchanged⟩
    · exact .inr ⟨⟨_, rfl⟩, checkToken_keeps a t checked⟩

/-- Signing out changes the bans alone. -/
lemma signOut_keeps (a : Authority) (token : Option String) : Keeps [.bans] (signOut a token) := by
  intro w r w' run
  obtain ⟨_, _, _, _, same, _⟩ | ⟨_, same⟩ := signOut_inv run
  · exact same
  · exact same.mono (List.nil_subset _)

/-! ### Closing -/

/-- Closing the service closes the accounts and the mailer, and counts closed connections. -/
lemma close_eq (w : World) : ∃ n, close w =
    { w with
      accounts := w.accounts.close
      keyspace := { w.keyspace with closes := n }
      mailer := w.mailer.close } := by
  cases bans : w.bans with
  | register b =>
    cases challenges : w.challenges with
    | book c =>
      refine ⟨w.keyspace.closes, ?_⟩
      simp only [close, Bans.close, Challenges.close, bans, challenges]
    | keyspace seconds =>
      refine ⟨w.keyspace.closes + 1, ?_⟩
      simp only [close, Bans.close, Challenges.close, bans, challenges]
  | keyspace =>
    cases challenges : w.challenges with
    | book c =>
      refine ⟨w.keyspace.closes + 1, ?_⟩
      simp only [close, Bans.close, Challenges.close, bans, challenges]
    | keyspace seconds =>
      refine ⟨w.keyspace.closes + 1 + 1, ?_⟩
      simp only [close, Bans.close, Challenges.close, bans, challenges]

/-- Nobody is found in closed accounts who was not there before. -/
lemma read_close {accounts : Accounts} {e : Email} {u : User}
    (h : accounts.close.read e = .ok u) : accounts.read e = .ok u := by
  cases accounts with
  | directory d => exact h
  | table t =>
    rw [Accounts.close, Table.close] at h
    split at h
    · exact h
    · cases h

end Service

end SignIn
