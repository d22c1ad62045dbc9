import SignIn.Proofs.Run

/-!
# Stages of requests

A request is not answered in one step: between two calls of collaborators other requests may get
their turn. A stage is what a request has still to do, and doing the next thing calls one
collaborator at most. Taken one after the other, with nothing in between, the stages of a request
end as its operation does (`Request.finishes_iff`); how several requests take turns is left open
here.
-/

namespace SignIn

open World

/-! ## Stages -/

/-- What a request does next, with what it knows by then. -/
inductive Stage
  | requiring (u : User)
  | registering (u : User)
  | checking (e : Email) (p : Password)
  | lookingUp (e : Email)
  | drawing (e : Email)
  | coding (e : Email) (id : AttemptId)
  | issuing (e : Email) (c : Challenge)
  | mailing (e : Email) (c : Challenge)
  | taking (e : Email) (c : Challenge)
  /-- Opening a session, after a second factor was verified or without one. -/
  | opening (e : Email) (verified : Bool)
  | validating (token : String)
  | leaving (token : String)
  | revoking (e : Email) (token : String)

/-- Where a request stands: within its stages, or at its end. -/
inductive Progress
  | within (s : Stage)
  | done (x : Except Failure Answer)

namespace Service

/-- What a fault of the account store means for credentials. -/
def rejected {α : Type} (e : Email) (f : Fault) : Op α :=
  match f.kind with
  | .account .unavailable => refuse .unexpected (some f)
  | .account _ => do
    log ("Login rejected for " ++ e.redacted)
    refuse .wrongCredentials (some f)
  | _ => escape f

end Service

namespace Stage

open Service

/-- Does what is next, and tells where the request stands then. -/
def next (a : Authority) : Stage → Op Progress
  | requiring u => do
    requireFree u.email
    return .within (registering u)
  | registering u => do
    register u
    log ("User created: " ++ u.email.redacted ++ " (2fa=" ++ User.truthWord u.secondFactor ++ ")")
    return .done (.ok (.user u))
  | checking e p => do
    match ← attempt (World.guarded .check (Accounts.check e p)) with
    | .ok () => return .within (lookingUp e)
    | .error f => rejected e f
  | lookingUp e => do
    match ← attempt (World.guarded .lookUp (Accounts.lookUp e)) with
    | .ok u =>
      if u.secondFactor then return .within (drawing u.email)
      else
        log ("Login succeeded for " ++ e.redacted)
        return .within (opening u.email false)
    | .error f => rejected e f
  | drawing e => return .within (coding e ⟨← World.drawId⟩)
  | coding e id => return .within (issuing e ⟨id, ⟨← World.drawCode⟩⟩)
  | issuing e c => do
    match ← attempt (World.guarded .issue (Challenges.issue e c)) with
    | .ok () => return .within (mailing e c)
    | .error f => unexpectedChallenge f
  | mailing e c => return .done (.ok (.signedIn (.challenge (← Service.mailing e c))))
  | taking e c => do
    match ← attempt (World.guarded .take (Challenges.take e c)) with
    | .error f => unexpectedChallenge f
    | .ok false =>
      log ("2FA verification failed for " ++ e.redacted)
      refuse .wrongCredentials
    | .ok true =>
      log ("2FA verification succeeded for " ++ e.redacted)
      return .within (opening e true)
  | opening e verified => do
    let t ← orEscape (a.issue e)
    return .done (.ok (if verified then .session t else .signedIn (.session t)))
  | validating token => return .done (.ok (.belongsTo (← checkToken a token)))
  | leaving token => return .within (revoking (← checkToken a token) token)
  | revoking e token => do
    match ← attempt (a.revoke token) with
    | .ok () => pure ()
    | .error f => unexpectedBan f
    log ("Logout for " ++ e.redacted)
    return .done (.ok .signedOut)

/-- Where a request stands after what is next, and the world then. A failure ends the request. -/
def proceed (a : Authority) (s : Stage) (w : World) : Progress × World :=
  match (s.next a).run w with
  | (.ok p, w') => (p, w')
  | (.error g, w') => (.done (.error g), w')

end Stage

/-- The first stage of a request whose fields have been read, or the refusal of a flawed field. -/
def Progress.ofFields : Except Flaw Stage → Progress
  | .ok s => within s
  | .error flaw => done (.error (.refused (.ofFlaw flaw)))

/-- Where a request stands when it comes in: its fields are read before anything is called. -/
def Request.start : Request → Progress
  | signUp email password secondFactor => .ofFields do
    let e ← Email.read email
    let p ← Password.read password
    return .requiring ⟨e, p, secondFactor⟩
  | signIn email password => .ofFields do
    let e ← Email.read email
    let p ← Password.read password
    return .checking e p
  | verify email attemptId code => .ofFields do
    let e ← Email.read email
    let id ← AttemptId.read attemptId
    let c ← OneTimeCode.read code
    return .taking e ⟨id, c⟩
  | signOut token =>
    match token.filter (· ≠ "") with
    | none => .done (.error (.refused (.of .missingToken)))
    | some t => .within (.leaving t)
  | checkToken token => .within (.validating token)

/-! ## Stages taken one after the other -/

/-- The stages of a request, taken with nothing in between, end with a result in a world. -/
inductive Finishes (a : Authority) : Progress → World → Except Failure Answer → World → Prop
  | done {x : Except Failure Answer} {w : World} : Finishes a (.done x) w x w
  | within {s : Stage} {w : World} {x : Except Failure Answer} {w' : World}
      (rest : Finishes a (s.proceed a w).1 (s.proceed a w).2 x w') : Finishes a (.within s) w x w'

section Faithful

variable {a : Authority} {s : Stage} {w v w' : World} {x : Except Failure Answer} {g : Failure}

/-- A stage moves on to what came next. -/
lemma Stage.proceed_of_ok {p : Progress} (h : Ends (s.next a) w (.ok p) v) :
    s.proceed a w = (p, v) := by
  rw [proceed, show (s.next a).run w = (.ok p, v) from h]

/-- A stage is done with the failure of what came next. -/
lemma Stage.proceed_of_error (h : Ends (s.next a) w (.error g) v) :
    s.proceed a w = (.done (.error g), v) := by
  rw [proceed, show (s.next a).run w = (.error g, v) from h]

/-- What is next goes through, or its failure ends the request. -/
lemma Stage.proceed_inv {p : Progress} (h : s.proceed a w = (p, v)) :
    Ends (s.next a) w (.ok p) v ∨ ∃ g, Ends (s.next a) w (.error g) v ∧ p = .done (.error g) := by
  obtain ⟨r, w', run⟩ := Ends.total (s.next a) w
  cases r with
  | ok q =>
    rw [proceed_of_ok run] at h
    obtain ⟨rfl, rfl⟩ := Prod.mk.inj h
    exact .inl run
  | error g =>
    rw [proceed_of_error run] at h
    obtain ⟨rfl, rfl⟩ := Prod.mk.inj h
    exact .inr ⟨g, run, rfl⟩

namespace Finishes

/-- A stage that moves on finishes as the rest does. -/
lemma ok {p : Progress} (h : Ends (s.next a) w (.ok p) v) (rest : Finishes a p v x w') :
    Finishes a (.within s) w x w' := by
  refine .within ?_
  rw [Stage.proceed_of_ok h]
  exact rest

/-- A stage that fails finishes with the failure. -/
lemma error (h : Ends (s.next a) w (.error g) w') : Finishes a (.within s) w (.error g) w' := by
  refine .within ?_
  rw [Stage.proceed_of_error h]
  exact .done

/-- A stage whose only call gives the answer. -/
lemma last {α : Type} {y : Op α} {f : α → Answer} {r : Except Failure α}
    (only : s.next a = y >>= fun u => pure (.done (.ok (f u)))) (h : Ends y w r w') :
    Finishes a (.within s) w (r.map f) w' := by
  cases r with
  | ok u => exact ok (by rw [only]; exact h.bind rfl) .done
  | error g => exact error (by rw [only]; exact h.bind_error _)

/-- A flawed field is the end of a request, as it is the end of its operation. -/
lemma field {α β : Type} {y : Except Flaw α} {f : α → Op β} {k : α → Except Flaw Stage}
    {answer : β → Answer} {r : Except Failure β} (h : Ends (Service.field y >>= f) w r w')
    (rest : ∀ v, Ends (f v) w r w' → Finishes a (.ofFields (k v)) w (r.map answer) w') :
    Finishes a (.ofFields (y >>= k)) w (r.map answer) w' := by
  obtain ⟨v, rfl, h⟩ | ⟨flaw, rfl, rfl, rfl⟩ := Service.field_bind_inv h
  · exact rest v h
  · exact .done

/-- A request finishes in one way only. -/
lemma unique {p : Progress} {y : Except Failure Answer} (h : Finishes a p w x w')
    (k : Finishes a p w y v) : x = y ∧ w' = v := by
  induction h with
  | done =>
    cases k with
    | done => exact ⟨rfl, rfl⟩
  | within _ ih =>
    cases k with
    | within rest => exact ih rest

end Finishes

namespace Service

/-! ### Failures that end a request -/

/-- A rejection ends with a failure, whatever was to be returned. -/
lemma rejected_ends (e : Email) (f : Fault) (w : World) :
    ∃ g v, ∀ α : Type, Ends (rejected e f : Op α) w (.error g) v := by
  obtain ⟨kind, note, cause⟩ := f
  cases kind with
  | account k =>
    cases k with
    | unavailable => exact ⟨_, _, fun _ => rfl⟩
    | general | taken | unknown | mismatch => exact ⟨_, _, fun _ => rfl⟩
  | flaw | ban | challenge | token | mail | foreign => exact ⟨_, _, fun _ => rfl⟩

/-- An unexpected fault of the challenges ends with a failure, whatever was to be returned. -/
lemma unexpectedChallenge_ends (f : Fault) (w : World) :
    ∃ g, ∀ α : Type, Ends (unexpectedChallenge f : Op α) w (.error g) w := by
  obtain ⟨kind, note, cause⟩ := f
  cases kind with
  | challenge => exact ⟨_, fun _ => rfl⟩
  | flaw | account | ban | token | mail | foreign => exact ⟨_, fun _ => rfl⟩

/-- An unexpected fault of the bans ends with a failure, whatever was to be returned. -/
lemma unexpectedBan_ends (f : Fault) (w : World) :
    ∃ g, ∀ α : Type, Ends (unexpectedBan f : Op α) w (.error g) w := by
  obtain ⟨kind, note, cause⟩ := f
  cases kind with
  | ban => exact ⟨_, fun _ => rfl⟩
  | flaw | account | challenge | token | mail | foreign => exact ⟨_, fun _ => rfl⟩

/-! ### The parts of an operation -/

/-- The stage that opens a session finishes with the token that is issued, or without one. -/
lemma opening_finishes {e : Email} {verified : Bool} {r : Except Failure String}
    (h : Ends (orEscape (a.issue e)) w r w') : Finishes a (.within (.opening e verified)) w
      (r.map fun t => if verified then .session t else .signedIn (.session t)) w' :=
  .last rfl h

/-- Setting a challenge goes through four stages. -/
lemma challenge_finishes {e : Email} {r : Except Failure AttemptId}
    (h : Ends (challenge e) w r w') : Finishes a (.within (.drawing e)) w
      (r.map fun id => .signedIn (.challenge id)) w' := by
  rw [challenge, Ends.drawId_bind, Ends.drawCode_bind, attempt_bind] at h
  obtain ⟨s, v₁, stored, h⟩ := h
  have drawn : Ends (Stage.next a (.drawing e)) w
      (.ok (.within (.coding e ⟨w.ids.draw w.ids.used⟩))) w.idDrawn := rfl
  have coded : Ends (Stage.next a (.coding e ⟨w.ids.draw w.ids.used⟩)) w.idDrawn
      (.ok (.within (.issuing e (nextChallenge w)))) w.idDrawn.codeDrawn := rfl
  refine .ok drawn (.ok coded ?_)
  cases s with
  | ok _ =>
    refine .ok (attempt_bind.2 ⟨.ok (), v₁, stored, rfl⟩) ?_
    exact .last rfl (show Ends (mailing e (nextChallenge w)) v₁ r w' from h)
  | error f =>
    obtain ⟨g, refused⟩ := unexpectedChallenge_ends f v₁
    obtain ⟨rfl, rfl⟩ := h.unique ((refused Unit).bind_error _)
    exact .error (attempt_bind.2 ⟨.error f, _, stored, refused _⟩)

/-- Credentials that are right have been checked and looked up; if they are not, that is the end of
the request. -/
lemma credentialsOf_finishes {e : Email} {p : Password} {r : Except Failure User}
    (h : Ends (credentialsOf e p) w r v) :
    (∃ u v₁, r = .ok u ∧
        Ends (Stage.next a (.checking e p)) w (.ok (.within (.lookingUp e))) v₁ ∧
        Ends (World.guarded .lookUp (Accounts.lookUp e)) v₁ (.ok u) v) ∨
      ∃ g, r = .error g ∧ Finishes a (.within (.checking e p)) w (.error g) v := by
  obtain ⟨s, v₁, run, rest⟩ := attempt_bind.1 h
  have rejection {f : Fault} (failed : s = .error f) :
      ∃ g, r = .error g ∧ ∀ α : Type, Ends (rejected e f : Op α) v₁ (.error g) v := by
    subst failed
    obtain ⟨g, v', refused⟩ := rejected_ends e f v₁
    obtain ⟨rfl, rfl⟩ := Ends.unique rest (refused User)
    exact ⟨g, rfl, refused⟩
  obtain ⟨_, v₂, checked, looked⟩ | ⟨f, checked, failed⟩ := run.bind_inv
  · have on : Ends (Stage.next a (.checking e p)) w (.ok (.within (.lookingUp e))) v₂ :=
      attempt_bind.2 ⟨.ok (), v₂, checked, rfl⟩
    cases s with
    | ok u =>
      obtain ⟨rfl, rfl⟩ := Ends.pure_inv rest
      exact .inl ⟨u, v₂, rfl, on, looked⟩
    | error f =>
      obtain ⟨g, rfl, refused⟩ := rejection rfl
      exact .inr ⟨g, rfl, .ok on (.error (attempt_bind.2 ⟨.error f, v₁, looked, refused _⟩))⟩
  · obtain ⟨g, rfl, refused⟩ := rejection failed
    exact .inr ⟨g, rfl, .error (attempt_bind.2 ⟨.error f, v₁, checked, refused _⟩)⟩

/-- The stages of a request to sign up finish as the operation ends. -/
lemma signUp_finishes {email : Field} {password : SecretField} {secondFactor : Bool}
    {r : Except Failure User} (h : Ends (signUp email password secondFactor) w r w') :
    Finishes a (Request.signUp email password secondFactor).start w (r.map .user) w' := by
  refine .field h fun e h₁ => .field h₁ fun p h₂ => ?_
  obtain ⟨_, v, free, h₃⟩ | ⟨g, taken, rfl⟩ := h₂.bind_inv
  · refine .ok (free.bind rfl) ?_
    obtain ⟨_, v', added, h₄⟩ | ⟨g, added, rfl⟩ := h₃.bind_inv
    · rw [log_bind] at h₄
      obtain ⟨rfl, rfl⟩ := Ends.pure_inv h₄
      exact .ok (added.bind rfl) .done
    · exact .error (added.bind_error _)
  · exact .error (taken.bind_error _)

/-- The stages of a request to sign in finish as the operation ends. -/
lemma signIn_finishes {email : Field} {password : SecretField} {r : Except Failure SignedIn}
    (h : Ends (signIn a email password) w r w') :
    Finishes a (Request.signIn email password).start w (r.map .signedIn) w' := by
  refine .field h fun e h₁ => .field h₁ fun p h₂ => ?_
  obtain ⟨u, v, right, h₃⟩ | ⟨g, wrong, rfl⟩ := h₂.bind_inv
  · obtain ⟨_, v₁, told, checked, looked⟩ | ⟨_, told, _⟩ := credentialsOf_finishes (a := a) right
    · cases told
      refine .ok checked ?_
      cases second : u.secondFactor with
      | true =>
        rw [second, if_pos rfl] at h₃
        have on : Ends (Stage.next a (.lookingUp e)) v₁ (.ok (.within (.drawing u.email))) v := by
          refine attempt_bind.2 ⟨.ok u, v, looked, ?_⟩
          dsimp only
          rw [second]
          rfl
        refine .ok on ?_
        obtain ⟨_, v', set, h₄⟩ | ⟨g, set, rfl⟩ := h₃.bind_inv
        · obtain ⟨rfl, rfl⟩ := Ends.pure_inv h₄
          exact challenge_finishes set
        · exact challenge_finishes set
      | false =>
        rw [second, if_neg Bool.false_ne_true, log_bind] at h₃
        have on : Ends (Stage.next a (.lookingUp e)) v₁ (.ok (.within (.opening u.email false)))
            (v.noting .info source ("Login succeeded for " ++ e.redacted)) := by
          refine attempt_bind.2 ⟨.ok u, v, looked, ?_⟩
          dsimp only
          rw [second]
          rfl
        refine .ok on ?_
        obtain ⟨t, v', opened, h₄⟩ | ⟨g, opened, rfl⟩ := h₃.bind_inv
        · obtain ⟨rfl, rfl⟩ := Ends.pure_inv h₄
          exact opening_finishes opened
        · exact opening_finishes opened
    · cases told
  · obtain ⟨_, _, told, _⟩ | ⟨_, told, ended⟩ := credentialsOf_finishes (a := a) wrong
    · cases told
    · cases told
      exact ended

/-- The stages of a request to verify a code finish as the operation ends. -/
lemma verify_finishes {email attemptId code : Field} {r : Except Failure String}
    (h : Ends (verify a email attemptId code) w r w') :
    Finishes a (Request.verify email attemptId code).start w (r.map .session) w' := by
  refine .field h fun e h₁ => .field h₁ fun id h₂ => .field h₂ fun c h₃ => ?_
  obtain ⟨s, v, run, h₄⟩ := attempt_bind.1 h₃
  cases s with
  | error f =>
    obtain ⟨g, refused⟩ := unexpectedChallenge_ends f v
    obtain ⟨rfl, rfl⟩ := Ends.unique h₄ (refused String)
    exact .error (attempt_bind.2 ⟨.error f, _, run, refused _⟩)
  | ok taken =>
    cases taken with
    | false =>
      obtain ⟨rfl, rfl⟩ := refuse_inv (log_bind.1 h₄)
      exact .error (attempt_bind.2 ⟨.ok false, v, run, rfl⟩)
    | true =>
      refine .ok (attempt_bind.2 ⟨.ok true, v, run, rfl⟩) ?_
      exact opening_finishes (log_bind.1 h₄)

/-- The stages of a request to sign out finish as the operation ends. -/
lemma signOut_finishes {token : Option String} {r : Except Failure Unit}
    (h : Ends (signOut a token) w r w') :
    Finishes a (Request.signOut token).start w (r.map fun _ => .signedOut) w' := by
  rw [signOut] at h
  rw [Request.start]
  cases given : token.filter (· ≠ "") with
  | none =>
    rw [given] at h
    obtain ⟨rfl, rfl⟩ := refuse_inv h
    exact .done
  | some t =>
    rw [given] at h
    obtain ⟨e, v, checked, h₁⟩ | ⟨g, checked, rfl⟩ := h.bind_inv
    · refine .ok (checked.bind rfl) ?_
      obtain ⟨s, v', revoked, h₂⟩ := attempt_bind.1 h₁
      cases s with
      | ok _ =>
        obtain ⟨rfl, rfl⟩ := log_inv h₂
        exact .ok (attempt_bind.2 ⟨.ok (), v', revoked, rfl⟩) .done
      | error f =>
        obtain ⟨g, refused⟩ := unexpectedBan_ends f v'
        obtain ⟨rfl, rfl⟩ := Ends.unique h₂ ((refused Unit).bind_error _)
        exact .error (attempt_bind.2 ⟨.error f, _, revoked, (refused Unit).bind_error _⟩)
    · exact .error (checked.bind_error _)

end Service

/-- Taken one after the other, with nothing in between, the stages of a request end exactly as its
operation does. -/
theorem Request.finishes_iff (r : Request) :
    Finishes a r.start w x w' ↔ Ends (r.op a) w x w' := by
  have ends {x : Except Failure Answer} {w' : World} (h : Ends (r.op a) w x w') :
      Finishes a r.start w x w' := by
    cases r with
    | signUp =>
      obtain ⟨s, run, rfl⟩ := h.map_inv
      exact Service.signUp_finishes run
    | signIn =>
      obtain ⟨s, run, rfl⟩ := h.map_inv
      exact Service.signIn_finishes run
    | verify =>
      obtain ⟨s, run, rfl⟩ := h.map_inv
      exact Service.verify_finishes run
    | signOut =>
      obtain ⟨s, run, rfl⟩ := h.map_inv
      exact Service.signOut_finishes run
    | checkToken =>
      obtain ⟨s, run, rfl⟩ := h.map_inv
      exact .last rfl run
  constructor
  · intro h
    obtain ⟨y, v, run⟩ := Ends.total (r.op a) w
    obtain ⟨rfl, rfl⟩ := h.unique (ends run)
    exact run
  · exact ends

end Faithful

/-! ## What a stage does -/

namespace Stage

/-- The parts of the world that a stage may change. -/
def parts : Stage → List Part
  | registering _ => [.accounts]
  | issuing .. | taking .. => [.challenges]
  | drawing _ | coding .. | opening .. => [.draws]
  | mailing .. => [.mailer]
  | revoking .. => [.bans]
  | requiring _ | checking .. | lookingUp _ | validating _ | leaving _ => []

/-- Where a stage leads if it does not fail. -/
inductive Leads : Stage → Progress → Prop
  | required {u : User} : Leads (requiring u) (.within (registering u))
  | registered {u : User} : Leads (registering u) (.done (.ok (.user u)))
  | checked {e : Email} {p : Password} : Leads (checking e p) (.within (lookingUp e))
  | challenged {e f : Email} : Leads (lookingUp e) (.within (drawing f))
  | admitted {e f : Email} : Leads (lookingUp e) (.within (opening f false))
  | drawn {e : Email} {id : AttemptId} : Leads (drawing e) (.within (coding e id))
  | coded {e : Email} {id : AttemptId} {c : OneTimeCode} :
    Leads (coding e id) (.within (issuing e ⟨id, c⟩))
  | issued {e : Email} {c : Challenge} : Leads (issuing e c) (.within (mailing e c))
  | mailed {e : Email} {c : Challenge} {id : AttemptId} :
    Leads (mailing e c) (.done (.ok (.signedIn (.challenge id))))
  | taken {e : Email} {c : Challenge} : Leads (taking e c) (.within (opening e true))
  | verified {e : Email} {t : String} : Leads (opening e true) (.done (.ok (.session t)))
  | opened {e : Email} {t : String} :
    Leads (opening e false) (.done (.ok (.signedIn (.session t))))
  | validated {e : Email} {t : String} : Leads (validating t) (.done (.ok (.belongsTo e)))
  | left {e : Email} {t : String} : Leads (leaving t) (.within (revoking e t))
  | revoked {e : Email} {t : String} : Leads (revoking e t) (.done (.ok .signedOut))

variable {a : Authority} {s : Stage} {w w' : World} {p : Progress}

/-- A rejection changes nothing but the journal. -/
lemma rejected_keeps {α : Type} {parts : List Part} (e : Email) (f : Fault) :
    Keeps parts (Service.rejected e f : Op α) := by
  rw [Service.rejected]
  split
  · exact .refuse _ _
  · exact .bind (.log _) fun _ => .refuse _ _
  · exact .escape f

/-- What is next in a stage changes only the stage's parts of the world. -/
lemma next_keeps (a : Authority) (s : Stage) : Keeps s.parts (s.next a) := by
  cases s with
  | requiring u => exact .bind (Service.requireFree_keeps u.email) fun _ => .pure _
  | registering u =>
    exact .bind (fun _ _ _ run => (Service.register_inv run).1) fun _ =>
      .bind (.log _) fun _ => .pure _
  | checking e p =>
    refine .bind (.attempt (.guarded fun _ _ _ run => (Accounts.check_inv run).2)) fun r => ?_
    cases r with
    | ok _ => exact .pure _
    | error f => exact rejected_keeps e f
  | lookingUp e =>
    refine .bind (.attempt (.guarded fun _ _ _ run => (Accounts.lookUp_inv run).2)) fun r => ?_
    cases r with
    | ok u =>
      dsimp only
      split
      · exact .pure _
      · exact .bind (.log _) fun _ => .pure _
    | error f => exact rejected_keeps e f
  | drawing e => exact .bind .drawId fun _ => .pure _
  | coding e id => exact .bind .drawCode fun _ => .pure _
  | issuing e c =>
    refine .bind (.attempt (.guarded fun _ _ _ run => (Challenges.issue_inv run).1)) fun r => ?_
    cases r with
    | ok _ => exact .pure _
    | error f => exact .unexpectedChallenge f
  | mailing e c => exact .bind (Service.mailing_keeps e c) fun _ => .pure _
  | taking e c =>
    refine .bind (.attempt (.guarded fun _ _ _ run => ?_)) fun r => ?_
    · obtain ⟨_, _, same, _⟩ | ⟨same, _⟩ := Challenges.take_inv run
      · exact same
      · exact same.mono (List.nil_subset _)
    · cases r with
      | error f => exact .unexpectedChallenge f
      | ok taken =>
        cases taken with
        | true => exact .bind (.log _) fun _ => .pure _
        | false => exact .bind (.log _) fun _ => .refuse _ _
  | opening e verified => exact .bind (.orEscape (a.issue_keeps e)) fun _ => .pure _
  | validating t => exact .bind (Service.checkToken_keeps a t) fun _ => .pure _
  | leaving t => exact .bind (Service.checkToken_keeps a t) fun _ => .pure _
  | revoking e t =>
    refine .bind (.attempt fun _ _ _ run => (Service.revoke_inv run).1) fun r => ?_
    cases r with
    | ok _ => exact .bind (.log _) fun _ => .pure _
    | error f => exact .bind (.unexpectedBan f) fun _ => .bind (.log _) fun _ => .pure _

/-- A stage changes only its parts of the world. -/
lemma proceed_keeps (a : Authority) (s : Stage) (w : World) :
    SameBut s.parts w (s.proceed a w).2 := by
  obtain run | ⟨_, run, _⟩ := proceed_inv (show s.proceed a w = (_, (s.proceed a w).2) from rfl)
  · exact s.next_keeps a run
  · exact s.next_keeps a run

/-- What is returned last is what comes next. -/
lemma eq_of_last {α : Type} {y : Op α} {q : α → Progress}
    (h : Ends (y >>= fun v => pure (q v)) w (.ok p) w') : ∃ v, p = q v := by
  obtain ⟨v, _, _, h⟩ | ⟨_, _, told⟩ := h.bind_inv
  · obtain ⟨told, _⟩ := Ends.pure_inv h
    exact ⟨v, Except.ok.inj told⟩
  · cases told

/-- After a rejection nothing comes next. -/
lemma not_of_rejected {e : Email} {f : Fault} :
    ¬ Ends (Service.rejected e f : Op Progress) w (.ok p) w' := by
  intro h
  obtain ⟨g, v, refused⟩ := Service.rejected_ends e f w
  cases (h.unique (refused _)).1

/-- What comes next in a stage is where the stage leads. -/
lemma next_leads (h : Ends (s.next a) w (.ok p) w') : s.Leads p := by
  cases s with
  | requiring u =>
    obtain ⟨_, rfl⟩ := eq_of_last h
    exact .required
  | registering u =>
    obtain ⟨_, v, _, h⟩ | ⟨_, _, told⟩ := h.bind_inv
    · obtain ⟨_, rfl⟩ := eq_of_last h
      exact .registered
    · cases told
  | checking e p =>
    obtain ⟨r, v, _, h⟩ := Service.attempt_bind.1 h
    cases r with
    | ok _ =>
      obtain rfl := Except.ok.inj (Ends.pure_inv h).1
      exact .checked
    | error f => exact absurd h not_of_rejected
  | lookingUp e =>
    obtain ⟨r, v, _, h⟩ := Service.attempt_bind.1 h
    cases r with
    | ok u =>
      dsimp only at h
      split at h
      · obtain rfl := Except.ok.inj (Ends.pure_inv h).1
        exact .challenged
      · obtain ⟨_, rfl⟩ := eq_of_last h
        exact .admitted
    | error f => exact absurd h not_of_rejected
  | drawing e =>
    obtain ⟨_, rfl⟩ := eq_of_last h
    exact .drawn
  | coding e id =>
    obtain ⟨_, rfl⟩ := eq_of_last h
    exact .coded
  | issuing e c =>
    obtain ⟨r, v, _, h⟩ := Service.attempt_bind.1 h
    cases r with
    | ok _ =>
      obtain rfl := Except.ok.inj (Ends.pure_inv h).1
      exact .issued
    | error f => cases (Service.unexpectedChallenge_inv h).1.choose_spec
  | mailing e c =>
    obtain ⟨_, rfl⟩ := eq_of_last h
    exact .mailed
  | taking e c =>
    obtain ⟨r, v, _, h⟩ := Service.attempt_bind.1 h
    cases r with
    | error f => cases (Service.unexpectedChallenge_inv h).1.choose_spec
    | ok taken =>
      cases taken with
      | true =>
        dsimp only at h
        obtain ⟨_, rfl⟩ := eq_of_last h
        exact .taken
      | false => cases (Service.refuse_inv (Service.log_bind.1 h)).1
  | opening e verified =>
    obtain ⟨t, rfl⟩ := eq_of_last h
    cases verified with
    | true => exact .verified
    | false => exact .opened
  | validating t =>
    obtain ⟨_, rfl⟩ := eq_of_last h
    exact .validated
  | leaving t =>
    obtain ⟨_, rfl⟩ := eq_of_last h
    exact .left
  | revoking e t =>
    obtain ⟨r, v, _, h⟩ := Service.attempt_bind.1 h
    cases r with
    | ok _ =>
      dsimp only at h
      obtain ⟨_, rfl⟩ := eq_of_last h
      exact .revoked
    | error f =>
      obtain ⟨_, _, refused, _⟩ | ⟨_, _, told⟩ := Ends.bind_inv h
      · cases (Service.unexpectedBan_inv refused).1.choose_spec
      · cases told

end Stage

/-! ## Where requests come to -/

/-- Where a request may stand, with what its fields say. -/
inductive Request.Reaches : Request → Progress → Prop
  | failed {r : Request} {g : Failure} : Reaches r (.done (.error g))
  | requiring {email : Field} {password : SecretField} {u : User}
      (address : Email.read email = .ok u.email) (word : Password.read password = .ok u.password) :
      Reaches (signUp email password u.secondFactor) (.within (.requiring u))
  | registering {email : Field} {password : SecretField} {u : User}
      (address : Email.read email = .ok u.email) (word : Password.read password = .ok u.password) :
      Reaches (signUp email password u.secondFactor) (.within (.registering u))
  | registered {email : Field} {password : SecretField} {u : User}
      (address : Email.read email = .ok u.email) (word : Password.read password = .ok u.password) :
      Reaches (signUp email password u.secondFactor) (.done (.ok (.user u)))
  | checking {email : Field} {password : SecretField} {e : Email} {p : Password} :
      Reaches (signIn email password) (.within (.checking e p))
  | lookingUp {email : Field} {password : SecretField} {e : Email} :
      Reaches (signIn email password) (.within (.lookingUp e))
  | drawing {email : Field} {password : SecretField} {e : Email} :
      Reaches (signIn email password) (.within (.drawing e))
  | coding {email : Field} {password : SecretField} {e : Email} {id : AttemptId} :
      Reaches (signIn email password) (.within (.coding e id))
  | issuing {email : Field} {password : SecretField} {e : Email} {c : Challenge} :
      Reaches (signIn email password) (.within (.issuing e c))
  | mailing {email : Field} {password : SecretField} {e : Email} {c : Challenge} :
      Reaches (signIn email password) (.within (.mailing e c))
  | opening {email : Field} {password : SecretField} {e : Email} :
      Reaches (signIn email password) (.within (.opening e false))
  | signedIn {email : Field} {password : SecretField} {s : SignedIn} :
      Reaches (signIn email password) (.done (.ok (.signedIn s)))
  | taking {email attemptId code : Field} {e : Email} {c : Challenge}
      (address : Email.read email = .ok e) (attempt : AttemptId.read attemptId = .ok c.attempt)
      (digits : OneTimeCode.read code = .ok c.code) :
      Reaches (verify email attemptId code) (.within (.taking e c))
  | verified {email attemptId code : Field} {e : Email} (address : Email.read email = .ok e) :
      Reaches (verify email attemptId code) (.within (.opening e true))
  | session {email attemptId code : Field} {t : String} :
      Reaches (verify email attemptId code) (.done (.ok (.session t)))
  | leaving {token : Option String} {t : String} :
      Reaches (signOut token) (.within (.leaving t))
  | revoking {token : Option String} {e : Email} {t : String} :
      Reaches (signOut token) (.within (.revoking e t))
  | signedOut {token : Option String} : Reaches (signOut token) (.done (.ok .signedOut))
  | validating {t : String} : Reaches (checkToken t) (.within (.validating t))
  | belongsTo {t : String} {e : Email} : Reaches (checkToken t) (.done (.ok (.belongsTo e)))

namespace Request

/-- A request has reached its start. -/
lemma reaches_start (r : Request) : r.Reaches r.start := by
  have fields {α : Type} {r : Request} {y : Except Flaw α} {k : α → Except Flaw Stage}
      (rest : ∀ v, y = .ok v → r.Reaches (.ofFields (k v))) : r.Reaches (.ofFields (y >>= k)) := by
    cases y with
    | ok v => exact rest v rfl
    | error flaw => exact .failed
  cases r with
  | signUp email password secondFactor =>
    exact fields fun e address => fields fun p word =>
      @Reaches.requiring email password ⟨e, p, secondFactor⟩ address word
  | signIn email password => exact fields fun e _ => fields fun p _ => .checking
  | verify email attemptId code =>
    exact fields fun e address => fields fun id attempt => fields fun c digits =>
      @Reaches.taking email attemptId code e ⟨id, c⟩ address attempt digits
  | signOut token =>
    rw [start]
    cases token.filter (· ≠ "") with
    | none => exact .failed
    | some t => exact .leaving
  | checkToken t => exact .validating

/-- Proceeding leads a request on to where it may stand. -/
lemma Reaches.proceed {r : Request} {s : Stage} (h : r.Reaches (.within s)) (a : Authority)
    (w : World) : r.Reaches (s.proceed a w).1 := by
  obtain ⟨p, v, went⟩ : ∃ p v, s.proceed a w = (p, v) := ⟨_, _, rfl⟩
  rw [went]
  obtain run | ⟨g, _, rfl⟩ := Stage.proceed_inv went
  · cases Stage.next_leads run with
    | required => cases h with | requiring address word => exact .registering address word
    | registered => cases h with | registering address word => exact .registered address word
    | checked => cases h with | checking => exact .lookingUp
    | challenged => cases h with | lookingUp => exact .drawing
    | admitted => cases h with | lookingUp => exact .opening
    | drawn => cases h with | drawing => exact .coding
    | coded => cases h with | coding => exact .issuing
    | issued => cases h with | issuing => exact .mailing
    | mailed => cases h with | mailing => exact .signedIn
    | taken => cases h with | taking address => exact .verified address
    | verified => cases h with | verified => exact .session
    | opened => cases h with | opening => exact .signedIn
    | validated => cases h with | validating => exact .belongsTo
    | left => cases h with | leaving => exact .revoking
    | revoked => cases h with | revoking => exact .signedOut
  · exact .failed

end Request

end SignIn
