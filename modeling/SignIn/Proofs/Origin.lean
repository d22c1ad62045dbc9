import SignIn.Proofs.Run

/-!
# The origin of sessions

Where a session token comes from, along every run from a world without users and challenges: from
the password of a user who signed up without a second factor, or from the challenge that was last
set for a user with one. The invariant `Recorded` ties the accounts and the challenges of a world to
the events that led to it.
-/

namespace SignIn

open World

namespace Service

/-- Signing in with the fields sets a challenge for a user: they are the user's credentials, the
user has a second factor, and the challenge that is drawn is stored. -/
def Sets (email : Field) (password : SecretField) (w : World) (u : User) (c : Challenge) : Prop :=
  ∃ e p v v', Email.read email = .ok e ∧ Password.read password = .ok p ∧
    Ends (credentialsOf e p) w (.ok u) v ∧ u.secondFactor = true ∧ c = nextChallenge v ∧
      Stores v u.email (.ok ()) v'

variable {w w' : World}

/-- Signing in sets at most one challenge. -/
lemma Sets.unique {email : Field} {password : SecretField} {u u' : User} {c c' : Challenge}
    (h : Sets email password w u c) (k : Sets email password w u' c') : u = u' ∧ c = c' := by
  obtain ⟨e, p, v, _, address, word, checked, _, rfl, _⟩ := h
  obtain ⟨e', p', v', _, address', word', checked', _, rfl, _⟩ := k
  rw [address] at address'
  rw [word] at word'
  cases address'
  cases word'
  obtain ⟨same, rfl⟩ := checked.unique checked'
  exact ⟨Except.ok.inj same, rfl⟩

/-- Signing in sets the challenge that it stores, and leaves challenges if it stores none. -/
lemma signIn_challenges {a : Authority} {email : Field} {password : SecretField}
    {r : Except Failure SignedIn} (h : Ends (signIn a email password) w r w') :
    (∃ u c, Sets email password w u c ∧
        w.ChallengeSet w' u.email c (w.uptime + 1000 * w.challenges.lifetime)) ∨
      (∀ u c, ¬ Sets email password w u c) ∧
        ∀ now, w.uptime ≤ now → ∀ f d, w'.pendingAt now f d = w.pendingAt now f d := by
  obtain ⟨_, same, rejected⟩ | ⟨e, p, u, v, address, word, checked, rest⟩ := signIn_inv h
  · refine .inr ⟨?_, fun now le => same.challenges List.not_mem_nil now le⟩
    rintro u c ⟨e, p, v, _, address, word, checked, _⟩
    exact rejected e p u v address word checked
  · have kept := credentialsOf_keeps e p checked
    have only {u' : User} {c : Challenge} (set : Sets email password w u' c) :
        u'.secondFactor = true ∧ u' = u ∧ ∃ v', Stores v u.email (.ok ()) v' := by
      obtain ⟨e', p', _, v', address', word', checked', second, _, stored⟩ := set
      rw [address] at address'
      rw [word] at word'
      cases address'
      cases word'
      obtain ⟨same, rfl⟩ := checked'.unique checked
      cases same
      exact ⟨second, rfl, v', stored⟩
    obtain ⟨second, s, set, _⟩ | ⟨second, s, opened, _⟩ := rest
    · obtain ⟨v', stored, mailed⟩ | ⟨f, stored, _⟩ := challenge_inv set
      · have sent := mailing_keeps u.email _ mailed
        refine .inl ⟨u, _, ⟨e, p, v, v', address, word, checked, second, rfl, stored⟩, ?_⟩
        obtain ⟨changed, ⟨_, placed⟩ | ⟨⟨_, told⟩, _⟩⟩ := stores_inv stored
        · intro now le f d
          have le₁ : v.uptime ≤ now := by rw [kept.uptime]; exact le
          have le₂ : v'.uptime ≤ now := by rw [changed.uptime]; exact le₁
          rw [sent.challenges (by simp) now le₂, placed now le₁, kept.uptime, kept.lifetime,
            kept.challenges List.not_mem_nil now le]
        · cases told
      · refine .inr ⟨fun u' c set => ?_, fun now le f' d => ?_⟩
        · obtain ⟨_, _, _, stored'⟩ := only set
          cases (stored.unique stored').1
        · obtain ⟨_, ⟨told, _⟩ | ⟨_, changed⟩⟩ := stores_inv stored
          · cases told
          · rw [changed.challenges (by simp) now (by rw [kept.uptime]; exact le),
              kept.challenges List.not_mem_nil now le]
    · refine .inr ⟨fun u' c set => ?_, fun now le f d => ?_⟩
      · obtain ⟨second', rfl, _⟩ := only set
        rw [second] at second'
        cases second'
      · have changed : SameBut [.draws] v w' :=
          (SameBut.noting ..).trans (a.issue_keeps u.email opened)
        rw [changed.challenges (by simp) now (by rw [kept.uptime]; exact le),
          kept.challenges List.not_mem_nil now le]

end Service

/-! ## What happened -/

section History

variable (a : Authority) (w : World)

/-- A user has signed up in the course of a run. -/
def Registered (es : List Event) (u : User) : Prop :=
  ∃ es₁ email password es₂ v,
    es = es₁ ++ .request (.signUp email password u.secondFactor) :: es₂ ∧
      Ends (Service.signUp email password u.secondFactor) (w.after a es₁) (.ok u) v

/-- An event sets a challenge for an address, or redeems the address's challenge. -/
def Disturbs (w : World) (e : Email) : Event → Prop
  | .request (.signIn email password) => ∃ u c, Service.Sets email password w u c ∧ u.email = e
  | .request (.verify email attemptId code) => ∃ v, Service.Redeems email attemptId code w e v
  | _ => False

/-- No event of a run sets or redeems a challenge for an address. -/
def Undisturbed (e : Email) : World → List Event → Prop
  | _, [] => True
  | w, ev :: es => ¬ Disturbs w e ev ∧ Undisturbed e (w.step a ev) es

/-- In the course of a run the user of an address and a password signed in, which set a challenge
that lives at an instant still, and since then none was set or redeemed for the address. -/
def Challenged (es : List Event) (e : Email) (p : Password) (c : Challenge) (now : Int) : Prop :=
  ∃ es₁ email password es₂, es = es₁ ++ .request (.signIn email password) :: es₂ ∧
    Email.read email = .ok e ∧ Password.read password = .ok p ∧
    Registered a w es₁ ⟨e, p, true⟩ ∧
    Service.Sets email password (w.after a es₁) ⟨e, p, true⟩ c ∧
    now < (w.after a es₁).uptime + 1000 * w.challenges.lifetime ∧
    Undisturbed a e (w.after a (es₁ ++ [.request (.signIn email password)])) es₂

/-- The accounts and the challenges at the end of a run come from its events. -/
structure Recorded (es : List Event) : Prop where
  lifetime : (w.after a es).challenges.lifetime = w.challenges.lifetime
  users : ∀ e u, (w.after a es).accounts.read e = .ok u → u.email = e ∧ Registered a w es u
  kept : ∀ u, Registered a w es u →
    (w.after a es).accounts.read u.email = .ok u ∨ (w.after a es).accounts.arePresent = false
  challenges : ∀ now, (w.after a es).uptime ≤ now → ∀ e c,
    (w.after a es).pendingAt now e c = true → ∃ p, Challenged a w es e p c now

end History

/-! ## One event -/

section Step

variable {a : Authority} {w : World} {es : List Event} {e : Email} {ev : Event}

/-- Who has signed up stays registered after one more event. -/
lemma Registered.snoc {u : User} (h : Registered a w es u) (ev : Event) :
    Registered a w (es ++ [ev]) u := by
  obtain ⟨es₁, email, password, es₂, v, rfl, run⟩ := h
  exact ⟨es₁, email, password, es₂ ++ [ev], v, by rw [List.append_assoc, List.cons_append], run⟩

/-- A user who has signed up after one more event did so before, or with it. -/
lemma Registered.of_snoc {u : User} (h : Registered a w (es ++ [ev]) u) :
    Registered a w es u ∨ ∃ email password v,
      ev = .request (.signUp email password u.secondFactor) ∧
        Ends (Service.signUp email password u.secondFactor) (w.after a es) (.ok u) v := by
  obtain ⟨es₁, email, password, es₂, v, split, run⟩ := h
  obtain rfl | ⟨es₂, ev', rfl⟩ := List.eq_nil_or_concat es₂
  · obtain ⟨rfl, last⟩ := List.append_inj' split rfl
    cases last
    exact .inr ⟨email, password, v, rfl, run⟩
  · rw [List.concat_eq_append, ← List.cons_append, ← List.append_assoc] at split
    obtain ⟨rfl, _⟩ := List.append_inj' split rfl
    exact .inl ⟨es₁, email, password, es₂, v, rfl, run⟩

/-- A run stays undisturbed with an event that does not disturb. -/
lemma Undisturbed.snoc (h : Undisturbed a e w es) (calm : ¬ Disturbs (w.after a es) e ev) :
    Undisturbed a e w (es ++ [ev]) := by
  induction es generalizing w with
  | nil => exact ⟨calm, trivial⟩
  | cons ev' es ih => exact ⟨h.1, ih h.2 calm⟩

/-- An address stays challenged after an event that does not disturb it. -/
lemma Challenged.snoc {p : Password} {c : Challenge} {now : Int}
    (h : Challenged a w es e p c now) (calm : ¬ Disturbs (w.after a es) e ev) :
    Challenged a w (es ++ [ev]) e p c now := by
  obtain ⟨es₁, email, password, es₂, rfl, address, word, known, set, live, still⟩ := h
  refine ⟨es₁, email, password, es₂ ++ [ev], by rw [List.append_assoc, List.cons_append], address,
    word, known, set, live, still.snoc ?_⟩
  rw [← after_append, List.append_assoc, List.singleton_append]
  exact calm

/-- Nobody is found after an event who was not found before or has signed up with it. -/
lemma read_step {u : User} (h : (w.step a ev).accounts.read e = .ok u) :
    w.accounts.read e = .ok u ∨ u.email = e ∧ ∃ email password v,
      ev = .request (.signUp email password u.secondFactor) ∧
        Ends (Service.signUp email password u.secondFactor) w (.ok u) v := by
  cases ev with
  | request r =>
    cases r with
    | signUp email password secondFactor =>
      obtain ⟨x, v, run⟩ := Ends.total ((Request.signUp email password secondFactor).op a) w
      rw [run.step] at h
      obtain ⟨s, run, _⟩ := run.map_inv
      obtain ⟨f, p, _, _, rfl, _, found⟩ | ⟨_, kept⟩ := Service.signUp_inv run
      · rw [found] at h
        split at h
        · next same =>
          cases h
          exact .inr ⟨same, email, password, v, rfl, run⟩
        · exact .inl h
      · rw [kept] at h
        exact .inl h
    | signIn | verify | signOut | checkToken =>
      rw [(step_request a w _).accounts (by simp [Request.parts])] at h
      exact .inl h
  | advance | outages | server | close => exact .inl ((w.step_quiet a (by simp)).2.2.2 e u h)

/-- Whoever is found stays to be found as long as there are accounts. -/
lemma read_of_step {u : User} (h : w.accounts.read e = .ok u) :
    (w.step a ev).accounts.read e = .ok u ∨ (w.step a ev).accounts.arePresent = false := by
  cases ev with
  | request r =>
    cases r with
    | signUp email password secondFactor =>
      obtain ⟨x, v, run⟩ := Ends.total ((Request.signUp email password secondFactor).op a) w
      rw [run.step]
      obtain ⟨s, run, _⟩ := run.map_inv
      obtain ⟨f, p, _, _, rfl, free, found⟩ | ⟨_, kept⟩ := Service.signUp_inv run
      · rw [found]
        split
        · next same =>
          rw [same, h] at free
          cases free
        · exact .inl h
      · rw [kept]
        exact .inl h
    | signIn | verify | signOut | checkToken =>
      rw [(step_request a w _).accounts (by simp [Request.parts])]
      exact .inl h
  | advance | outages | server => exact .inl h
  | close =>
    obtain ⟨n, closed⟩ := Service.close_eq w
    rw [step, closed]
    cases store : w.accounts with
    | directory d =>
      rw [store] at h
      exact .inl h
    | table t =>
      rw [store] at h
      simp only [Accounts.close, Table.close]
      split
      · exact .inl h
      · exact .inr rfl

/-- A table that is lost stays so. -/
lemma lost_step (h : w.accounts.arePresent = false) :
    (w.step a ev).accounts.arePresent = false := by
  cases ev with
  | request r => exact (step_request a w r).present.trans h
  | advance | outages | server => exact h
  | close =>
    obtain ⟨n, closed⟩ := Service.close_eq w
    rw [step, closed]
    cases store : w.accounts with
    | directory d =>
      rw [store] at h
      cases h
    | table t =>
      rw [store] at h
      simp only [Accounts.close, Table.close]
      split
      · exact h
      · rfl

/-- No event changes how long challenges live. -/
lemma lifetime_step : (w.step a ev).challenges.lifetime = w.challenges.lifetime := by
  cases ev with
  | request r => exact (step_request a w r).lifetime
  | advance | outages | server | close => rw [(w.step_quiet a (by simp)).2.2.1]

/-- A challenge that is pending after an event was pending before and is not disturbed by it, or is
set by it. -/
lemma pending_step (steady : ev.Steady) {now : Int} (le : (w.step a ev).uptime ≤ now)
    {c : Challenge} (h : (w.step a ev).pendingAt now e c = true) :
    w.pendingAt now e c = true ∧ ¬ Disturbs w e ev ∨
      ∃ email password u, ev = .request (.signIn email password) ∧
        Service.Sets email password w u c ∧ u.email = e ∧
          now < w.uptime + 1000 * w.challenges.lifetime := by
  have le' := Int.le_trans (w.uptime_le_step a steady) le
  cases ev with
  | request r =>
    cases r with
    | signIn email password =>
      obtain ⟨x, v, run⟩ := Ends.total ((Request.signIn email password).op a) w
      rw [run.step] at h
      obtain ⟨s, run, _⟩ := run.map_inv
      obtain ⟨u, d, set, changed⟩ | ⟨never, kept⟩ := Service.signIn_challenges run
      · rw [changed now le'] at h
        split at h
        · next same =>
          obtain ⟨rfl, early⟩ := of_decide_eq_true h
          exact .inr ⟨email, password, u, rfl, set, same, early⟩
        · next other =>
          refine .inl ⟨h, ?_⟩
          rintro ⟨u', d', set', same⟩
          rw [(set.unique set').1] at other
          exact other same
      · rw [kept now le'] at h
        refine .inl ⟨h, ?_⟩
        rintro ⟨u', d', set', _⟩
        exact never u' d' set'
    | verify email attemptId code =>
      obtain ⟨x, v, run⟩ := Ends.total ((Request.verify email attemptId code).op a) w
      rw [run.step] at h
      obtain ⟨s, run, _⟩ := run.map_inv
      obtain ⟨f, v', redeemed, s', opened, _⟩ | ⟨_, same, never⟩ := Service.verify_inv run
      · obtain ⟨_, changed, taken⟩ := Service.redeems_inv redeemed
        have after : SameBut [.draws] v' v := (SameBut.noting ..).trans (a.issue_keeps f opened)
        -- the redeemed challenge is gone, and those of other addresses are not touched
        rw [after.challenges (by simp) now (by rw [changed.uptime]; exact le'),
          taken now le'] at h
        split at h
        · cases h
        · next other =>
          refine .inl ⟨h, ?_⟩
          rintro ⟨v'', _, _, address, _⟩
          obtain ⟨_, _, address', _⟩ := redeemed
          rw [address'] at address
          exact other (Except.ok.inj address)
      · rw [same.challenges List.not_mem_nil now le'] at h
        refine .inl ⟨h, ?_⟩
        rintro ⟨v', redeemed⟩
        exact never e v' redeemed
    | signUp | signOut | checkToken =>
      rw [(step_request a w _).challenges (by simp [Request.parts]) now le'] at h
      exact .inl ⟨h, not_false⟩
  | advance | outages | server | close =>
    rw [(w.step_quiet a (by simp)).2.1] at h
    exact .inl ⟨h, not_false⟩

end Step

/-! ## Runs -/

section Runs

variable {a : Authority} {w : World}

/-- In a fresh world there is nothing to record. -/
lemma Recorded.start (fresh : w.Fresh) : Recorded a w [] where
  lifetime := rfl
  users e u found := absurd found (fresh.nobody e u)
  kept u known := by
    obtain ⟨es₁, email, password, es₂, v, split, _⟩ := known
    cases List.append_eq_nil_iff.1 split.symm |>.2
  challenges now _ e c pending := by
    rw [World.after, List.foldl_nil, fresh.unchallenged] at pending
    cases pending

/-- One more event keeps accounts and challenges recorded. -/
lemma Recorded.snoc {es : List Event} (h : Recorded a w es) {ev : Event} (steady : ev.Steady) :
    Recorded a w (es ++ [ev]) where
  lifetime := by rw [after_snoc, lifetime_step, h.lifetime]
  users e u found := by
    rw [after_snoc] at found
    obtain found | ⟨same, email, password, v, rfl, run⟩ := read_step found
    · obtain ⟨same, known⟩ := h.users e u found
      exact ⟨same, known.snoc ev⟩
    · exact ⟨same, es, email, password, [], v, rfl, run⟩
  kept u known := by
    rw [after_snoc]
    obtain known | ⟨email, password, v, rfl, run⟩ := known.of_snoc
    · obtain found | lost := h.kept u known
      · exact read_of_step found
      · exact .inr (lost_step lost)
    · obtain ⟨f, p, _, _, told, _, found⟩ | ⟨⟨_, told⟩, _⟩ := Service.signUp_inv run
      · have same := Except.ok.inj told
        have ended :=
          (run.map Answer.user).step (r := .signUp email password u.secondFactor) (a := a)
        rw [ended, found, if_pos (by rw [same]), same]
        exact .inl rfl
      · cases told
  challenges now le e c pending := by
    rw [after_snoc] at le pending
    obtain ⟨pending, calm⟩ | ⟨email, password, u, rfl, set, same, early⟩ :=
      pending_step steady le pending
    · have le' := Int.le_trans (World.uptime_le_step a _ steady) le
      obtain ⟨p, since⟩ := h.challenges now le' e c pending
      exact ⟨p, since.snoc calm⟩
    · obtain ⟨e', p, v, v', address, word, checked, second, drawn, stored⟩ := set
      -- the last signing in set it, for a user who was found and so has signed up before
      obtain ⟨found, right⟩ := Service.credentialsOf_inv checked
      obtain ⟨same', known⟩ := h.users e' u found
      obtain ⟨f, q, s⟩ := u
      cases same
      cases same'
      cases right
      cases second
      refine ⟨q, es, email, password, [], rfl, address, word, known, ?_, ?_, trivial⟩
      · exact ⟨_, q, v, v', address, word, checked, rfl, drawn, stored⟩
      · rw [← h.lifetime]
        exact early

/-- The end of every run from a fresh world is recorded. -/
lemma recorded_after (fresh : w.Fresh) (es : List Event) (steady : ∀ ev ∈ es, Event.Steady ev) :
    Recorded a w es := by
  -- events are recorded at the end, so the part that is done is kept in front
  have more (fs es : List Event) (h : Recorded a w fs) (steady : ∀ ev ∈ es, Event.Steady ev) :
      Recorded a w (fs ++ es) := by
    induction es generalizing fs with
    | nil =>
      rw [List.append_nil]
      exact h
    | cons ev es ih =>
      rw [← List.singleton_append, ← List.append_assoc]
      refine ih (fs ++ [ev]) (h.snoc (steady ev List.mem_cons_self)) ?_
      exact fun ev' mem => steady ev' (List.mem_cons_of_mem ev mem)
  exact more [] es (.start fresh) steady

/-- Accounts in which somebody is found are present. -/
lemma present_of_read {accounts : Accounts} {e : Email} {u : User}
    (h : accounts.read e = .ok u) : accounts.arePresent = true := by
  cases accounts with
  | directory d => rfl
  | table t =>
    rw [Accounts.arePresent]
    cases rows : t.rows with
    | some _ => rfl
    | none =>
      simp only [Accounts.read, Table.find?, rows] at h
      cases h

/-- Nobody else has signed up under the address of a user who is found. -/
lemma Recorded.only {es : List Event} (h : Recorded a w es) {e : Email} {u : User}
    (found : (w.after a es).accounts.read e = .ok u) {u' : User} (known : Registered a w es u')
    (same : u'.email = e) : u' = u := by
  obtain found' | lost := h.kept u' known
  · rw [same, found] at found'
    exact (Except.ok.inj found').symm
  · rw [present_of_read found] at lost
    cases lost

/-- A session token is handed out only to the user of its address who signs in with the password of
an earlier signing up without a second factor, or who verifies the challenge that an earlier signing
in with the password set last, that is still live, and that nobody has redeemed. -/
theorem session_origin (fresh : w.Fresh) (es : List Event)
    (steady : ∀ ev ∈ es, Event.Steady ev) (r : Request) {x : Answer} {t : String} {v : World}
    (answered : Ends (r.op a) (w.after a es) (.ok x) v) (opened : x.token? = some t) :
    ∃ e expiry p, a.Mints t e expiry ∧
      ((∃ email password, r = .signIn email password ∧ Email.read email = .ok e ∧
          Password.read password = .ok p ∧ Registered a w es ⟨e, p, false⟩ ∧
          ∀ u, Registered a w es u → u.email = e → u.secondFactor = false) ∨
        ∃ email attemptId code c, r = .verify email attemptId code ∧ Email.read email = .ok e ∧
          AttemptId.read attemptId = .ok c.attempt ∧ OneTimeCode.read code = .ok c.code ∧
          Challenged a w es e p c (w.after a es).uptime) := by
  have recorded := recorded_after (a := a) fresh es steady
  cases r with
  | signIn email password =>
    obtain ⟨s, run, told⟩ := answered.map_inv
    obtain ⟨⟨_, rfl⟩, _⟩ | ⟨e, p, u, v', address, word, checked, rest⟩ := Service.signIn_inv run
    · cases told
    · obtain ⟨found, right⟩ := Service.credentialsOf_inv checked
      obtain ⟨same, known⟩ := recorded.users e u found
      obtain ⟨second, s', set, rfl⟩ | ⟨second, s', issued, rfl⟩ := rest
      · cases s' with
        | ok id =>
          cases told
          cases opened
        | error f => cases told
      · cases s' with
        | ok t' =>
          cases told
          cases opened
          obtain ⟨minted, _⟩ := Authority.issue_inv issued
          -- an address is registered once, so no other signing up asked for a second factor
          have only (u' : User) (known' : Registered a w es u') (same' : u'.email = e) :
              u'.secondFactor = false := by
            rw [recorded.only found known' same', second]
          obtain ⟨f, q, b⟩ := u
          cases same
          cases right
          cases second
          exact ⟨_, _, _, minted, .inl ⟨email, password, rfl, address, word, known, only⟩⟩
        | error f => cases told
  | verify email attemptId code =>
    obtain ⟨s, run, told⟩ := answered.map_inv
    obtain ⟨e, v', redeemed, s', issued, rfl⟩ | ⟨⟨_, rfl⟩, _⟩ := Service.verify_inv run
    · cases s' with
      | ok t' =>
        cases told
        cases opened
        obtain ⟨minted, _⟩ := Authority.issue_inv issued
        obtain ⟨⟨c, attempt, digits, pending⟩, _⟩ := Service.redeems_inv redeemed
        obtain ⟨_, _, address, _⟩ := redeemed
        obtain ⟨p, since⟩ := recorded.challenges _ (Int.le_refl _) e c pending
        exact ⟨e, _, p, minted,
          .inr ⟨email, attemptId, code, c, rfl, address, attempt, digits, since⟩⟩
      | error f => cases told
    · cases told
  | signUp | signOut | checkToken =>
    obtain ⟨s, _, told⟩ := answered.map_inv
    cases s with
    | ok _ =>
      cases told
      cases opened
    | error f => cases told

end Runs

/-- A user signs up with a second factor and signs in. -/
def sampleRun : List Event :=
  [.request (.signUp (some "a@x.com") (some "password") true),
    .request (.signIn (some "a@x.com") (some "password"))]

/-- The verification of the challenge that is set then, with the first id and the first code. -/
def sampleVerification : Request :=
  .verify (some "a@x.com") (some "00000000-0000-0000-0000-000000000000") (some "000000")

/-- The verification of the sample opens a session, and the user signed up and signed in for it. -/
theorem session_origin_sample : ∃ t v, World.sample.Fresh ∧
    (∀ ev ∈ sampleRun, Event.Steady ev) ∧
    Ends (sampleVerification.op .sample) (World.sample.after .sample sampleRun)
      (.ok (.session t)) v ∧
    (Answer.session t).token? = some t ∧
    ∃ e expiry p, Authority.sample.Mints t e expiry ∧
      ((∃ email password, sampleVerification = .signIn email password ∧
          Email.read email = .ok e ∧ Password.read password = .ok p ∧
          Registered .sample .sample sampleRun ⟨e, p, false⟩ ∧
          ∀ u, Registered .sample .sample sampleRun u → u.email = e → u.secondFactor = false) ∨
        ∃ email attemptId code c, sampleVerification = .verify email attemptId code ∧
          Email.read email = .ok e ∧ AttemptId.read attemptId = .ok c.attempt ∧
          OneTimeCode.read code = .ok c.code ∧
          Challenged .sample .sample sampleRun e p c
            (World.sample.after .sample sampleRun).uptime) := by
  have steady : ∀ ev ∈ sampleRun, Event.Steady ev := by
    intro ev mem
    simp only [sampleRun, List.mem_cons, List.not_mem_nil, or_false] at mem
    obtain rfl | rfl := mem
    · trivial
    · trivial
  have run : ∃ t v, Ends (sampleVerification.op .sample) (World.sample.after .sample sampleRun)
      (.ok (.session t)) v := ⟨_, _, rfl⟩
  obtain ⟨t, v, answered⟩ := run
  exact ⟨t, v, sample_fresh, steady, answered, rfl,
    session_origin sample_fresh sampleRun steady sampleVerification answered rfl⟩

end SignIn
