import Mathlib.Data.List.Induction
import SignIn.Proofs.Origin
import SignIn.Proofs.Revocation

/-!
# Admission

A user who has signed up with a whole password gets in, along every run in which all collaborators
work: the password gives a session, or a challenge whose code is mailed; and the challenge gives a
session as long as it lives, whatever else is asked for meanwhile. `Awaits` is the invariant that
carries a challenge through a run. A session that is opened belongs to the user up to its last
second, unless its token was signed out; since a token is nothing but its text, this may have
happened before it was opened.
-/

namespace SignIn

open World Token

/-! ## Calm runs -/

/-- A request, or a movement of the two clocks together: nothing goes out of order. -/
def Event.Calm : Event → Prop
  | request _ => True
  | advance wall uptime => wall = uptime ∧ 0 ≤ uptime
  | outages _ | server _ | close => False

/-- In calm events the clocks keep pace. -/
lemma Event.Calm.keepsPace {ev : Event} (h : ev.Calm) : ev.KeepsPace := by
  cases ev with
  | request => trivial
  | advance => exact h
  | outages | server | close => cases h

/-- In calm events the monotonic clock does not go back. -/
lemma Event.Calm.steady {ev : Event} (h : ev.Calm) : ev.Steady := h.keepsPace.steady

/-- A request to sign in with an address and a password. -/
def Request.SignsIn (e : Email) (p : Password) : Request → Prop
  | signIn email password => Email.read email = .ok e ∧ Password.read password = .ok p
  | _ => False

/-- A request to verify a challenge of an address. -/
def Request.Verifies (e : Email) (c : Challenge) : Request → Prop
  | verify email attemptId code =>
    Email.read email = .ok e ∧ AttemptId.read attemptId = .ok c.attempt ∧
      OneTimeCode.read code = .ok c.code
  | _ => False

namespace World

/-- A world in which every store works. -/
structure Works (w : World) : Prop where
  calls : ∀ t, w.outages t = none
  present : w.accounts.arePresent = true
  keeps : w.KeepsChallenges

/-- The challenge of an address can be met until some instant. -/
def Awaits (w : World) (e : Email) (c : Challenge) (till : Int) : Prop :=
  ∀ now, w.uptime ≤ now → now < till → w.pendingAt now e c = true

end World

section History

variable (a : Authority) (w : World)

/-- In the course of a run a token has been signed out. -/
def SignedOut (es : List Event) (t : String) : Prop :=
  ∃ es₁ es₂ v, es = es₁ ++ .request (.signOut (some t)) :: es₂ ∧
    Ends (Service.signOut a (some t)) (w.after a es₁) (.ok ()) v

/-- A token belongs to an address from the end of a run until some second, unless it has been
signed out. -/
def StaysGood (es : List Event) (t : String) (e : Email) (expiry : Int) : Prop :=
  (w.after a es).wallSeconds ≤ expiry ∧
    ∀ fs, (∀ ev ∈ fs, Event.Calm ev) → ¬ SignedOut a w (es ++ fs) t →
      (w.after a (es ++ fs)).wallSeconds ≤ expiry →
        ∃ v, Ends (Service.checkToken a t) (w.after a (es ++ fs)) (.ok e) v

/-- A challenge of a user can be met from the end of a run until some instant, with its attempt in
any letter case: whatever is asked for meanwhile besides signing in as the user and verifying the
challenge, verifying it gives a token that is good for a session's length. -/
def StaysOpen (es : List Event) (u : User) (c : Challenge) (till : Int) : Prop :=
  ∀ fs, (∀ ev ∈ fs, Event.Calm ev) →
    (∀ r, .request r ∈ fs → ¬ r.SignsIn u.email u.password ∧ ¬ r.Verifies u.email c) →
    (w.after a (es ++ fs)).uptime < till →
    hasDate (w.after a (es ++ fs)).wallSeconds = true →
    hasDate ((w.after a (es ++ fs)).wallSeconds + a.seconds) = true →
    ∀ email attempt code, Email.read email = .ok u.email →
      attempt.toLower = c.attempt.text → OneTimeCode.read code = .ok c.code →
        ∃ t v, Ends (Service.verify a email (some attempt) code) (w.after a (es ++ fs)) (.ok t) v ∧
          StaysGood a w (es ++ fs ++ [.request (.verify email (some attempt) code)]) t u.email
            ((w.after a (es ++ fs)).wallSeconds + a.seconds)

/-- A user gets in at the end of a run with an address and a password. Without a second factor there
is a session, which is good for a session's length, and no mail; with one there is a challenge, its
code is all that is mailed, and it can be met as long as it lives. -/
def GetsIn (es : List Event) (u : User) (email : Field) (password : SecretField) : Prop :=
  ∃ s w', Ends (Service.signIn a email password) (w.after a es) (.ok s) w' ∧
    (u.secondFactor = false → ∃ t, s = .session t ∧ w'.mailer = (w.after a es).mailer ∧
      StaysGood a w (es ++ [.request (.signIn email password)]) t u.email
        ((w.after a es).wallSeconds + a.seconds)) ∧
    (u.secondFactor = true → ∃ c, s = .challenge c.attempt ∧
      w'.mailer = ((w.after a es).mailer.answer (Service.codeMessage u.email c.code)).2 ∧
      StaysOpen a w (es ++ [.request (.signIn email password)]) u c
        ((w.after a es).uptime + 1000 * w.challenges.lifetime))

end History

/-! ## What works -/

section Calls

variable {a : Authority} {w w' : World} {e : Email}

/-- A world that differs in some parts only works still. -/
lemma World.Works.of_sameBut {parts : List Part} (h : w.Works) (same : SameBut parts w w') :
    w'.Works where
  calls t := by rw [same.outages]; exact h.calls t
  present := same.present.trans h.present
  keeps := same.keepsChallenges h.keeps

/-- A calm event leaves a world working. -/
lemma World.Works.step (h : w.Works) {ev : Event} (calm : ev.Calm) : (w.step a ev).Works := by
  cases ev with
  | request r => exact h.of_sameBut (step_request a w r)
  | advance wall uptime =>
    exact ⟨h.calls, h.present, h.keeps.served, h.keeps.lasting, h.keeps.holdable⟩
  | outages | server | close => cases calm

/-- Calm events leave a world working. -/
lemma World.Works.after (h : w.Works) {es : List Event} (calm : ∀ ev ∈ es, Event.Calm ev) :
    (w.after a es).Works := by
  induction es generalizing w with
  | nil => exact h
  | cons ev es ih =>
    obtain ⟨first, rest⟩ := List.forall_mem_cons.1 calm
    exact ih (h.step first) rest

namespace Service

/-- A field that is read passes its value on. -/
lemma field_bind_of_ok {α β : Type} {x : Except Flaw α} {v : α} {f : α → Op β}
    {r : Except Failure β} (value : x = .ok v) (h : Ends (f v) w r w') :
    Ends (field x >>= f) w r w' := by
  rw [value]
  exact h

/-- A call that returns returns as an operation. -/
lemma orEscape_of_ok {α : Type} {c : Call α} {v : α} (h : Ends c w (.ok v) w') :
    Ends (orEscape c) w (.ok v) w' :=
  attempt_bind.2 ⟨.ok v, w', h, rfl⟩

/-- The user who is found under an address has the right credentials with the own password, if it is
whole. -/
lemma exists_credentialsOf (works : w.Works) {u : User} (found : w.accounts.read e = .ok u)
    (whole : u.password.isWhole = true) :
    ∃ w', Ends (credentialsOf e u.password) w (.ok u) w' := by
  obtain ⟨r, v, checked⟩ := Ends.total (Accounts.check e u.password) w
  obtain ⟨told, same⟩ := Accounts.check_inv checked
  rw [found, Except.bind, Accounts.verdict_eq_ok_iff.2 ⟨rfl, whole⟩] at told
  subst told
  obtain ⟨r, v', looked⟩ := Ends.total (Accounts.lookUp e) v
  obtain ⟨told, _⟩ := Accounts.lookUp_inv looked
  rw [same.accounts List.not_mem_nil, found] at told
  subst told
  have right : Ends (authenticated e u.password) w (.ok u) v' :=
    (World.guarded_of_none (works.calls _) checked).bind
      (World.guarded_of_none ((works.of_sameBut same).calls _) looked)
  exact ⟨v', attempt_bind.2 ⟨.ok u, v', right, rfl⟩⟩

/-- Where challenges are kept and mail goes out, setting a challenge ends with the attempt that was
drawn, the challenge is set, and its code is what was mailed. -/
lemma exists_challenge (works : w.Works) (mailed : ∀ m, (w.mailer.answer m).1 = .ok ())
    (e : Email) : ∃ w', Ends (challenge e) w (.ok (nextChallenge w).attempt) w' ∧
      w.ChallengeSet w' e (nextChallenge w) (w.uptime + 1000 * w.challenges.lifetime) ∧
      w'.mailer = (w.mailer.answer (codeMessage e (nextChallenge w).code)).2 := by
  have drawn : SameBut [.draws] w w.idDrawn.codeDrawn :=
    { SameBut.refl _ w with draws := absurd List.mem_cons_self }
  obtain ⟨r, v, issued⟩ := Ends.total (Challenges.issue e (nextChallenge w)) w.idDrawn.codeDrawn
  obtain ⟨same, ⟨rfl, set⟩ | ⟨_, _, trouble⟩⟩ := Challenges.issue_inv issued
  · obtain ⟨r, v', sent⟩ := Ends.total (Mailer.send (codeMessage e (nextChallenge w).code)) v
    obtain ⟨same', answered⟩ := Mailer.send_inv sent
    have mailer : v.mailer = w.mailer := same.mailer (by simp)
    rw [mailer] at answered
    obtain rfl : r = .ok () := (congrArg Prod.fst answered).trans (mailed _)
    have mailer' := congrArg Prod.snd answered
    have working := (works.of_sameBut drawn).of_sameBut same
    refine ⟨v'.noting .info source ("2FA challenge issued for " ++ e.redacted), ?_, ?_, mailer'⟩
    · rw [challenge, Ends.drawId_bind, Ends.drawCode_bind, attempt_bind]
      refine ⟨.ok (), v, World.guarded_of_none ((works.of_sameBut drawn).calls _) issued, ?_⟩
      exact attempt_bind.2 ⟨.ok (), v', World.guarded_of_none (working.calls _) sent, rfl⟩
    · intro now le f d
      have later : v.uptime ≤ now := by rw [same.uptime]; exact le
      rw [(same'.trans (.noting ..)).challenges (by simp) now later, set now le f d]
      rfl
  · exact absurd ((works.of_sameBut drawn).keeps) trouble

/-- A challenge is met if it is pending, with its attempt and its code. -/
lemma exists_verify (works : w.Works) (plain : Key.IsPlain a.secret)
    (start : hasDate w.wallSeconds = true) (finish : hasDate (w.wallSeconds + a.seconds) = true)
    {c : Challenge} (pending : w.pendingAt w.uptime e c = true) {email attempt code : Field}
    (named : (Request.verify email attempt code).Verifies e c) :
    ∃ t w', Ends (verify a email attempt code) w (.ok t) w' ∧
      a.Mints t e (w.wallSeconds + a.seconds) := by
  obtain ⟨address, attempted, digits⟩ := named
  obtain ⟨r, v, run⟩ := Ends.total (Challenges.take e c) w
  obtain ⟨rfl, _, same, _⟩ | ⟨_, ⟨_, other⟩ | ⟨_, trouble⟩⟩ := Challenges.take_inv run
  · let v' := v.noting .info source ("2FA verification succeeded for " ++ e.redacted)
    have clock : v'.wallSeconds = w.wallSeconds := same.wallSeconds
    rw [← clock] at start finish ⊢
    obtain ⟨t, opened⟩ := Authority.exists_issue plain e start finish
    refine ⟨t, v'.idDrawn, ?_, (Authority.issue_inv opened).1⟩
    have taken := World.guarded_of_none (works.calls .take) run
    refine field_bind_of_ok address (field_bind_of_ok attempted (field_bind_of_ok digits ?_))
    exact attempt_bind.2 ⟨.ok true, v, taken, log_bind.2 (orEscape_of_ok opened)⟩
  · rw [pending] at other
    cases other
  · exact absurd works.keeps.served trouble

end Service

/-- An address has one challenge at a time. -/
lemma World.pendingAt_unique {now : Int} {c d : Challenge} (h : w.pendingAt now e c = true)
    (k : w.pendingAt now e d = true) : c = d := by
  rw [pendingAt] at h k
  cases store : w.challenges with
  | book b =>
    simp only [store, Book.take_eq] at h k
    cases found : Keyed.find? e b.pending with
    | none =>
      rw [found] at h
      cases h
    | some p =>
      simp only [found, decide_eq_true_eq] at h k
      exact h.1.symm.trans k.1
  | keyspace seconds =>
    simp only [store, beq_iff_eq] at h k
    exact Challenge.payload_inj.1 (Option.some.inj (h.symm.trans k))

end Calls

/-! ## Challenges that wait -/

section Waiting

variable {a : Authority} {w : World}

/-- Setting a challenge for a user takes the address and the password with which the user is
found. -/
lemma Service.Sets.signsIn {email : Field} {password : SecretField} {u v : User} {c : Challenge}
    (own : ∀ e u, w.accounts.read e = .ok u → u.email = e)
    (found : w.accounts.read u.email = .ok u) (set : Service.Sets email password w v c)
    (same : v.email = u.email) : (Request.signIn email password).SignsIn u.email u.password := by
  obtain ⟨e, p, _, _, address, word, checked, _⟩ := set
  obtain ⟨found', rfl⟩ := Service.credentialsOf_inv checked
  have owner := own e v found'
  rw [← owner, same, found] at found'
  obtain rfl := Except.ok.inj found'
  rw [← owner] at address
  exact ⟨address, word⟩

/-- A challenge of a user waits on unless the user signs in or the challenge is verified. -/
lemma World.Awaits.step {u : User} {c : Challenge} {till : Int} (h : w.Awaits u.email c till)
    (own : ∀ e u, w.accounts.read e = .ok u → u.email = e)
    (found : w.accounts.read u.email = .ok u) {ev : Event} (calm : ev.Calm)
    (other : ∀ r, ev = .request r → ¬ r.SignsIn u.email u.password ∧ ¬ r.Verifies u.email c) :
    (w.step a ev).Awaits u.email c till := by
  intro now le early
  have le' := Int.le_trans (w.uptime_le_step a calm.steady) le
  have pending := h now le' early
  cases ev with
  | request r =>
    obtain ⟨notIn, notVerified⟩ := other r rfl
    cases r with
    | signIn email password =>
      obtain ⟨x, v, run⟩ := Ends.total ((Request.signIn email password).op a) w
      rw [run.step]
      obtain ⟨s, run, _⟩ := run.map_inv
      obtain ⟨u', d, set, changed⟩ | ⟨_, kept⟩ := Service.signIn_challenges run
      · rw [changed now le', if_neg fun same => notIn (set.signsIn own found same)]
        exact pending
      · rw [kept now le']
        exact pending
    | verify email attemptId code =>
      obtain ⟨x, v, run⟩ := Ends.total ((Request.verify email attemptId code).op a) w
      rw [run.step]
      obtain ⟨s, run, _⟩ := run.map_inv
      obtain ⟨f, v', redeemed, s', opened, _⟩ | ⟨_, same, _⟩ := Service.verify_inv run
      · obtain ⟨⟨d, attempt, digits, pending'⟩, changed, taken⟩ := Service.redeems_inv redeemed
        have after : SameBut [.draws] v' v := (SameBut.noting ..).trans (a.issue_keeps f opened)
        -- the challenge that was redeemed is that of another address, since this one is not named
        have apart : f ≠ u.email := by
          rintro rfl
          have now_pending := h w.uptime (Int.le_refl _) (Int.lt_of_le_of_lt le' early)
          obtain rfl := World.pendingAt_unique now_pending pending'
          obtain ⟨_, _, address, _⟩ := redeemed
          exact notVerified ⟨address, attempt, digits⟩
        rw [after.challenges (by simp) now (by rw [changed.uptime]; exact le'), taken now le',
          if_neg apart]
        exact pending
      · rw [same.challenges List.not_mem_nil now le']
        exact pending
    | signUp | signOut | checkToken =>
      rw [(step_request a w _).challenges (by simp [Request.parts]) now le']
      exact pending
  | advance | outages | server | close =>
    rw [(w.step_quiet a (by simp)).2.1]
    exact pending

/-- In a calm run whoever has signed up is found. -/
lemma Recorded.found {es : List Event} (h : Recorded a w es) (works : (w.after a es).Works)
    {u : User} (known : Registered a w es u) : (w.after a es).accounts.read u.email = .ok u := by
  obtain found | lost := h.kept u known
  · exact found
  · rw [works.present] at lost
    cases lost

/-- Who has signed up stays registered in a longer run. -/
lemma Registered.append {es : List Event} {u : User} (h : Registered a w es u) (fs : List Event) :
    Registered a w (es ++ fs) u := by
  obtain ⟨es₁, email, password, es₂, v, rfl, run⟩ := h
  exact ⟨es₁, email, password, es₂ ++ fs, v, by rw [List.append_assoc, List.cons_append], run⟩

/-- A challenge of a user waits through a calm run in which the user does not sign in and the
challenge is not verified. -/
lemma World.Awaits.after (fresh : w.Fresh) (works : w.Works) {es : List Event}
    (calm : ∀ ev ∈ es, Event.Calm ev) {u : User} (known : Registered a w es u) {c : Challenge}
    {till : Int} (h : (w.after a es).Awaits u.email c till) {fs : List Event}
    (calm' : ∀ ev ∈ fs, Event.Calm ev)
    (other : ∀ r, .request r ∈ fs → ¬ r.SignsIn u.email u.password ∧ ¬ r.Verifies u.email c) :
    (w.after a (es ++ fs)).Awaits u.email c till := by
  induction fs using List.reverseRecOn with
  | nil =>
    rw [List.append_nil]
    exact h
  | append_singleton fs ev ih =>
    obtain ⟨before, last⟩ := List.forall_mem_append.1 calm'
    have earlier := List.forall_mem_append.2 ⟨calm, before⟩
    have recorded := recorded_after (a := a) fresh (es ++ fs) fun ev mem => (earlier ev mem).steady
    have found := recorded.found (works.after earlier) (known.append fs)
    rw [← List.append_assoc, World.after_snoc]
    have waits := ih before fun r mem => other r (List.mem_append_left _ mem)
    exact waits.step (fun e u found => (recorded.users e u found).1) found
      (List.forall_mem_singleton.1 last) fun r same => other r (by simp [same])

end Waiting

/-! ## Sessions that last -/

section Lasting

variable {a : Authority} {w : World} {t : String}

/-- What has been signed out stays so in a longer run. -/
lemma SignedOut.snoc {es : List Event} (h : SignedOut a w es t) (ev : Event) :
    SignedOut a w (es ++ [ev]) t := by
  obtain ⟨es₁, es₂, v, rfl, run⟩ := h
  exact ⟨es₁, es₂ ++ [ev], v, by rw [List.append_assoc, List.cons_append], run⟩

/-- A token that has not been signed out is not banned. -/
lemma unbanned_of_not_signedOut (fresh : w.Fresh) {es : List Event}
    (calm : ∀ ev ∈ es, Event.Calm ev) (never : ¬ SignedOut a w es t) :
    ∀ now, (w.after a es).uptime ≤ now → (w.after a es).bannedAt now t = false := by
  induction es using List.reverseRecOn with
  | nil => exact fun now _ => fresh.unbanned now t
  | append_singleton es ev ih =>
    obtain ⟨before, last⟩ := List.forall_mem_append.1 calm
    have steady := (List.forall_mem_singleton.1 last).steady
    have free := ih before fun done => never (done.snoc ev)
    rw [World.after_snoc]
    intro now le
    have le' := Int.le_trans (World.uptime_le_step a _ steady) le
    by_cases out : ev = .request (.signOut (some t))
    · subst out
      obtain ⟨x, v, run⟩ := Ends.total ((Request.signOut (some t)).op a) (w.after a es)
      rw [run.step]
      obtain ⟨s, run, _⟩ := run.map_inv
      obtain ⟨_, _, rfl, _⟩ | ⟨_, same⟩ := Service.signOut_inv run
      · exact absurd ⟨es, [], v, rfl, run⟩ never
      · rw [same.bans List.not_mem_nil now le']
        exact free now le'
    · rw [World.step_bannedAt a _ t out le']
      exact free now le'

/-- In a calm event the wall clock does not go back. -/
lemma World.wall_le_step {ev : Event} (calm : ev.Calm) : w.wall ≤ (w.step a ev).wall := by
  cases ev with
  | request r => exact Int.le_of_eq (step_request a w r).wall.symm
  | advance wall uptime =>
    have together : wall = uptime := calm.1
    have forward : 0 ≤ uptime := calm.2
    show w.wall ≤ w.wall + wall
    omega
  | outages | server | close => cases calm

/-- In calm events the second that the wall clock shows does not go back. -/
lemma World.wallSeconds_le_after {es : List Event} (calm : ∀ ev ∈ es, Event.Calm ev) :
    w.wallSeconds ≤ (w.after a es).wallSeconds := by
  induction es generalizing w with
  | nil => exact Int.le_refl _
  | cons ev es ih =>
    obtain ⟨first, later⟩ := List.forall_mem_cons.1 calm
    have forward : w.wall ≤ (w.step a ev).wall := wall_le_step first
    obtain ⟨low, high⟩ := w.wallSeconds_spec
    obtain ⟨low', high'⟩ := (w.step a ev).wallSeconds_spec
    have rest := @ih (w.step a ev) later
    have seconds : w.wallSeconds ≤ (w.step a ev).wallSeconds := by omega
    exact Int.le_trans seconds rest

/-- A token that is minted for an address is good until its last second. -/
lemma Authority.Mints.staysGood {e : Email} {expiry : Int} (minted : a.Mints t e expiry)
    (plain : Key.IsPlain a.secret) (fresh : w.Fresh) (works : w.Works) {es : List Event}
    (calm : ∀ ev ∈ es, Event.Calm ev) (start : hasDate (w.after a es).wallSeconds = true)
    (live : (w.after a es).wallSeconds ≤ expiry) : StaysGood a w es t e expiry := by
  refine ⟨live, fun fs calm' never live' => ?_⟩
  have both := List.forall_mem_append.2 ⟨calm, calm'⟩
  have forward := @wallSeconds_le_after a (w.after a es) fs calm'
  rw [← after_append] at forward
  have date : hasDate (w.after a (es ++ fs)).wallSeconds = true := by
    have last := hasDate_iff.1 minted.1
    rw [hasDate_iff] at start ⊢
    omega
  obtain ⟨id, told⟩ := minted.sealedClaims plain
  have opened : a.openAt (w.after a (es ++ fs)).wallSeconds t = .ok e := by
    rw [Authority.openAt_of_sealed told, dated_of_hasDate date, Except.bind, if_pos live']
  have working := works.after (a := a) both
  exact exists_checkToken opened
    (unbanned_of_not_signedOut fresh both never _ (Int.le_refl _)) (working.calls _)
    working.keeps.served

end Lasting

/-! ## Getting in -/

section Admission

variable {a : Authority} {w : World}

/-- Signing in with the own credentials opens a session for a user without a second factor, and
mails nothing. -/
lemma Service.exists_signIn_session {u : User} (works : w.Works) (plain : Key.IsPlain a.secret)
    (found : w.accounts.read u.email = .ok u) (whole : u.password.isWhole = true)
    (second : u.secondFactor = false) {email : Field} {password : SecretField}
    (named : (Request.signIn email password).SignsIn u.email u.password)
    (start : hasDate w.wallSeconds = true) (finish : hasDate (w.wallSeconds + a.seconds) = true) :
    ∃ t w', Ends (signIn a email password) w (.ok (.session t)) w' ∧ w'.mailer = w.mailer ∧
      ∃ v, SameBut [] w v ∧ Ends (a.issue u.email) v (.ok t) w' := by
  obtain ⟨address, word⟩ := named
  obtain ⟨v, checked⟩ := exists_credentialsOf works found whole
  let v' := v.noting .info source ("Login succeeded for " ++ u.email.redacted)
  have same : SameBut [] w v' := (credentialsOf_keeps _ _ checked).trans (.noting ..)
  rw [← same.wallSeconds] at start finish
  obtain ⟨t, opened⟩ := Authority.exists_issue plain u.email start finish
  refine ⟨t, v'.idDrawn, ?_, same.mailer List.not_mem_nil, v', same, opened⟩
  refine field_bind_of_ok address (field_bind_of_ok word (checked.bind ?_))
  rw [second, if_neg Bool.false_ne_true, log_bind]
  exact (orEscape_of_ok opened).bind rfl

/-- Signing in with the own credentials sets a challenge for a user with a second factor, and mails
its code and nothing else. -/
lemma Service.exists_signIn_challenge {u : User} (works : w.Works)
    (found : w.accounts.read u.email = .ok u) (whole : u.password.isWhole = true)
    (second : u.secondFactor = true) (mailed : ∀ m, (w.mailer.answer m).1 = .ok ())
    {email : Field} {password : SecretField}
    (named : (Request.signIn email password).SignsIn u.email u.password) :
    ∃ c w', Ends (signIn a email password) w (.ok (.challenge c.attempt)) w' ∧
      w'.Awaits u.email c (w.uptime + 1000 * w.challenges.lifetime) ∧
      w'.mailer = (w.mailer.answer (codeMessage u.email c.code)).2 := by
  obtain ⟨address, word⟩ := named
  obtain ⟨v, checked⟩ := exists_credentialsOf works found whole
  have same := credentialsOf_keeps _ _ checked
  have mailer : v.mailer = w.mailer := same.mailer List.not_mem_nil
  rw [← mailer] at mailed
  obtain ⟨w', issued, set, sent⟩ := exists_challenge (works.of_sameBut same) mailed u.email
  have run : Ends (signIn a email password) w (.ok (.challenge (nextChallenge v).attempt)) w' := by
    refine field_bind_of_ok address (field_bind_of_ok word (checked.bind ?_))
    rw [second, if_pos rfl]
    exact issued.bind rfl
  refine ⟨nextChallenge v, w', run, fun now le early => ?_, by rw [sent, mailer]⟩
  have later : v.uptime ≤ now := by
    rw [same.uptime, ← (signIn_keeps a email password run).uptime]
    exact le
  rw [← same.uptime, ← same.lifetime] at early
  rw [set now later, if_pos rfl]
  exact decide_eq_true ⟨rfl, early⟩

/-- Along every calm run a user who has signed up with a whole password gets in with it. -/
theorem signIn_admits (plain : Key.IsPlain a.secret) (lasting : 0 ≤ a.seconds) (fresh : w.Fresh)
    (works : w.Works) {es : List Event} (calm : ∀ ev ∈ es, Event.Calm ev) {u : User}
    (known : Registered a w es u) (whole : u.password.isWhole = true) {email : Field}
    {password : SecretField}
    (named : (Request.signIn email password).SignsIn u.email u.password)
    (mailed : ∀ m, ((w.after a es).mailer.answer m).1 = .ok ())
    (start : hasDate (w.after a es).wallSeconds = true)
    (finish : hasDate ((w.after a es).wallSeconds + a.seconds) = true) :
    GetsIn a w es u email password := by
  have recorded := recorded_after (a := a) fresh es fun ev mem => (calm ev mem).steady
  have working := works.after (a := a) calm
  have found := recorded.found working known
  -- a calm run stays calm with a signing in or a verification after it
  have more {fs : List Event} (calm : ∀ ev ∈ fs, Event.Calm ev) (r : Request) :
      ∀ ev ∈ fs ++ [.request r], Event.Calm ev :=
    List.forall_mem_append.2 ⟨calm, List.forall_mem_singleton.2 trivial⟩
  rw [GetsIn]
  cases second : u.secondFactor with
  | false =>
    obtain ⟨t, w', run, unmailed, v, same, opened⟩ :=
      Service.exists_signIn_session working plain found whole second named start finish
    have minted := (Authority.issue_inv opened).1
    rw [same.wallSeconds] at minted
    have ended : w.after a (es ++ [.request (.signIn email password)]) = w' := by
      rw [World.after_snoc, (run.map Answer.signedIn).step (r := .signIn email password) (a := a)]
    have clock : (w.after a (es ++ [.request (.signIn email password)])).wallSeconds =
        (w.after a es).wallSeconds := by
      rw [ended, (Service.signIn_keeps a email password run).wallSeconds]
    refine ⟨_, w', run, fun _ => ⟨t, rfl, unmailed, ?_⟩, nofun⟩
    exact minted.staysGood plain fresh works (more calm _) (by rw [clock]; exact start)
      (by rw [clock]; omega)
  | true =>
    obtain ⟨c, w', run, awaits, sent⟩ :=
      Service.exists_signIn_challenge (a := a) working found whole second mailed named
    have ended : w.after a (es ++ [.request (.signIn email password)]) = w' := by
      rw [World.after_snoc, (run.map Answer.signedIn).step (r := .signIn email password) (a := a)]
    rw [recorded.lifetime, ← ended] at awaits
    refine ⟨_, w', run, nofun, fun _ => ⟨c, rfl, sent, ?_⟩⟩
    intro fs calm' other early start' finish' email' attempt code address attempted digits
    have since := awaits.after fresh works (more calm _) (known.append _) calm' other
    have earlier := List.forall_mem_append.2 ⟨more calm (.signIn email password), calm'⟩
    have named' : (Request.verify email' (some attempt) code).Verifies u.email c := by
      refine ⟨address, ?_, digits⟩
      rw [AttemptId.read, Field.read, Option.bind_some, AttemptId.ofText?_of_toLower attempted]
    obtain ⟨t, v, verified, minted⟩ := Service.exists_verify (works.after earlier) plain start'
      finish' (since _ (Int.le_refl _) early) named'
    refine ⟨t, v, verified, ?_⟩
    have clock : (w.after a (es ++ [.request (.signIn email password)] ++ fs ++
        [.request (.verify email' (some attempt) code)])).wallSeconds =
        (w.after a (es ++ [.request (.signIn email password)] ++ fs)).wallSeconds := by
      rw [World.after_snoc, (step_request a _ _).wallSeconds]
    exact minted.staysGood plain fresh works (more earlier _) (by rw [clock]; exact start')
      (by rw [clock]; omega)

end Admission

/-! ## A sample -/

/-- A user of the sample, with or without a second factor. -/
def User.sample (secondFactor : Bool) : User :=
  ⟨⟨"a@x.com", by decide⟩, ⟨"password", by decide⟩, secondFactor⟩

/-- The user of the sample signs up. -/
def sampleSignUp (secondFactor : Bool) : List Event :=
  [.request (.signUp (some "a@x.com") (some "password") secondFactor)]

/-- The user of the sample signs up calmly. -/
lemma sampleSignUp_calm (secondFactor : Bool) :
    ∀ ev ∈ sampleSignUp secondFactor, Event.Calm ev :=
  List.forall_mem_singleton.2 trivial

/-- Every store of the sample works. -/
lemma World.sample_works : World.sample.Works :=
  ⟨fun _ => rfl, rfl, rfl, by decide, by decide⟩

/-- After signing up with a second factor, the user of the sample gets in. -/
theorem signIn_admits_sample :
    Key.IsPlain Authority.sample.secret ∧ 0 ≤ Authority.sample.seconds ∧ World.sample.Fresh ∧
      World.sample.Works ∧ (∀ ev ∈ sampleSignUp true, Event.Calm ev) ∧
      Registered .sample .sample (sampleSignUp true) (.sample true) ∧
      (User.sample true).password.isWhole = true ∧
      (Request.signIn (some "a@x.com") (some "password")).SignsIn (User.sample true).email
        (User.sample true).password ∧
      (∀ m, ((World.sample.after .sample (sampleSignUp true)).mailer.answer m).1 = .ok ()) ∧
      hasDate (World.sample.after .sample (sampleSignUp true)).wallSeconds = true ∧
      hasDate ((World.sample.after .sample (sampleSignUp true)).wallSeconds +
        Authority.sample.seconds) = true ∧
      GetsIn .sample .sample (sampleSignUp true) (.sample true) (some "a@x.com")
        (some "password") := by
  have known : Registered .sample .sample (sampleSignUp true) (.sample true) :=
    ⟨[], some "a@x.com", some "password", [], _, rfl, rfl⟩
  have named : (Request.signIn (some "a@x.com") (some "password")).SignsIn (User.sample true).email
      (User.sample true).password := ⟨rfl, rfl⟩
  have mailed (m : Message) :
      ((World.sample.after .sample (sampleSignUp true)).mailer.answer m).1 = .ok () := rfl
  exact ⟨Authority.sample_isPlain, by decide, sample_fresh, sample_works, sampleSignUp_calm true,
    known, rfl, named, mailed, rfl, rfl, signIn_admits Authority.sample_isPlain (by decide)
      sample_fresh sample_works (sampleSignUp_calm true) known rfl named mailed rfl rfl⟩

/-- The world of the sample, in which every id that is drawn is the same. -/
def World.repeating : World := { World.sample with ids := ⟨fun _ => 0, 0⟩ }

/-- Where ids repeat, a user who signs in, signs out and signs in again within a second is handed
the token that was signed out, and it is refused. -/
theorem signIn_signedOut_token : ∃ t w', World.repeating.Fresh ∧ World.repeating.Works ∧
    (∀ ev ∈ sampleSignUp false ++ [.request (.signIn (some "a@x.com") (some "password")),
      .request (.signOut (some t))], Event.Calm ev) ∧
    Registered .sample .repeating (sampleSignUp false) (.sample false) ∧
    Ends (Service.signIn .sample (some "a@x.com") (some "password"))
      (World.repeating.after .sample
        (sampleSignUp false ++ [.request (.signIn (some "a@x.com") (some "password")),
          .request (.signOut (some t))])) (.ok (.session t)) w' ∧
    ∀ e v, ¬ Ends (Service.checkToken .sample t) w' (.ok e) v := by
  have named : (Request.signIn (some "a@x.com") (some "password")).SignsIn
      (User.sample false).email (User.sample false).password := ⟨rfl, rfl⟩
  have fresh : World.repeating.Fresh :=
    ⟨sample_fresh.nobody, sample_fresh.unbanned, sample_fresh.unchallenged⟩
  have works : World.repeating.Works := ⟨fun _ => rfl, rfl, rfl, by decide, by decide⟩
  have known : Registered .sample .repeating (sampleSignUp false) (.sample false) :=
    ⟨[], some "a@x.com", some "password", [], _, rfl, rfl⟩
  have calm (t : String) : ∀ ev ∈ sampleSignUp false ++
      [.request (.signIn (some "a@x.com") (some "password")), .request (.signOut (some t))],
      Event.Calm ev :=
    List.forall_mem_append.2 ⟨sampleSignUp_calm false,
      List.forall_mem_cons.2 ⟨trivial, List.forall_mem_singleton.2 trivial⟩⟩
  -- the user signs in for the first time
  let w₁ := World.repeating.after .sample (sampleSignUp false)
  have up : SameBut [.accounts] World.repeating w₁ :=
    step_request .sample .repeating (.signUp (some "a@x.com") (some "password") false)
  have works₁ := works.of_sameBut up
  have recorded : Recorded .sample .repeating (sampleSignUp false) :=
    recorded_after fresh _ fun ev mem => (sampleSignUp_calm false ev mem).steady
  have found : w₁.accounts.read (User.sample false).email = .ok (.sample false) :=
    recorded.found works₁ known
  obtain ⟨t, w₂, run, _, v, same, opened⟩ := Service.exists_signIn_session works₁
    Authority.sample_isPlain found rfl rfl named rfl rfl
  have kept := Service.signIn_keeps .sample _ _ run
  obtain ⟨minted, drawn⟩ := Authority.issue_inv opened
  obtain ⟨id, told⟩ := minted.sealedClaims Authority.sample_isPlain
  -- and signs out, which bans the token for ten minutes
  have order : w₂.InOrder :=
    kept.inOrder (up.inOrder ⟨by decide, rfl, rfl, by decide, by decide⟩)
  have works₂ := works₁.of_sameBut kept
  have clock : w₂.wallSeconds = 1700000000 := kept.wallSeconds
  have clock' : v.wallSeconds = 1700000000 := same.wallSeconds
  rw [clock'] at minted told
  have free : w₂.bannedAt w₂.uptime t = false := by
    rw [kept.uptime, kept.bans (by simp) _ (Int.le_refl _), up.uptime,
      up.bans (by simp) _ (Int.le_refl _)]
    exact fresh.unbanned _ t
  obtain ⟨w₃, ended⟩ := exists_signOut told minted (by rw [clock]; rfl) (by rw [clock]; decide) free
    order (works₂.calls _) (works₂.calls _)
  have out := Service.signOut_keeps _ _ ended
  obtain ⟨_, _, _, _, _, banned⟩ := signOut_minted minted ended
  have events : World.repeating.after .sample (sampleSignUp false ++
      [.request (.signIn (some "a@x.com") (some "password")), .request (.signOut (some t))]) =
        w₃ := by
    rw [after_append, World.after, List.foldl_cons, List.foldl_cons, List.foldl_nil,
      (run.map Answer.signedIn).step (r := .signIn (some "a@x.com") (some "password")),
      (ended.map fun _ => Answer.signedOut).step (r := .signOut (some t))]
  -- the same id is drawn in the same second, so the same token is minted
  have clock₃ : w₃.wallSeconds = 1700000000 := out.wallSeconds.trans clock
  have found₃ : w₃.accounts.read (User.sample false).email = .ok (.sample false) := by
    rw [out.accounts (by simp), kept.accounts (by simp)]
    exact found
  obtain ⟨t', w₄, run', _, v', same', opened'⟩ := Service.exists_signIn_session
    (works₂.of_sameBut out) Authority.sample_isPlain found₃ rfl rfl named (by rw [clock₃]; rfl)
    (by rw [clock₃]; rfl)
  have again : t' = t := by
    have draw : v.ids.draw v.ids.used = 0 := by
      rw [(same.draws (by simp)).1, (up.draws (by simp)).1]
      rfl
    have draw' : v'.ids.draw v'.ids.used = 0 := by
      have draws : v'.ids = v.idDrawn.ids := by
        rw [(same'.draws (by simp)).1, (out.draws (by simp)).1, drawn]
      rw [draws, World.idDrawn, (same.draws (by simp)).1, (up.draws (by simp)).1]
      rfl
    have second : v'.wallSeconds = v.wallSeconds := by
      rw [same'.wallSeconds, clock₃, clock']
    exact Authority.issue_repeats opened opened' second (draw'.trans draw.symm)
  subst again
  refine ⟨t', w₄, fresh, works, calm t', known, by rw [events]; exact run', fun e u checked => ?_⟩
  obtain ⟨_, unbanned⟩ := Service.checkToken_inv checked
  have kept' := Service.signIn_keeps .sample _ _ run'
  rw [kept'.uptime, kept'.bans (by simp) _ (Int.le_refl _), out.uptime,
    banned.before _ (Int.le_refl _) (by rw [banEnd, clock]; omega)] at unbanned
  cases unbanned

end SignIn
