import SignIn.Proofs.Origin

/-!
# Failures

What a request leaves behind that fails. Nothing is undone when a later step of a request fails, so
it matters which steps come after a step that changes a store: only a sign-in has one that can fail,
the mailing of the code after its challenge was stored. A request with a flawed field is refused
before anything is asked or drawn, in whatever world it is made.
-/

namespace SignIn

open World

/-! ## Flawed requests -/

/-- The flaw of what was read, if it has one. -/
def flawOf? {α : Type} : Except Flaw α → Option Flaw
  | .ok _ => none
  | .error flaw => some flaw

/-- The first flaw of a request's fields, in the order in which they are declared. -/
def Request.flaw? : Request → Option Flaw
  | signUp email password _ =>
    [flawOf? (Email.read email), flawOf? (Password.read password)].findSome? id
  | signIn email password =>
    [flawOf? (Email.read email), flawOf? (Password.read password)].findSome? id
  | verify email attemptId code =>
    [flawOf? (Email.read email), flawOf? (AttemptId.read attemptId),
      flawOf? (OneTimeCode.read code)].findSome? id
  | signOut _ | checkToken _ => none

section Flawed

variable {a : Authority} {w w' : World} {flaw : Flaw}

/-- What is done first with a field is reading it: its flaw refuses the whole, and a value leaves
the flaw to the fields after it. -/
lemma Service.refused_of_field {α β : Type} {x : Except Flaw α} {f : α → Op β}
    {rest : List (Option Flaw)} (first : (flawOf? x :: rest).findSome? id = some flaw)
    (later : ∀ v, x = .ok v → rest.findSome? id = some flaw →
      Ends (f v) w (.error (.refused (.ofFlaw flaw))) w) :
    Ends (field x >>= f) w (.error (.refused (.ofFlaw flaw))) w := by
  cases x with
  | ok v => exact later v rfl first
  | error g =>
    obtain rfl : g = flaw := Option.some.inj first
    exact Ends.bind_error f rfl

/-- A request with a flawed field is refused with the first flaw, and nothing happens. -/
lemma Request.refused_of_flaw {r : Request} (flawed : r.flaw? = some flaw) :
    Ends (r.op a) w (.error (.refused (.ofFlaw flaw))) w := by
  cases r with
  | signUp email password secondFactor =>
    refine Ends.map Answer.user (Service.refused_of_field flawed fun e _ flawed => ?_)
    exact Service.refused_of_field flawed fun p _ none => nomatch none
  | signIn email password =>
    refine Ends.map Answer.signedIn (Service.refused_of_field flawed fun e _ flawed => ?_)
    exact Service.refused_of_field flawed fun p _ none => nomatch none
  | verify email attemptId code =>
    refine Ends.map Answer.session (Service.refused_of_field flawed fun e _ flawed => ?_)
    refine Service.refused_of_field flawed fun id _ flawed => ?_
    exact Service.refused_of_field flawed fun c _ none => nomatch none
  | signOut token => cases flawed
  | checkToken token => cases flawed

end Flawed

/-! ## Orphaned challenges -/

/-- What a sign-in leaves that set a challenge and could not mail its code: the user who is found
under the address has the pair that was drawn as challenge, and no other challenge, account or ban
has changed. -/
structure Orphans (email : Field) (password : SecretField) (w : World) (u : User) (c : Challenge)
    (w' : World) : Prop where
  set : Service.Sets email password w u c
  found : ∃ e, Email.read email = .ok e ∧ w.accounts.read e = .ok u
  drawn : c = Service.nextChallenge w
  /-- The challenge was stored, and then the message could not be sent. -/
  lost : ∃ v f, SameBut [.challenges, .draws] w v ∧
    Ends (World.guarded .send (Mailer.send (Service.codeMessage u.email c.code))) v (.error f) w'
  replaced : w.ChallengeSet w' u.email c (w.uptime + 1000 * w.challenges.lifetime)
  rest : SameBut [.challenges, .draws, .mailer] w w'

/-- What a request leaves that fails: nothing that is told has changed. But a sign-in may have drawn
values, and if it set a challenge, this stays set and belongs to the address that was named. -/
def Request.Leaves (w w' : World) : Request → Prop
  | signIn email password =>
    (∃ u c, Orphans email password w u c w' ∧
        ((∀ e v, w.accounts.read e = .ok v → v.email = e) → Email.read email = .ok u.email)) ∨
      (∀ u c, ¬ Service.Sets email password w u c) ∧ SameBut [.draws] w w'
  | signUp .. | verify .. | signOut _ | checkToken _ => SameBut [] w w'

section Failing

variable {a : Authority} {w w' : World} {g : Failure}

/-- Whether a session opens depends on the wall clock and the ids only. -/
lemma Authority.issues_of_sameBut {parts : List Part} {v : World}
    (issues : ∀ e, ∃ t w', Ends (a.issue e) w (.ok t) w') (same : SameBut parts w v)
    (undrawn : .draws ∉ parts) (e : Email) : ∃ t v', Ends (a.issue e) v (.ok t) v' := by
  obtain ⟨t, w', issued⟩ := issues e
  obtain ⟨start, finish, mint, _⟩ := Authority.issue_ok_iff.1 issued
  rw [← same.wallSeconds, ← (same.draws undrawn).1] at mint
  rw [← same.wallSeconds] at start finish
  exact ⟨t, _, Authority.issue_ok_iff.2 ⟨start, finish, mint, rfl⟩⟩

/-- The challenge to come depends on the draws only. -/
lemma Service.nextChallenge_eq {parts : List Part} {v : World} (same : SameBut parts w v)
    (undrawn : .draws ∉ parts) : nextChallenge v = nextChallenge w := by
  obtain ⟨ids, codes⟩ := same.draws undrawn
  rw [nextChallenge, nextChallenge, ids, codes]

/-- A sign-up that fails leaves everything as it was. -/
lemma Service.signUp_error {email : Field} {password : SecretField} {secondFactor : Bool}
    (h : Ends (signUp email password secondFactor) w (.error g) w') : SameBut [] w w' := by
  have kept := signUp_keeps email password secondFactor h
  obtain ⟨_, _, _, _, told, _⟩ | ⟨_, unchanged⟩ := signUp_inv h
  · cases told
  · exact
      { kept with
        accounts := fun _ => unchanged
        bans := fun _ => kept.bans (by simp)
        challenges := fun _ => kept.challenges (by simp)
        draws := fun _ => kept.draws (by simp)
        mailer := fun _ => kept.mailer (by simp) }

/-- A sign-in that fails leaves the challenge that it set, whose code could not be mailed, or has
set none. -/
lemma Service.signIn_error {email : Field} {password : SecretField}
    (issues : ∀ e, ∃ t w', Ends (a.issue e) w (.ok t) w')
    (h : Ends (signIn a email password) w (.error g) w') :
    (∃ u c, Orphans email password w u c w') ∨
      (∀ u c, ¬ Sets email password w u c) ∧ SameBut [.draws] w w' := by
  have changes := signIn_keeps a email password h
  obtain ⟨_, same, rejected⟩ | ⟨e, p, u, v, address, word, checked, second⟩ := signIn_inv h
  · refine .inr ⟨?_, same.mono (List.nil_subset _)⟩
    rintro u c ⟨e, p, v, _, address, word, checked, _⟩
    exact rejected e p u v address word checked
  · have kept := credentialsOf_keeps e p checked
    obtain ⟨factor, s, set, told⟩ | ⟨_, s, opened, told⟩ := second
    · obtain ⟨v', stored, mailed⟩ | ⟨f, stored, _⟩ := challenge_inv set
      · have sets : Sets email password w u (nextChallenge v) :=
          ⟨e, p, v, v', address, word, checked, factor, rfl, stored⟩
        obtain ⟨placed, _⟩ := stores_inv stored
        obtain rfl | ⟨f, unsent⟩ := mailing_inv mailed
        · cases told
        obtain ⟨u', c, sets', replaced⟩ | ⟨never, _⟩ := signIn_challenges h
        · obtain ⟨rfl, rfl⟩ := sets.unique sets'
          exact .inl ⟨u, _,
            { set := sets
              found := ⟨e, address, (credentialsOf_inv checked).1⟩
              drawn := nextChallenge_eq kept List.not_mem_nil
              lost := ⟨v', f, (kept.mono (List.nil_subset _)).trans placed, unsent⟩
              replaced := replaced
              rest := changes }⟩
        · exact absurd sets (never u _)
      -- the store answers once, so there is no other run in which it took the challenge
      · refine .inr ⟨?_, ?_⟩
        · rintro u' c ⟨e', p', v', _, address', word', checked', _, _, stored'⟩
          rw [address] at address'
          rw [word] at word'
          cases address'
          cases word'
          obtain ⟨same, rfl⟩ := checked.unique checked'
          cases same
          cases (stored.unique stored').1
        · obtain ⟨_, ⟨told, _⟩ | ⟨_, same⟩⟩ := stores_inv stored
          · cases told
          · exact (kept.mono (List.nil_subset _)).trans same
    · have noted := SameBut.noting [] v .info source ("Login succeeded for " ++ e.redacted)
      obtain ⟨t, v', opens⟩ :=
        Authority.issues_of_sameBut issues (kept.trans noted) List.not_mem_nil u.email
      obtain ⟨rfl, _⟩ := opened.unique opens
      cases told

/-- A verification that fails has redeemed no challenge, if a session can be opened. -/
lemma Service.verify_error {email attemptId code : Field}
    (issues : ∀ e, ∃ t w', Ends (a.issue e) w (.ok t) w')
    (h : Ends (verify a email attemptId code) w (.error g) w') : SameBut [] w w' := by
  obtain ⟨e, v, redeemed, s, opened, told⟩ | ⟨_, same, _⟩ := verify_inv h
  · obtain ⟨_, taken, _⟩ := redeems_inv redeemed
    have noted := SameBut.noting [.challenges] v .info source
      ("2FA verification succeeded for " ++ e.redacted)
    obtain ⟨t, v', opens⟩ := Authority.issues_of_sameBut issues (taken.trans noted) (by simp) e
    obtain ⟨rfl, _⟩ := opened.unique opens
    cases told
  · exact same

/-- Where sessions can be opened, a request that fails leaves everything as it was, whichever of its
calls failed, but for a challenge whose message was lost. A request with flawed fields is refused
with the first flaw in every world, and asks for nothing and draws nothing. -/
theorem failure_leaves (a : Authority) (w : World)
    (issues : ∀ e, ∃ t w', Ends (a.issue e) w (.ok t) w') (r : Request) :
    (∀ g w', Ends (r.op a) w (.error g) w' → r.Leaves w w') ∧
      ∀ flaw, r.flaw? = some flaw → ∃ because, ∀ v,
        Ends (r.op a) v (.error (.refused ⟨.invalidInput, flaw.message, because⟩)) v := by
  refine ⟨fun g w' failed => ?_, fun flaw flawed => ⟨_, fun v => Request.refused_of_flaw flawed⟩⟩
  cases r with
  | signUp email password secondFactor =>
    obtain ⟨s, run, told⟩ := failed.map_inv
    cases s with
    | ok u => cases told
    | error f => exact Service.signUp_error run
  | signIn email password =>
    obtain ⟨s, run, told⟩ := failed.map_inv
    cases s with
    | ok u => cases told
    | error f =>
      obtain ⟨u, c, orphans⟩ | none := Service.signIn_error issues run
      · refine .inl ⟨u, c, orphans, fun own => ?_⟩
        obtain ⟨e, address, found⟩ := orphans.found
        rw [own e u found]
        exact address
      · exact .inr none
  | verify email attemptId code =>
    obtain ⟨s, run, told⟩ := failed.map_inv
    cases s with
    | ok t => cases told
    | error f => exact Service.verify_error issues run
  | signOut token =>
    obtain ⟨s, run, told⟩ := failed.map_inv
    cases s with
    | ok u => cases told
    | error f =>
      obtain ⟨_, _, told, _⟩ | ⟨_, same⟩ := Service.signOut_inv run
      · cases told
      · exact same
  | checkToken token =>
    obtain ⟨s, run, _⟩ := failed.map_inv
    exact Service.checkToken_keeps a token run

end Failing

/-! ## A sample -/

/-- A user signs up with a second factor, and then messages are lost. -/
def lostMailRun : List Event :=
  [.request (.signUp (some "a@x.com") (some "password") true),
    .outages fun t => if t = .send then some ⟨.mail, none, none⟩ else none]

/-- With messages lost, a sign-in of the sample leaves what failures leave, and a field without a
password is refused in every world. -/
theorem failure_leaves_sample :
    (∀ e, ∃ t w', Ends (Authority.sample.issue e) (World.sample.after .sample lostMailRun)
      (.ok t) w') ∧
    (∃ g w', Ends (Request.op .sample (.signIn (some "a@x.com") (some "password")))
        (World.sample.after .sample lostMailRun) (.error g) w' ∧
      Request.Leaves (World.sample.after .sample lostMailRun) w'
        (.signIn (some "a@x.com") (some "password"))) ∧
    ∃ because, ∀ v, Ends (Request.op .sample (.signIn (some "a@x.com") none)) v
      (.error (.refused ⟨.invalidInput, Flaw.password.message, because⟩)) v := by
  have issues : ∀ e, ∃ t w', Ends (Authority.sample.issue e)
      (World.sample.after .sample lostMailRun) (.ok t) w' := fun e =>
    (Authority.exists_issue Authority.sample_isPlain e rfl rfl).imp fun _ issued => ⟨_, issued⟩
  have run : ∃ g w', Ends (Request.op .sample (.signIn (some "a@x.com") (some "password")))
      (World.sample.after .sample lostMailRun) (.error g) w' := ⟨_, _, rfl⟩
  obtain ⟨g, w', failed⟩ := run
  exact ⟨issues,
    ⟨g, w', failed, (failure_leaves .sample _ issues _).1 g w' failed⟩,
    (failure_leaves .sample _ issues (.signIn (some "a@x.com") none)).2 .password rfl⟩

end SignIn
