import SignIn.Proofs.Requests
import SignIn.Wiring

/-!
# Runs

A run is a list of events: requests to the service, movements of the clocks, and collaborators that
go out of order or come back. Nothing else changes the world. What an event does to the views is
said by one lemma for each kind; what holds along runs is an induction over their events.
-/

namespace SignIn

open World

/-- What a caller asks for. -/
inductive Request
  | signUp (email : Field) (password : SecretField) (secondFactor : Bool)
  | signIn (email : Field) (password : SecretField)
  | verify (email attemptId code : Field)
  | signOut (token : Option String)
  | checkToken (token : String)

/-- What a caller is told if nothing fails. -/
inductive Answer
  | user (u : User)
  | signedIn (s : SignedIn)
  | session (token : String)
  | signedOut
  | belongsTo (e : Email)
  deriving DecidableEq

/-- What happens to the service and its world. -/
inductive Event
  | request (r : Request)
  /-- The clocks move. -/
  | advance (wall uptime : Int)
  /-- From now on these calls of collaborators are out of order. -/
  | outages (o : Target → Option Fault)
  /-- From now on the server fails at these commands. -/
  | server (o : Keyed String ServerFault)
  | close

/-- The operation that answers a request. -/
def Request.op (a : Authority) : Request → Op Answer
  | signUp email password secondFactor => .user <$> Service.signUp email password secondFactor
  | signIn email password => .signedIn <$> Service.signIn a email password
  | verify email attemptId code => .session <$> Service.verify a email attemptId code
  | signOut token => (fun _ => .signedOut) <$> Service.signOut a token
  | checkToken token => .belongsTo <$> Service.checkToken a token

/-- The session token that an answer hands out. -/
def Answer.token? : Answer → Option String
  | signedIn (.session t) => some t
  | session t => some t
  | user _ | signedIn (.challenge _) | signedOut | belongsTo _ => none

/-- The parts of the world that a request may change. -/
def Request.parts : Request → List Part
  | signUp .. => [.accounts]
  | signIn .. => [.challenges, .draws, .mailer]
  | verify .. => [.challenges, .draws]
  | signOut _ => [.bans]
  | checkToken _ => []

namespace Event

/-- The monotonic clock does not go back. -/
def Steady : Event → Prop
  | advance _ uptime => 0 ≤ uptime
  | _ => True

/-- The two clocks move forward together. -/
def KeepsPace : Event → Prop
  | advance wall uptime => wall = uptime ∧ 0 ≤ uptime
  | _ => True

/-- Clocks that keep pace do not go back. -/
lemma KeepsPace.steady {ev : Event} (h : ev.KeepsPace) : ev.Steady := by
  cases ev with
  | advance wall uptime => exact h.2
  | request | outages | server | close => trivial

end Event

namespace World

def step (a : Authority) (w : World) : Event → World
  | .request r => ((r.op a).run w).2
  | .advance wall uptime => w.advance wall uptime
  | .outages o => { w with outages := o }
  | .server o => { w with keyspace := { w.keyspace with outages := o } }
  | .close => Service.close w

def after (a : Authority) (w : World) (es : List Event) : World :=
  es.foldl (step a) w

variable {a : Authority} {w w' : World}

/-- After two runs the world is as after the second, started after the first. -/
lemma after_append (es fs : List Event) : w.after a (es ++ fs) = (w.after a es).after a fs :=
  List.foldl_append ..

/-- After one more event the world has taken one more step. -/
lemma after_snoc (es : List Event) (ev : Event) :
    w.after a (es ++ [ev]) = (w.after a es).step a ev :=
  after_append es [ev]

/-- A world in which nobody is registered, no token is banned and no challenge is pending. -/
structure Fresh (w : World) : Prop where
  nobody : ∀ e u, w.accounts.read e ≠ .ok u
  unbanned : ∀ now t, w.bannedAt now t = false
  unchallenged : ∀ now e c, w.pendingAt now e c = false

/-- The world with new stores as the settings describe them, over a server without entries. -/
def equipped (w : World) (s : Settings) (accounts : Accounts) : World :=
  { w with
    accounts := accounts
    bans := s.banStore
    challenges := s.challengeStore
    keyspace := .empty }

/-- In a new account store nobody is known. -/
lemma read_accountStore {s : Settings} {accounts : Accounts}
    (there : s.accountStore = .ok accounts) :
    accounts.arePresent = true ∧ ∀ e, accounts.read e = .error (.account .unknown) := by
  rw [Settings.accountStore] at there
  cases backend : s.accounts with
  | memory =>
    rw [backend] at there
    obtain rfl := Except.ok.inj there
    exact ⟨rfl, fun _ => rfl⟩
  | sql =>
    simp only [backend] at there
    cases defect : Settings.DatabaseUrl.defect? s.databaseUrl with
    | some d =>
      rw [defect] at there
      cases there
    | none =>
      rw [defect] at there
      obtain rfl := Except.ok.inj there
      exact ⟨rfl, fun _ => rfl⟩

/-- The world of the sample is fresh. -/
lemma sample_fresh : World.sample.Fresh where
  nobody _ _ := nofun
  unbanned _ _ := rfl
  unchallenged _ _ _ := rfl

end World

/-! ## Steps -/

section Steps

variable {a : Authority} {w w' : World}

/-- A function of what an operation returns changes what the operation changes. -/
lemma Keeps.map {ε α β : Type} {parts : List Part} {f : α → β}
    {x : ExceptT ε (StateM World) α} (h : Keeps parts x) : Keeps parts (f <$> x) := by
  intro w r w' run
  obtain ⟨s, run, _⟩ := run.map_inv
  exact h run

/-- A request steps to the world in which its operation ends. -/
lemma Ends.step {r : Request} {x : Except Failure Answer} (h : Ends (r.op a) w x w') :
    w.step a (.request r) = w' := by
  rw [World.step, show (r.op a).run w = (x, w') from h]

/-- A request changes only its parts of the world. -/
lemma Request.keeps (a : Authority) (r : Request) : Keeps r.parts (r.op a) := by
  cases r with
  | signUp email password secondFactor =>
    exact .map (Service.signUp_keeps email password secondFactor)
  | signIn email password => exact .map (Service.signIn_keeps a email password)
  | verify email attemptId code => exact .map (Service.verify_keeps a email attemptId code)
  | signOut token => exact .map (Service.signOut_keeps a token)
  | checkToken token => exact .map (Service.checkToken_keeps a token)

/-- A request changes its parts of the world. -/
lemma World.step_request (a : Authority) (w : World) (r : Request) :
    SameBut r.parts w (w.step a (.request r)) := by
  obtain ⟨x, v, run⟩ := Ends.total (r.op a) w
  rw [run.step]
  exact r.keeps a run

/-- What happens besides requests leaves bans and challenges, and nobody is registered by it. -/
lemma World.step_quiet (a : Authority) (w : World) {ev : Event} (quiet : ∀ r, ev ≠ .request r) :
    (∀ now t, (w.step a ev).bannedAt now t = w.bannedAt now t) ∧
      (∀ now e c, (w.step a ev).pendingAt now e c = w.pendingAt now e c) ∧
      (w.step a ev).challenges = w.challenges ∧
      ∀ e u, (w.step a ev).accounts.read e = .ok u → w.accounts.read e = .ok u := by
  cases ev with
  | request r => exact absurd rfl (quiet r)
  | advance | outages | server =>
    exact ⟨fun _ _ => rfl, fun _ _ _ => rfl, rfl, fun _ _ found => found⟩
  | close =>
    obtain ⟨n, closed⟩ := Service.close_eq w
    rw [step, closed]
    exact ⟨fun _ _ => rfl, fun _ _ _ => rfl, rfl, fun _ _ => Service.read_close⟩

/-- The clocks after an event that is no movement of them. -/
lemma World.step_clocks (a : Authority) (w : World) {ev : Event}
    (still : ∀ wall uptime, ev ≠ .advance wall uptime) :
    (w.step a ev).wall = w.wall ∧ (w.step a ev).uptime = w.uptime := by
  cases ev with
  | request r => exact ⟨(step_request a w r).wall, (step_request a w r).uptime⟩
  | advance wall uptime => exact absurd rfl (still wall uptime)
  | outages | server => exact ⟨rfl, rfl⟩
  | close =>
    obtain ⟨n, closed⟩ := Service.close_eq w
    rw [step, closed]
    exact ⟨rfl, rfl⟩

/-- The monotonic clock of a steady run does not go back. -/
lemma World.uptime_le_step (a : Authority) (w : World) {ev : Event} (steady : ev.Steady) :
    w.uptime ≤ (w.step a ev).uptime := by
  cases ev with
  | advance wall uptime =>
    have forward : 0 ≤ uptime := steady
    show w.uptime ≤ w.uptime + uptime
    omega
  | request | outages | server | close => exact Int.le_of_eq (step_clocks a w (by nofun)).2.symm

/-- Nothing but signing a token out changes when it is banned. -/
lemma World.step_bannedAt (a : Authority) (w : World) {ev : Event} (t : String)
    (other : ev ≠ .request (.signOut (some t))) {now : Int} (le : w.uptime ≤ now) :
    (w.step a ev).bannedAt now t = w.bannedAt now t := by
  cases ev with
  | request r =>
    cases r with
    | signOut token =>
      obtain ⟨x, v, run⟩ := Ends.total ((Request.signOut token).op a) w
      rw [run.step]
      obtain ⟨s, run, _⟩ := run.map_inv
      obtain ⟨u, rfl, _, _, _, n, _, banned⟩ | ⟨_, same⟩ := Service.signOut_inv run
      · exact banned.others now le t fun same => other (by rw [same])
      · exact same.bans List.not_mem_nil now le t
    | signUp | signIn | verify | checkToken =>
      exact (step_request a w _).bans (by simp [Request.parts]) now le t
  | advance | outages | server | close => exact (step_quiet a w (by nofun)).1 now t

end Steps

end SignIn
