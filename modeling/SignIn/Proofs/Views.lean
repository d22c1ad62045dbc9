import SignIn.Proofs.Calls
import SignIn.Proofs.Payloads

/-!
# What the stores tell

The accounts, bans and challenges of a world as they can be told from outside, whichever store keeps
them: who is found under an address, whether a token is banned at an instant, and whether a pair is
the challenge of an address at an instant. `SameBut` says that nothing else than the given parts of
the world has changed, `BanSet`, `ChallengeSet` and `ChallengeTaken` say what has changed where
something has.
-/

namespace SignIn

/-! ## Keyspaces -/

namespace Keyspace

/-- The server after a command that it carried out. -/
def carriedOut (k : Keyspace) (now : Int) (c : Command) : Keyspace :=
  ({ k with sent := k.sent ++ [c] } : Keyspace).apply now c

/-- What a key shows depends on the entries alone. -/
lemma find?_congr {k k' : Keyspace} (same : k'.entries = k.entries) (now : Int) (key : String) :
    k'.find? now key = k.find? now key := by
  rw [find?, find?, same]

/-- A command that is not carried out leaves the entries, and one that is finds them as they
were. -/
lemma send_inv (k : Keyspace) (now : Int) (c : Command) :
    (k.fault? c = none ∧ k.send now c = (.ok k, k.carriedOut now c)) ∨
    ∃ f, k.fault? c = some f ∧ k.send now c = (.error f, { k with sent := k.sent ++ [c] }) := by
  rw [send]
  cases k.fault? c with
  | none => exact .inl ⟨rfl, rfl⟩
  | some f => exact .inr ⟨f, rfl, rfl⟩

/-- Carrying a command out leaves the outages of the server as they were. -/
lemma outages_carriedOut (k : Keyspace) (now : Int) (c : Command) :
    (k.carriedOut now c).outages = k.outages := by
  cases c with
  | removeIf key expected =>
    rw [carriedOut, apply]
    split
    · rfl
    · rfl
  | put | read | probe | remove => rfl

/-- A server in order carries out every command that does not put a value for no time. -/
lemma fault?_eq_none {k : Keyspace} (served : k.outages = []) {c : Command}
    (lasting : match c with | .put _ _ seconds => 0 < seconds | _ => True) :
    k.fault? c = none := by
  cases c with
  | put key value seconds =>
    simp only [fault?, served, Keyed.find?]
    exact if_neg (Int.not_le.2 lasting)
  | read | probe | remove | removeIf => simp only [fault?, served, Keyed.find?]

/-- After a value is put, its key shows it until its seconds are over, and every other key shows
what it did. -/
lemma find?_put (k : Keyspace) (now now' : Int) (key key' value : String) (seconds : Int) :
    (k.carriedOut now (.put key value seconds)).find? now' key' =
      if key = key' then if now' < now + 1000 * seconds then some value else none
      else k.find? now' key' := by
  simp only [carriedOut, apply, find?, Keyed.find?_put]
  by_cases same : key = key'
  · simp only [same, if_true, Stored.isLive, decide_eq_true_eq]
  · simp only [same, if_false]

/-- After a removal, the key shows nothing if it showed what was expected, and every other key shows
what it did. -/
lemma find?_removeIf (k : Keyspace) (now now' : Int) (key key' expected : String) :
    (k.carriedOut now (.removeIf key expected)).find? now' key' =
      if key = key' ∧ k.find? now key = some expected then none else k.find? now' key' := by
  rw [carriedOut, apply]
  have noted : ({ k with sent := k.sent ++ [.removeIf key expected] } : Keyspace).find? now key =
      k.find? now key := rfl
  rw [noted]
  by_cases there : k.find? now key = some expected
  · rw [if_pos there]
    simp only [there, and_true]
    rw [find?, Keyed.find?_drop]
    by_cases same : key = key'
    · simp only [same, if_true]
    · simp only [same, if_false]
      rfl
  · rw [if_neg there, if_neg fun both => there both.2]
    exact find?_congr rfl now' key'

end Keyspace

/-- Addresses with one text are one address. -/
lemma Email.text_inj {e f : Email} : e.text = f.text ↔ e = f := by
  constructor
  · intro same
    cases e
    cases f
    cases same
    rfl
  · intro same
    rw [same]

/-- Two tokens have one ban key only if they are one token. -/
lemma Bans.key_inj {t u : String} : Bans.key t = Bans.key u ↔ t = u := by
  constructor
  · intro same
    have chars := congrArg String.toList same
    rw [Bans.key, Bans.key, String.toList_append, String.toList_append] at chars
    exact String.toList_inj.1 (List.append_cancel_left chars)
  · intro same
    rw [same]

/-- Two addresses have one challenge key only if they are one address. -/
lemma Challenges.key_inj {e f : Email} : Challenges.key e = Challenges.key f ↔ e = f := by
  constructor
  · intro same
    have chars := congrArg String.toList same
    rw [Challenges.key, Challenges.key, String.toList_append, String.toList_append] at chars
    exact Email.text_inj.1 (String.toList_inj.1 (List.append_cancel_left chars))
  · intro same
    rw [same]

/-- Bans and challenges never share a key. -/
lemma Bans.key_ne (t : String) (e : Email) : Bans.key t ≠ Challenges.key e := by
  intro same
  have chars := congrArg String.toList same
  rw [Bans.key, Challenges.key, String.toList_append, String.toList_append] at chars
  exact absurd (List.cons.inj chars).1 (by decide)

/-! ## Views -/

/-- Who is told of by a row, if there is one. -/
def Row.told : Option Row → Except Fault User
  | none => .error (.account .unknown)
  | some r =>
    match r.user? with
    | some u => .ok u
    | none => .error (.account .unavailable (some .flaw))

/-- Who is found under an address. -/
def Accounts.read : Accounts → Email → Except Fault User
  | .directory d, e =>
    match d.find? e with
    | some u => .ok u
    | none => .error (.account .unknown)
  | .table t, e =>
    match t.find? e.text with
    | .ok r => Row.told r
    | .error f => .error (.account .unavailable (some f.cause))

/-- Whether a password can be kept: a torn one is in no table. -/
def Accounts.canKeep : Accounts → Password → Bool
  | .directory _, _ => true
  | .table _, p => p.isWhole

/-- A whole password can be kept anywhere. -/
lemma Accounts.canKeep_of_whole (a : Accounts) {p : Password} (whole : p.isWhole = true) :
    a.canKeep p = true := by
  cases a with
  | directory _ => rfl
  | table _ => exact whole

/-- Half of a surrogate pair in front of eight letters. -/
def Password.torn : Password := ⟨.torn ⟨0xD800 :: List.replicate 8 0x61, by decide⟩, by decide⟩

/-- Whether there is something to keep accounts in. -/
def Accounts.arePresent : Accounts → Bool
  | .directory _ => true
  | .table t => t.rows.isSome

/-- How many seconds a challenge lives. -/
def Challenges.lifetime : Challenges → Int
  | .book b => b.seconds
  | .keyspace seconds => seconds

namespace World

/-- Whether a token is banned at an instant. -/
def bannedAt (w : World) (now : Int) (t : String) : Bool :=
  match w.bans with
  | .register r => (r.contains now t).1
  | .keyspace => (w.keyspace.find? now (Bans.key t)).isSome

/-- Whether a pair is the live challenge of an address at an instant. -/
def pendingAt (w : World) (now : Int) (e : Email) (c : Challenge) : Bool :=
  match w.challenges with
  | .book b => (b.take now e c).1
  | .keyspace _ => w.keyspace.find? now (Challenges.key e) == some c.payload

/-- A world in which no store fails by itself. -/
structure InOrder (w : World) : Prop where
  started : 0 ≤ w.uptime
  present : w.accounts.arePresent = true
  served : w.keyspace.outages = []
  lasting : 0 < w.challenges.lifetime
  holdable : (Seconds.whole w.challenges.lifetime).fits = true

/-- A world in which challenges can be kept: the server answers if there is one, and a challenge
lives for a time that every clock can hold. -/
structure KeepsChallenges (w : World) : Prop where
  served : w.keyspace.outages = []
  lasting : 0 < w.challenges.lifetime
  holdable : (Seconds.whole w.challenges.lifetime).fits = true

/-- Stores that are in order keep challenges. -/
lemma InOrder.keepsChallenges {w : World} (h : w.InOrder) : w.KeepsChallenges :=
  ⟨h.served, h.lasting, h.holdable⟩

/-- The parts of a world that a call may change. -/
inductive Part
  | accounts
  | bans
  | challenges
  | draws
  | mailer

/-- The second world tells the same as the first from now on, up to the given parts and the
journal. -/
structure SameBut (parts : List Part) (w w' : World) : Prop where
  wall : w'.wall = w.wall
  uptime : w'.uptime = w.uptime
  outages : w'.outages = w.outages
  present : w'.accounts.arePresent = w.accounts.arePresent
  keeping : w'.accounts.canKeep = w.accounts.canKeep
  served : w'.keyspace.outages = w.keyspace.outages
  lifetime : w'.challenges.lifetime = w.challenges.lifetime
  accounts : .accounts ∉ parts → w'.accounts = w.accounts
  bans : .bans ∉ parts → ∀ now, w.uptime ≤ now → ∀ t, w'.bannedAt now t = w.bannedAt now t
  challenges : .challenges ∉ parts →
    ∀ now, w.uptime ≤ now → ∀ e c, w'.pendingAt now e c = w.pendingAt now e c
  draws : .draws ∉ parts → w'.ids = w.ids ∧ w'.codes = w.codes
  mailer : .mailer ∉ parts → w'.mailer = w.mailer

/-- The second world is the first with a token banned till some instant. A ban that the token had
before is forgotten only if it was over. -/
structure BanSet (w w' : World) (t : String) (till : Int) : Prop where
  before : ∀ now, w.uptime ≤ now → now < till → w'.bannedAt now t = true
  after : 0 ≤ w.uptime → w.bannedAt w.uptime t = false →
    ∀ now, w.uptime ≤ now → till ≤ now → w'.bannedAt now t = false
  others : ∀ now, w.uptime ≤ now → ∀ u, u ≠ t → w'.bannedAt now u = w.bannedAt now u

/-- The second world is the first with a challenge set for an address, till some instant. -/
def ChallengeSet (w w' : World) (e : Email) (c : Challenge) (till : Int) : Prop :=
  ∀ now, w.uptime ≤ now → ∀ f d,
    w'.pendingAt now f d = if e = f then decide (c = d ∧ now < till) else w.pendingAt now f d

/-- The second world is the first without a challenge for an address. -/
def ChallengeTaken (w w' : World) (e : Email) : Prop :=
  ∀ now, w.uptime ≤ now → ∀ f d,
    w'.pendingAt now f d = if e = f then false else w.pendingAt now f d

namespace SameBut

variable {parts more : List Part} {w w' w'' : World}

/-- A world is the same as itself but for any parts. -/
lemma refl (parts : List Part) (w : World) : SameBut parts w w where
  wall := rfl
  uptime := rfl
  outages := rfl
  present := rfl
  keeping := rfl
  served := rfl
  lifetime := rfl
  accounts _ := rfl
  bans _ _ _ _ := rfl
  challenges _ _ _ _ _ := rfl
  draws _ := ⟨rfl, rfl⟩
  mailer _ := rfl

/-- What leaves all but some parts alone twice leaves all but these parts alone. -/
lemma trans (h : SameBut parts w w') (k : SameBut parts w' w'') : SameBut parts w w'' where
  wall := k.wall.trans h.wall
  uptime := k.uptime.trans h.uptime
  outages := k.outages.trans h.outages
  present := k.present.trans h.present
  keeping := k.keeping.trans h.keeping
  served := k.served.trans h.served
  lifetime := k.lifetime.trans h.lifetime
  accounts out := (k.accounts out).trans (h.accounts out)
  bans out now le t := by
    rw [k.bans out now (by rw [h.uptime]; exact le), h.bans out now le]
  challenges out now le e c := by
    rw [k.challenges out now (by rw [h.uptime]; exact le), h.challenges out now le]
  draws out :=
    ⟨(k.draws out).1.trans (h.draws out).1, (k.draws out).2.trans (h.draws out).2⟩
  mailer out := (k.mailer out).trans (h.mailer out)

/-- More parts may be left out. -/
lemma mono (h : SameBut parts w w') (sub : parts ⊆ more) : SameBut more w w' where
  wall := h.wall
  uptime := h.uptime
  outages := h.outages
  present := h.present
  keeping := h.keeping
  served := h.served
  lifetime := h.lifetime
  accounts out := h.accounts fun mem => out (sub mem)
  bans out := h.bans fun mem => out (sub mem)
  challenges out := h.challenges fun mem => out (sub mem)
  draws out := h.draws fun mem => out (sub mem)
  mailer out := h.mailer fun mem => out (sub mem)

/-- Lines of the journal are no part of the rest. -/
lemma adding (parts : List Part) (w : World) (lines : List Entry) :
    SameBut parts w (w.adding lines) :=
  { refl parts w with }

/-- A line of the journal is no part of the rest. -/
lemma noting (parts : List Part) (w : World) (level : Level) (source text : String) :
    SameBut parts w (w.noting level source text) :=
  adding parts w _

/-- The wall clock shows the same. -/
lemma wallSeconds (h : SameBut parts w w') : w'.wallSeconds = w.wallSeconds := by
  rw [World.wallSeconds, h.wall]
  rfl

/-- Stores that are in order stay in order. -/
lemma inOrder (h : SameBut parts w w') (order : w.InOrder) : w'.InOrder where
  started := by rw [h.uptime]; exact order.started
  present := by rw [h.present]; exact order.present
  served := by rw [h.served]; exact order.served
  lasting := by rw [h.lifetime]; exact order.lasting
  holdable := by rw [h.lifetime]; exact order.holdable

/-- Stores that keep challenges still keep them. -/
lemma keepsChallenges (h : SameBut parts w w') (k : w.KeepsChallenges) : w'.KeepsChallenges where
  served := by rw [h.served]; exact k.served
  lasting := by rw [h.lifetime]; exact k.lasting
  holdable := by rw [h.lifetime]; exact k.holdable

/-- Nothing but the server's entries has changed, of which only those of the given parts tell
anything else. -/
lemma of_keyspace {k : Keyspace} (served : k.outages = w.keyspace.outages)
    (bans : .bans ∉ parts → ∀ now t,
      k.find? now (Bans.key t) = w.keyspace.find? now (Bans.key t))
    (challenges : .challenges ∉ parts → ∀ now e,
      k.find? now (Challenges.key e) = w.keyspace.find? now (Challenges.key e)) :
    SameBut parts w { w with keyspace := k } :=
  { refl parts w with
    served := served
    bans := fun out now _ t => by
      simp only [bannedAt]
      rw [bans out]
    challenges := fun out now _ e c => by
      simp only [pendingAt]
      rw [challenges out] }

end SameBut

/-- What is told before a token is banned may be told anew. -/
lemma BanSet.of_sameBut {w v w' : World} {t : String} {till : Int} (same : SameBut [] w v)
    (set : v.BanSet w' t till) : w.BanSet w' t till where
  before now le early := set.before now (by rw [same.uptime]; exact le) early
  after started free now le late := by
    have free' : v.bannedAt v.uptime t = false := by
      rw [same.uptime, same.bans List.not_mem_nil w.uptime (Int.le_refl _)]
      exact free
    exact set.after (by rw [same.uptime]; exact started) free' now
      (by rw [same.uptime]; exact le) late
  others now le u other := by
    rw [set.others now (by rw [same.uptime]; exact le) u other,
      same.bans List.not_mem_nil now le]

end World

end SignIn
