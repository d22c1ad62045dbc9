import SignIn.Accounts.Directory
import SignIn.Accounts.Table
import SignIn.Bans.Register
import SignIn.Challenges.Book
import SignIn.Fault
import SignIn.Journal
import SignIn.Keyspace
import SignIn.Mail.Provider

/-!
# The world

Everything that the service works against: two clocks, the sources of random ids and codes, the
stores, the mailer, the calls that are out of order, and the journal. `Call` is the type of a
collaborator's operation: it changes the world and ends with a value or a fault.
-/

namespace SignIn

/-- A source of random values: the n-th draw, and how many draws there have been. -/
structure Draws (α : Type) where
  draw : Nat → α
  used : Nat

inductive Accounts
  | directory (d : Directory)
  | table (t : Table)

inductive Bans
  | register (r : Register)
  | keyspace

/-- Where challenges are kept. On the server they live for the given number of seconds. -/
inductive Challenges
  | book (b : Book)
  | keyspace (seconds : Int)

/-- Who takes messages: nobody, a recorder, or a provider. -/
inductive Mailer
  | dummy
  | recorder (sent : List Message) (closes : Nat)
  | provider (p : Provider)

/-- The calls of collaborators that can be out of order. -/
inductive Target
  | lookUp
  | add
  | check
  | issue
  | take
  | isBanned
  | revoke
  | send
  deriving DecidableEq, Repr

/-- Everything that the service works against. The clocks are in milliseconds. -/
structure World where
  wall : Int
  uptime : Int
  ids : Draws (BitVec 128)
  codes : Draws (Fin 1000000)
  accounts : Accounts
  bans : Bans
  challenges : Challenges
  keyspace : Keyspace
  mailer : Mailer
  outages : Target → Option Fault
  journal : List Entry

abbrev Call (α : Type) := ExceptT Fault (StateM World) α

namespace World

def wallSeconds (w : World) : Int := w.wall.fdiv 1000

def advance (w : World) (wall uptime : Int) : World :=
  { w with wall := w.wall + wall, uptime := w.uptime + uptime }

def log (level : Level) (source text : String) : StateM World Unit :=
  modify fun w => { w with journal := w.journal ++ [⟨level, source, text⟩] }

def drawId : StateM World (BitVec 128) := fun w =>
  (w.ids.draw w.ids.used, { w with ids := { w.ids with used := w.ids.used + 1 } })

def drawCode : StateM World (Fin 1000000) := fun w =>
  (w.codes.draw w.codes.used, { w with codes := { w.codes with used := w.codes.used + 1 } })

/-- A call that fails if it is out of order. -/
def guarded {α : Type} (t : Target) (call : Call α) : Call α := do
  match (← get).outages t with
  | some f => throw f
  | none => call

/-- Sends a command to the key-value server; the answer is the server's state before it. -/
def command (c : Command) : ExceptT ServerFault (StateM World) Keyspace := fun w =>
  let (r, k) := w.keyspace.send w.uptime c
  (r, { w with keyspace := k })

end World

end SignIn
