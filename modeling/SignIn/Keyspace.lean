import SignIn.Fault
import SignIn.Keyed

/-!
# Keyspaces

A key-value server whose entries may expire. It is told one command at a time and notes each
command before it can fail. An entry is gone once its expiry has come. Instants are milliseconds,
the lifetime that a command gives is in seconds and must be positive.
-/

namespace SignIn

/-- The commands of a key-value server. `removeIf` compares and deletes in one step. -/
inductive Command
  | put (key value : String) (seconds : Int)
  | read (key : String)
  | probe (key : String)
  | remove (key : String)
  | removeIf (key expected : String)
  deriving DecidableEq, Repr

def Command.word : Command → String
  | put .. => "SET"
  | read _ => "GET"
  | probe _ => "EXISTS"
  | remove _ => "DEL"
  | removeIf .. => "EVAL"

/-- What a server fails with. -/
inductive ServerFault
  | badLifetime
  /-- Anything else, by its name and with a text. -/
  | reported (name text : String)
  deriving DecidableEq, Repr

namespace ServerFault

/-- What a server says about a fault. -/
def text : ServerFault → String
  | badLifetime => "invalid expire time in 'set' command"
  | reported _ text => text

def cause : ServerFault → Cause
  | badLifetime => .badLifetime
  | reported name _ => .reported name

end ServerFault

/-- A value with the instant at which it expires, if it does. -/
structure Stored where
  value : String
  expiry : Option Int
  deriving DecidableEq, Repr

/-- Whether an entry is not yet gone. -/
def Stored.isLive (s : Stored) (now : Int) : Bool :=
  match s.expiry with
  | some e => now < e
  | none => true

/-- A key-value server: its entries, the commands it was sent, the commands that fail, and how
often its connection was closed. -/
structure Keyspace where
  entries : Keyed String Stored
  sent : List Command
  outages : Keyed String ServerFault
  closes : Nat
  deriving DecidableEq

namespace Keyspace

def empty : Keyspace := ⟨[], [], [], 0⟩

def find? (k : Keyspace) (now : Int) (key : String) : Option String :=
  match Keyed.find? key k.entries with
  | some s => if s.isLive now then some s.value else none
  | none => none

def live (k : Keyspace) (now : Int) : Keyed String Stored :=
  k.entries.filter fun (_, s) => s.isLive now

/-- Why a command fails, if it does. -/
def fault? (k : Keyspace) (c : Command) : Option ServerFault :=
  match Keyed.find? c.word k.outages with
  | some f => some f
  | none =>
    match c with
    | .put _ _ seconds =>
      if seconds ≤ 0 then some .badLifetime else none
    | _ => none

/-- The server after a command that succeeds. -/
def apply (k : Keyspace) (now : Int) : Command → Keyspace
  | .put key value seconds =>
    { k with entries := Keyed.put key ⟨value, some (now + 1000 * seconds)⟩ k.entries }
  | .read _ | .probe _ => k
  | .remove key => { k with entries := Keyed.drop key k.entries }
  | .removeIf key expected =>
    if k.find? now key = some expected then { k with entries := Keyed.drop key k.entries } else k

/-- The server's answer to a command, which is its state before it, and the state after it. -/
def send (k : Keyspace) (now : Int) (c : Command) : Except ServerFault Keyspace × Keyspace :=
  let noted := { k with sent := k.sent ++ [c] }
  match k.fault? c with
  | some f => (.error f, noted)
  | none => (.ok k, noted.apply now c)

/-- The server with an entry that never expires, put there by others. -/
def plant (k : Keyspace) (key value : String) : Keyspace :=
  { k with entries := Keyed.put key ⟨value, none⟩ k.entries }

end Keyspace

end SignIn
