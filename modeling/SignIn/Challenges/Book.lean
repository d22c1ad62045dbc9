import SignIn.Credential.AttemptId
import SignIn.Credential.Email
import SignIn.Credential.OneTimeCode
import SignIn.Keyed
import SignIn.Number.Deadline

/-!
# Books

The challenge store in memory: for each address at most one pending challenge, the pair of an
attempt id and a code, with the deadline at which it ends. Issuing replaces, taking compares and
deletes in one step. All challenges last the same number of seconds.
-/

namespace SignIn

/-- What a sign-in with a second factor waits for. -/
structure Challenge where
  attempt : AttemptId
  code : OneTimeCode
  deriving DecidableEq

structure Pending where
  challenge : Challenge
  deadline : Deadline
  deriving DecidableEq

structure Book where
  seconds : Int
  pending : Keyed Email Pending
  deriving DecidableEq

namespace Book

def empty (seconds : Int) : Book := ⟨seconds, []⟩

def issue (b : Book) (now : Int) (e : Email) (c : Challenge) : Book :=
  { b with pending := Keyed.put e ⟨c, .after now (.whole b.seconds)⟩ b.pending }

def consume (b : Book) (e : Email) : Book :=
  { b with pending := Keyed.drop e b.pending }

/-- The book without an address's challenge if its end has passed. -/
def sweep (b : Book) (now : Int) (e : Email) : Book :=
  match Keyed.find? e b.pending with
  | some p => if p.deadline.hasCome now then b.consume e else b
  | none => b

/-- The live challenge of an address, and the book after the look-up. -/
def peek (b : Book) (now : Int) (e : Email) : Option Challenge × Book :=
  match Keyed.find? e b.pending with
  | none => (none, b)
  | some p =>
    if p.deadline.hasCome now then (none, b.sweep now e) else (some p.challenge, b)

/-- Whether the live challenge of an address is the given one, and the book after taking it. -/
def take (b : Book) (now : Int) (e : Email) (c : Challenge) : Bool × Book :=
  match Keyed.find? e b.pending with
  | none => (false, b)
  | some p =>
    if p.deadline.hasCome now then (false, b.consume e)
    else if p.challenge = c then (true, b.consume e)
    else (false, b)

end Book

end SignIn
