import SignIn.Number.Shortest

/-!
# Lengths of time and deadlines

Instants are exact milliseconds. A length of time is in seconds, whole or in binary floating point.
A deadline is when a length of time that starts at some instant is over, together with the instant
that a clock shows for it which counts seconds in binary floating point. Whole seconds are added
exactly to an instant, and all that is said of deadlines is said of these exact sums. A clock rounds
the sum: ten minutes after 16.036 seconds it goes on one rounding longer than till 616.036 seconds.
The two are the same where the instant is some eighths of a second and the sum stays below 2^40
seconds; anywhere else they may part by what is rounded. A whole length that such a clock cannot
hold at all is refused where the clock is used.
-/

namespace SignIn

inductive Seconds
  | whole (n : Int)
  | real (x : Binary64)
  deriving DecidableEq, Repr

namespace Seconds

def text : Seconds → String
  | whole n => toString n
  | real x => FloatText.plain.text x

/-- The whole seconds of a length, if it has an end. -/
def truncate? : Seconds → Option Int
  | whole n => some n
  | real x => x.truncate?

/-- A length that is raised to a second if it is shorter. -/
def atLeastOne : Seconds → Seconds
  | whole n => whole (max 1 n)
  | real x => if x.exceeds 1 then real x else whole 1

/-- The least number of seconds that is too large for a clock. -/
def limit : Nat := (1 <<< 1024) - (1 <<< 970)

/-- Whether a clock can hold a length. -/
def fits : Seconds → Bool
  | whole n => n.natAbs < limit
  | real _ => true

def toReal : Seconds → Binary64
  | whole n => .ofInt n
  | real x => x

end Seconds

/-- When something is over, exactly, and the instant that a clock shows for it. -/
structure Deadline where
  ends : Int
  shown : Int
  deriving DecidableEq, Repr

namespace Deadline

def zero : Deadline := ⟨0, 0⟩

/-- What a clock in binary floating point says when a length is over. -/
def reading (now : Int) (length : Seconds) : Binary64 :=
  (Binary64.ofRatio (now < 0) now.natAbs 1000).add length.toReal

/-- When a length that starts now is over. Whole seconds are added exactly. -/
def after (now : Int) (length : Seconds) : Deadline :=
  let clock := reading now length
  let shown := ((clock.scaleBy 1000).truncate?).getD 0
  match length with
  | .whole n => ⟨now + 1000 * n, shown⟩
  | .real _ => ⟨(clock.ceilingOf 1000).getD shown, shown⟩

def later (a b : Deadline) : Deadline := ⟨max a.ends b.ends, max a.shown b.shown⟩

def hasCome (d : Deadline) (now : Int) : Bool := d.ends ≤ now

end Deadline

end SignIn
