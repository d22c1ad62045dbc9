import SignIn.Credential.Email
import SignIn.Fault
import SignIn.Json.Basic
import SignIn.Number.Numeral

/-!
# Claims

What the payload of a token claims, and when its claims hold: the instants are numbers, the token is
neither too young nor expired, it names no audience and no other token, and its subject and its own
id are texts. A number may be written as a text, and a value that cannot be a number at all is a
fault of another kind than a claim that does not hold.
-/

namespace SignIn.Token

inductive IntegerFault
  | unreadable
  | infinite
  | wrongType
  deriving DecidableEq, Repr

/-- The integer that a value stands for: fractions are cut off, and the truth values are 0 and 1. -/
def integerOf : Json → Except IntegerFault Int
  | .int n => .ok n
  | .bool b => .ok (if b then 1 else 0)
  | .real x =>
    match x.truncate? with
    | some n => .ok n
    | none => .error (if x.isInfinite then .infinite else .unreadable)
  | .str s =>
    match Numeral.integer? s.toList with
    | some n => .ok n
    | none => .error .unreadable
  | .torn _ => .error .unreadable
  | .null | .arr _ | .obj _ => .error .wrongType

/-! ## Dates -/

/-- The least instant that has a date, in seconds. -/
def firstSecond : Int := -62135596800

/-- The least instant after all that have a date, in seconds. -/
def endOfDates : Int := 253402300800

def hasDate (seconds : Int) : Bool := firstSecond ≤ seconds && seconds < endOfDates

/-- The least instant whose year is counted by 32 bits, in seconds. -/
def firstOfCalendar : Int := -67768040609740800

/-- The least instant after all whose year is counted by 32 bits, in seconds. -/
def endOfCalendar : Int := 67768036191676800

/-- An instant in seconds that is told from a date; one without a date is a fault. -/
def dated (seconds : Int) : Except Fault Int :=
  if hasDate seconds then .ok seconds
  else if firstOfCalendar ≤ seconds ∧ seconds < endOfCalendar then .error (.foreign .undated)
  else if -(1 <<< 63) ≤ seconds ∧ seconds < 1 <<< 63 then .error (.foreign .beyondCalendar)
  else .error .overflow

namespace Claims

abbrev Members := List (String × Json)

/-- A token whose claims do not hold. -/
def refused : Fault := .token .malformed (some .badClaim)

def expired : Fault := .token .expired (some .pastEnd)

def instant (v : Json) : Except Fault Int :=
  match integerOf v with
  | .ok n => .ok n
  | .error .unreadable => .error refused
  | .error .infinite => .error .overflow
  | .error .wrongType => .error .wrongType

/-- Checks a claim, if it is there. -/
def check (name : String) (ms : Members) (test : Json → Except Fault Unit) : Except Fault Unit :=
  match Keyed.find? name ms with
  | some v => test v
  | none => .ok ()

def demand (holds : Bool) (f : Fault) : Except Fault Unit :=
  if holds then .ok () else .error f

/-- Checks all claims at an instant in seconds. The clock is not read before there is a claim to
compare it with. -/
def checkAll (now : Int) (ms : Members) : Except Fault Unit := do
  check "iat" ms fun v => do
    let _ ← instant v
  check "nbf" ms fun v => do
    let n ← instant v
    demand (n ≤ (← dated now)) refused
  check "exp" ms fun v => do
    let n ← instant v
    demand ((← dated now) ≤ n) expired
  check "aud" ms fun _ => .error refused
  check "sub" ms fun v => demand v.text?.isSome refused
  check "jti" ms fun v => demand v.text?.isSome refused
  check "at_hash" ms fun _ => .error refused

/-- The address that claims name; a token without an end names nobody. -/
def subject (ms : Members) : Except Fault Email :=
  if (Keyed.find? "exp" ms).isNone then .error (.token .malformed)
  else
    match Email.read ((Keyed.find? "sub" ms).bind Json.text?) with
    | .ok e => .ok e
    | .error _ => .error (.token .malformed (some .flaw))

end Claims

end SignIn.Token
