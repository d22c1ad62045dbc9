/-!
# Binary floating point

The numbers of the 64-bit binary format as exact values: a sign, a mantissa and a power of two, or
an infinity, or not a number. A ratio is rounded to the nearest number, a tie to the even mantissa.
-/

namespace SignIn

/-- A number of the 64-bit binary format. A finite number is its mantissa times a power of two. -/
inductive Binary64
  | nan
  | infinite (negative : Bool)
  | finite (negative : Bool) (mantissa : Nat) (exponent : Int)
  deriving DecidableEq, Repr

namespace Binary64

def minExponent : Int := -1074

def maxExponent : Int := 971

def zero (negative : Bool) : Binary64 := .finite negative 0 minExponent

/-- A quotient rounded to the nearest natural number, a tie to the even one. -/
def roundQuotient (num den : Nat) : Nat :=
  let q := num / den
  let r := num % den
  if den < 2 * r ∨ (2 * r = den ∧ q % 2 = 1) then q + 1 else q

/-- Numerator and denominator of a ratio divided by a power of two. -/
def scale (num den : Nat) (exponent : Int) : Nat × Nat :=
  if 0 ≤ exponent then (num, den <<< exponent.toNat) else (num <<< (-exponent).toNat, den)

/-- The exponent at which a positive ratio has a mantissa of 53 bits, or the smallest exponent. -/
def exponentOf (num den : Nat) : Int :=
  let e : Int := (num.log2 : Int) - den.log2 - 53
  let (n, d) := scale num den e
  max minExponent (if 1 <<< 53 ≤ n / d then e + 1 else e)

def ofRatio (negative : Bool) (num den : Nat) : Binary64 :=
  if num = 0 then zero negative
  else
    let e := exponentOf num den
    let (n, d) := scale num den e
    let m := roundQuotient n d
    let (m, e) := if m = 1 <<< 53 then (1 <<< 52, e + 1) else (m, e)
    if maxExponent < e then .infinite negative else .finite negative m e

def decimalLength (n : Nat) : Nat :=
  (Nat.toDigits 10 n).length

/-- The number nearest to `digits * 10 ^ exponent`. Exponents far outside the range are decided
without computing the power. -/
def ofDecimal (negative : Bool) (digits : Nat) (exponent : Int) : Binary64 :=
  if digits = 0 then zero negative
  else
    let magnitude := decimalLength digits + exponent
    if 310 < magnitude then .infinite negative
    else if magnitude < -330 then zero negative
    else if 0 ≤ exponent then ofRatio negative (digits * Nat.pow 10 exponent.toNat) 1
    else ofRatio negative digits (Nat.pow 10 (-exponent).toNat)

def ofInt (n : Int) : Binary64 :=
  ofRatio (n < 0) n.natAbs 1

def isInfinite : Binary64 → Bool
  | .infinite _ => true
  | _ => false

/-- The integer next to a finite number in the direction of zero. -/
def truncate? : Binary64 → Option Int
  | .finite negative m e =>
    let size : Nat := if 0 ≤ e then m <<< e.toNat else m >>> (-e).toNat
    some (if negative then -(size : Int) else size)
  | _ => none

/-- The integer that a finite number is, if it is one. -/
def toInt? : Binary64 → Option Int
  | .finite negative m e =>
    let whole : Bool := 0 ≤ e || m % (1 <<< (-e).toNat) == 0
    if whole then truncate? (.finite negative m e) else none
  | _ => none

def isPositive : Binary64 → Bool
  | .finite negative m _ => !negative && 0 < m
  | .infinite negative => !negative
  | .nan => false

/-- A mantissa times a power of two as a ratio. -/
def ratio (m : Nat) (e : Int) : Nat × Nat :=
  if 0 ≤ e then (m <<< e.toNat, 1) else (m, 1 <<< (-e).toNat)

def exceeds (k : Nat) : Binary64 → Bool
  | .finite negative m e =>
    let (n, d) := ratio m e
    !negative && k * d < n
  | .infinite negative => !negative
  | .nan => false

/-- A finite number times a natural number, rounded. -/
def scaleBy (k : Nat) : Binary64 → Binary64
  | .finite negative m e =>
    let (n, d) := ratio m e
    ofRatio negative (n * k) d
  | x => x

/-- The least integer that is not below a finite number times a natural number. -/
def ceilingOf (k : Nat) : Binary64 → Option Int
  | .finite negative m e =>
    let (n, d) := ratio m e
    some (if negative then -((n * k / d : Nat) : Int) else ((n * k + d - 1) / d : Nat))
  | _ => none

def add : Binary64 → Binary64 → Binary64
  | .finite s m e, .finite t n f =>
    let unit := min e f
    let left : Int := m <<< (e - unit).toNat
    let right : Int := n <<< (f - unit).toNat
    let sum := (if s then -left else left) + (if t then -right else right)
    if sum = 0 then zero (s && t)
    else
      let (num, den) := ratio sum.natAbs unit
      ofRatio (sum < 0) num den
  | .finite .., x => x
  | x, .finite .. => x
  | .infinite s, .infinite t => if s = t then .infinite s else .nan
  | _, _ => .nan

end Binary64

end SignIn
