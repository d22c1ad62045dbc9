import SignIn.Number.Binary64

/-!
# The shortest text of a number

A finite number is written with the fewest decimal digits that read back as the number, and of
those with the nearest. `FloatText` holds what a format decides on top of that: from where on an
exponent is written, and the words for the numbers that have no digits.
-/

namespace SignIn

namespace Binary64

/-- The exponent of the first significant decimal digit of a positive number. -/
def decimalExponent (m : Nat) (e : Int) : Int :=
  let scaled := m * Nat.pow 10 400
  let size := if 0 ≤ e then scaled <<< e.toNat else scaled >>> (-e).toNat
  (decimalLength size : Int) - 1 - 400

/-- The two neighbours of a positive number among the multiples of `10 ^ unit`, as multiples, and
whether the upper one is nearer (an exact tie goes to the even one). -/
def neighbours (m : Nat) (e unit : Int) : Nat × Nat × Bool :=
  let (n, d) : Nat × Nat := if 0 ≤ e then (m <<< e.toNat, 1) else (m, 1 <<< (-e).toNat)
  let (n, d) : Nat × Nat :=
    if 0 ≤ unit then (n, d * Nat.pow 10 unit.toNat) else (n * Nat.pow 10 (-unit).toNat, d)
  let low := n / d
  (low, low + 1, low < roundQuotient n d)

/-- A decimal that reads back as the number, on the grid of `count` digits. -/
def onGrid? (m : Nat) (e : Int) (count : Nat) : Option (Nat × Int) :=
  let unit := decimalExponent m e - (count - 1 : Nat)
  let (low, high, upper) := neighbours m e unit
  let good := fun n => ofDecimal false n unit == .finite false m e
  let (first, second) := if upper then (high, low) else (low, high)
  if good first then some (first, unit) else if good second then some (second, unit) else none

/-- The shortest decimal of a positive number: digits and the exponent of the last one. -/
def shortest (m : Nat) (e : Int) : Nat × Int :=
  ((List.range 17).findSome? fun k => onGrid? m e (k + 1)).getD (m, e)

end Binary64

/-- What a format decides about the text of a number. -/
structure FloatText where
  /-- The least exponent of the first digit that is written without an exponent. -/
  low : Int
  /-- The least exponent of the first digit above `low` that is written with an exponent. -/
  high : Int
  /-- The text of a number that is not a number. -/
  nan : String
  infinity : String

namespace FloatText

/-- The format of log lines and displayed values: positional from 0.0001 to below 10^16. -/
def plain : FloatText := ⟨-4, 16, "nan", "inf"⟩

/-- The format of JSON documents, which differs in the words. -/
def json : FloatText := ⟨-4, 16, "NaN", "Infinity"⟩

/-- The digits of a decimal without zeros at its end. -/
def significant (digits : Nat) : List Char :=
  let ds := ((Nat.toDigits 10 digits).reverse.dropWhile (· == '0')).reverse
  if ds.isEmpty then ['0'] else ds

/-- An exponent with its sign and at least two digits. -/
def exponent (p : Int) : List Char :=
  let ds := Nat.toDigits 10 p.natAbs
  (if p < 0 then '-' else '+') :: (if ds.length < 2 then '0' :: ds else ds)

/-- A decimal whose first digit has exponent `p`. -/
def layout (f : FloatText) (ds : List Char) (p : Int) : List Char :=
  if p < f.low ∨ f.high ≤ p then
    let mantissa := match ds with
      | d :: rest@(_ :: _) => d :: '.' :: rest
      | ds => ds
    mantissa ++ 'e' :: exponent p
  else if p < 0 then '0' :: '.' :: List.replicate (-p - 1).toNat '0' ++ ds
  else
    let whole := p.toNat + 1
    if ds.length ≤ whole then ds ++ List.replicate (whole - ds.length) '0' ++ ['.', '0']
    else ds.take whole ++ '.' :: ds.drop whole

def text (f : FloatText) (x : Binary64) : String :=
  let signed := fun (negative : Bool) (s : String) => if negative then "-" ++ s else s
  match x with
  | .nan => f.nan
  | .infinite negative => signed negative f.infinity
  | .finite negative m e =>
    if m = 0 then signed negative "0.0"
    else
      let (digits, unit) := Binary64.shortest m e
      let p := (Binary64.decimalLength digits : Int) - 1 + unit
      signed negative (String.ofList (f.layout (significant digits) p))

end FloatText

end SignIn
