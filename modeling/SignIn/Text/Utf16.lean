import SignIn.Text.Utf8

/-!
# UTF-16

Code points as one or two units of sixteen bits. Joining reads a high and a low surrogate that
follow each other as one code point and lets an unpaired surrogate stand for itself. No text has an
unpaired surrogate here: where code points must become a text it is replaced, and what is then said
of the text is not said of the code points.
-/

namespace SignIn.Text.Utf16

/-- Whether a unit is the first half of a pair. -/
def isHigh (n : Nat) : Bool := 0xD800 ≤ n && n < 0xDC00

/-- Whether a unit is the second half of a pair. -/
def isLow (n : Nat) : Bool := 0xDC00 ≤ n && n < 0xE000

def unitsOf (n : Nat) : List Nat :=
  if n < 0x10000 then [n]
  else [0xD800 + (n - 0x10000) / 0x400, 0xDC00 + (n - 0x10000) % 0x400]

def join : List Nat → List Nat
  | high :: low :: rest =>
    if isHigh high && isLow low then
      (0x10000 + (high - 0xD800) * 0x400 + (low - 0xDC00)) :: join rest
    else high :: join (low :: rest)
  | ns => ns

/-- The character of a code point, an unpaired surrogate replaced. -/
def charOf (n : Nat) : Char :=
  if Utf8.isScalar n then Char.ofNat n else Char.ofNat 0xFFFD

/-- The text of code points, unpaired surrogates replaced. -/
def replaced (ns : List Nat) : String :=
  String.ofList (ns.map charOf)

end SignIn.Text.Utf16
