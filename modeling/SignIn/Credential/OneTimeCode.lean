import SignIn.Credential.Flaw
import SignIn.Text.Digit

/-!
# One-time codes

Six decimal digits. Only the ASCII digits are read, so a code has one text.
-/

namespace SignIn

structure OneTimeCode where
  value : Fin 1000000
  deriving DecidableEq

namespace OneTimeCode

/-- The last `width` decimal digits of a number, zeros included. -/
def decimals : Nat → Nat → List Char
  | 0, _ => []
  | width + 1, n => decimals width (n / 10) ++ [Text.digitChar (n % 10)]

def ofDigits? (cs : List Char) : Option Nat := do
  let ds ← cs.mapM Text.asciiDecimal?
  if ds.length = 6 then return Text.ofDecimalDigits ds else none

def ofText? (s : String) : Option OneTimeCode := do
  let n ← ofDigits? s.toList
  if h : n < 1000000 then return ⟨⟨n, h⟩⟩ else none

def read (raw : Field) : Except Flaw OneTimeCode :=
  Field.read .code ofText? raw

def text (c : OneTimeCode) : String :=
  String.ofList (decimals 6 c.value)

/-- A code as a displayed value: without its digits. -/
def display : String := "TwoFACode()"

end OneTimeCode

end SignIn
