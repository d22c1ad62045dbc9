import SignIn.Text.Blank
import SignIn.Text.Digit

/-!
# Integers in free text

The liberal reading of an integer: white space around it, a sign, the decimal digits of any script,
and single underscores between digits. A text of more than 4300 digits is refused.
-/

namespace SignIn.Numeral

def digitLimit : Nat := 4300

/-- The values of a run of digits with single underscores between them. -/
def digits? (value? : Char → Option Nat) : List Char → Option (List Nat)
  | [] => none
  | c :: rest => do
    let d ← value? c
    match rest with
    | [] => return [d]
    | '_' :: rest => return d :: (← digits? value? rest)
    | rest => return d :: (← digits? value? rest)

/-- A sign and what follows it; `true` is a minus. -/
def sign : List Char → Bool × List Char
  | '-' :: rest => (true, rest)
  | '+' :: rest => (false, rest)
  | cs => (false, cs)

def signed (negative : Bool) (n : Nat) : Int :=
  if negative then -(n : Int) else n

def integer? (cs : List Char) : Option Int := do
  let (negative, rest) := sign (Text.trim Text.isWhite cs)
  let ds ← digits? Text.decimal? rest
  if digitLimit < ds.length then none else return signed negative (Text.ofDecimalDigits ds)

end SignIn.Numeral
