import SignIn.Json.Coerce
import SignIn.Number.Decimal
import SignIn.Settings.Basic

/-!
# Values of settings

What is taken as a truth value, an integer, a number, a text, a choice or a list of texts. Numbers
are read from texts too: an integer with a sign, leading zeros, single underscores and a fraction of
zeros; a number in decimal or scientific notation, or one of the words for infinity and for no
number. A number in binary floating point is an integer if it has no fraction and is below 2^63.
-/

namespace SignIn.Settings

/-- What is wrong with a value. -/
inductive Wrong
  | truthKind
  | truthText
  | textKind
  | integerKind
  | integerText
  | integerSize
  | fraction
  | notFinite
  | numberKind
  | numberText
  | notPositive
  | choice (words : List String)
  | listKind
  deriving DecidableEq, Repr

namespace Wrong

def name : Wrong → String
  | truthKind => "bool_type"
  | truthText => "bool_parsing"
  | textKind => "string_type"
  | integerKind => "int_type"
  | integerText => "int_parsing"
  | integerSize => "int_parsing_size"
  | fraction => "int_from_float"
  | notFinite => "finite_number"
  | numberKind => "float_type"
  | numberText => "float_parsing"
  | notPositive => "greater_than"
  | choice _ => "literal_error"
  | listKind => "list_type"

def message : Wrong → String
  | truthKind => "Input should be a valid boolean"
  | truthText => "Input should be a valid boolean, unable to interpret input"
  | textKind => "Input should be a valid string"
  | integerKind => "Input should be a valid integer"
  | integerText => "Input should be a valid integer, unable to parse string as an integer"
  | integerSize => "Unable to parse input string as an integer, exceeded maximum size"
  | fraction => "Input should be a valid integer, got a number with a fractional part"
  | notFinite => "Input should be a finite number"
  | numberKind => "Input should be a valid number"
  | numberText => "Input should be a valid number, unable to parse string as a number"
  | notPositive => "Input should be greater than 0"
  | choice words => "Input should be " ++ " or ".intercalate (words.map fun w => "'" ++ w ++ "'")
  | listKind => "Input should be a valid list"

end Wrong

def truth (v : Json) : Except Wrong Bool :=
  match v.truth with
  | .ok b => .ok b
  | .error .kind => .error .truthKind
  | .error .unreadable => .error .truthText

def text : Json → Except Wrong String
  | .str s => .ok s
  | _ => .error .textKind

def choice {α : Type} (word : α → String) (options : List α) (v : Json) : Except Wrong α :=
  match v.text?.bind fun s => options.find? fun o => word o == s with
  | some o => .ok o
  | none => .error (.choice (options.map word))

/-! ## Integers -/

def hasDoubledUnderscore : List Char → Bool
  | a :: b :: rest => (a == '_' && b == '_') || hasDoubledUnderscore (b :: rest)
  | _ => false

/-- A text whose underscores are removed, if they are single and stand inside. -/
def withoutUnderscores? (cs : List Char) : Option (List Char) :=
  if cs.head? = some '_' ∨ cs.getLast? = some '_' ∨ hasDoubledUnderscore cs then none
  else some (cs.filter (· ≠ '_'))

/-- A digit but zero, or a minus. -/
def beginsNumber (c : Char) : Bool :=
  c == '-' || ('1' ≤ c && c ≤ '9')

/-- A number from its first significant character on; a zero is kept if nothing else is there.
Zeros and underscores in front are passed over, a minus behind them is not. -/
def significant? : List Char → Option (List Char)
  | [] => none
  | c :: rest =>
    if c = '0' then
      let passed := rest.takeWhile fun c => c = '0' ∨ c = '_'
      match rest.drop passed.length with
      | [] => some [((c :: passed).getLast?).getD c]
      | d :: more =>
        if d = '.' then some (((c :: passed).getLast?).getD c :: d :: more)
        else if beginsNumber d then some (d :: more)
        else none
    else if beginsNumber c then some (c :: rest)
    else none

/-- A number without a fraction of zeros. -/
def withoutZeroFraction (cs : List Char) : List Char :=
  let fraction := (cs.dropWhile (· ≠ '.')).drop 1
  if !fraction.isEmpty && fraction.all (· == '0') then cs.takeWhile (· ≠ '.') else cs

/-- What follows a plus, which no minus may follow. -/
def afterPlus? : List Char → Option (List Char)
  | '+' :: '-' :: _ => none
  | '+' :: rest => some rest
  | cs => some cs

/-- The numeral of a text: blanks, a plus, zeros in front, a fraction of zeros and underscores are
removed. -/
def numeral? (cs : List Char) : Option (List Char) := do
  let cs ← afterPlus? (Text.trim Text.isWhite cs)
  withoutUnderscores? (withoutZeroFraction (← significant? cs))

/-- The integer of a numeral: perhaps a minus, then zero or digits that begin with another one. The
minus counts as a digit where digits are counted, and so do they if something else follows them. -/
def integerOfNumeral (cs : List Char) : Except Wrong Int :=
  let negative := cs.head? == some '-'
  let digits := if negative then cs.drop 1 else cs
  let run := digits.takeWhile Char.isDigit
  let startsWell := run.head? != some '0' || run.length == 1
  if run.isEmpty || !startsWell then .error .integerText
  else if Numeral.digitLimit < run.length + (if negative then 1 else 0) then .error .integerSize
  else if run.length < digits.length then .error .integerText
  else .ok (Numeral.signed negative (Text.ofDecimalDigits (run.filterMap Text.asciiDecimal?)))

def integerOfText (s : String) : Except Wrong Int :=
  match numeral? s.toList with
  | none => .error .integerText
  | some cs => integerOfNumeral cs

/-- Whether a whole number in binary floating point is taken as an integer: it is below 2^63 in
size. -/
def isModest (n : Int) : Bool :=
  n.natAbs < 1 <<< 63

def integer : Json → Except Wrong Int
  | .int n => .ok n
  | .bool b => .ok (if b then 1 else 0)
  | .real x =>
    match x.truncate?, x.toInt? with
    | none, _ => .error .notFinite
    | some _, none => .error .fraction
    | some _, some n => if isModest n then .ok n else .error .integerSize
  | .str s => integerOfText s
  | .torn _ => .error .integerText
  | .null | .arr _ | .obj _ => .error .integerKind

def positiveInteger (v : Json) : Except Wrong Int := do
  let n ← integer v
  if 0 < n then return n else throw .notPositive

/-! ## Numbers -/

def numberOfText (s : String) : Except Wrong Binary64 :=
  let cs := s.toList
  match Decimal.read? (Text.trim Text.isWhite cs) with
  | some x => .ok x
  | none =>
    match (withoutUnderscores? cs).bind Decimal.read? with
    | some x => .ok x
    | none => .error .numberText

def number : Json → Except Wrong Binary64
  | .real x => .ok x
  | .int n => if (Binary64.ofInt n).isInfinite then .error .numberKind else .ok (.ofInt n)
  | .bool b => .ok (.ofInt (if b then 1 else 0))
  | .str s => numberOfText s
  | .torn _ => .error .numberText
  | .null | .arr _ | .obj _ => .error .numberKind

def positiveNumber (v : Json) : Except Wrong Binary64 := do
  let x ← number v
  if x.isPositive then return x else throw .notPositive

end SignIn.Settings
