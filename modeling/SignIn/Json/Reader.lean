import SignIn.Json.Basic
import SignIn.Number.Numeral
import SignIn.Text.Hex
import SignIn.Text.Utf16

/-!
# Reading JSON

A reader of JSON text with exact error positions. It takes `NaN`, `Infinity` and `-Infinity` as
numbers and refuses raw control characters in strings. A fault is told by how many characters were
left, so that reading never needs to count.

What numerals and strings stand for is a parameter. The standard reading makes a numeral a number
and replaces an unpaired surrogate in a string; the textual reading keeps a numeral as the text it
is; the reading of what was sent keeps an unpaired surrogate, too. In the name of a member it is
always replaced: no name that anybody looks for has one.
-/

namespace SignIn.Json

/-- Why a text is not read. -/
inductive ReadFault
  /-- The text departs from the grammar where so many characters were left. -/
  | grammar (left : Nat)
  | digits
  /-- Arrays and objects are nested too deeply. -/
  | depth
  deriving DecidableEq, Repr

/-- How many calls may be under way at once. The reader calls itself for each array and object
inside another. -/
def callLimit : Nat := 1000

/-- How deeply arrays and objects may be nested in a token, a stored text or a setting: the calls
that are under way when one is read come first. -/
def nestingLimit : Nat := callLimit - 15

def isSpace (c : Char) : Bool :=
  c == ' ' || c == '\t' || c == '\n' || c == '\r'

def skipSpace (cs : List Char) : List Char :=
  cs.dropWhile isSpace

/-- A fault of the grammar in front of the given characters. -/
def grammarAt {α : Type} (cs : List Char) : Except ReadFault α :=
  .error (.grammar cs.length)

/-! ## Strings -/

/-- The code unit of four hexadecimal digits. -/
def unit? (a b c d : Char) : Option Nat :=
  Text.ofHex? [a, b, c, d]

/-- The character that a one-letter escape stands for. -/
def escaped? : Char → Option Char
  | '"' => some '"'
  | '\\' => some '\\'
  | '/' => some '/'
  | 'b' => some (Char.ofNat 0x08)
  | 'f' => some (Char.ofNat 0x0C)
  | 'n' => some '\n'
  | 'r' => some '\r'
  | 't' => some '\t'
  | _ => none

/-- The code units of a string up to its closing quote; `start` is how many characters were left at
its opening quote. -/
def units (start : Nat) : List Char → Except ReadFault (List Nat × List Char)
  | [] => .error (.grammar start)
  | '"' :: rest => .ok ([], rest)
  | ['\\'] => .error (.grammar start)
  | '\\' :: 'u' :: rest =>
    match rest with
    | a :: b :: c :: d :: e :: rest =>
      match unit? a b c d with
      | some n => (units start (e :: rest)).map fun (ns, rest) => (n :: ns, rest)
      | none => .error (.grammar (rest.length + 6))
    | rest => .error (.grammar (rest.length + 1))
  | '\\' :: c :: rest =>
    match escaped? c with
    | some e => (units start rest).map fun (ns, rest) => (e.toNat :: ns, rest)
    | none => .error (.grammar (rest.length + 2))
  | c :: rest =>
    if c.toNat < 0x20 then .error (.grammar (rest.length + 1))
    else (units start rest).map fun (ns, rest) => (c.toNat :: ns, rest)

/-- The text of a string, from the character after its opening quote. -/
def string (cs : List Char) : Except ReadFault (String × List Char) :=
  (units (cs.length + 1) cs).map fun (ns, rest) =>
    (Text.Utf16.replaced (Text.Utf16.join ns), rest)

/-! ## Numerals -/

/-- A numeral's parts. -/
structure Lexeme where
  negative : Bool
  whole : List Char
  /-- The digits after the point; empty if there is no point. -/
  fraction : List Char
  /-- The letter, the sign if there is one, and the digits of the exponent. -/
  exponent : Option (Char × List Char × List Char)
  deriving Repr

namespace Lexeme

/-- Whether a numeral has neither a fraction nor an exponent. -/
def isInteger (l : Lexeme) : Bool :=
  l.fraction.isEmpty && l.exponent.isNone

def text (l : Lexeme) : List Char :=
  (if l.negative then ['-'] else []) ++ l.whole ++
    (if l.fraction.isEmpty then [] else '.' :: l.fraction) ++
    (match l.exponent with
      | some (letter, sign, ds) => letter :: sign ++ ds
      | none => [])

/-- The number that ASCII digits stand for. -/
def natOf (ds : List Char) : Nat :=
  Text.ofDecimalDigits (ds.filterMap Text.asciiDecimal?)

/-- The binary number nearest to a numeral. -/
def real (l : Lexeme) : Binary64 :=
  let exponent : Int := match l.exponent with
    | some (_, sign, ds) => Numeral.signed (sign == ['-']) (natOf ds)
    | none => 0
  .ofDecimal l.negative (natOf (l.whole ++ l.fraction)) (exponent - l.fraction.length)

end Lexeme

/-- The number that a numeral stands for. -/
def Lexeme.number (l : Lexeme) : Except ReadFault Json :=
  if l.isInteger then
    if Numeral.digitLimit < l.whole.length then .error .digits
    else .ok (.int (Numeral.signed l.negative (natOf l.whole)))
  else .ok (.real l.real)

/-- What a numeral, and the code points of a string, stand for. -/
structure Reading where
  numeral : Lexeme → Except ReadFault Json
  string : List Nat → Json

namespace Reading

def asNumbers : Reading := ⟨Lexeme.number, fun ns => str (Text.Utf16.replaced ns)⟩

def asTexts : Reading :=
  ⟨fun l => .ok (str (String.ofList l.text)), fun ns => str (Text.Utf16.replaced ns)⟩

/-- The reading that keeps every string as it was sent. -/
def asSent : Reading := ⟨Lexeme.number, fun ns => sent (.ofPoints ns)⟩

end Reading

/-- The exponent at the head of a text, if there is one. -/
def exponent? : List Char → Option ((Char × List Char × List Char) × List Char)
  | letter :: rest =>
    if letter = 'e' ∨ letter = 'E' then
      let (sign, rest) : List Char × List Char := match rest with
        | '+' :: rest => (['+'], rest)
        | '-' :: rest => (['-'], rest)
        | rest => ([], rest)
      let ds := rest.takeWhile Char.isDigit
      if ds.isEmpty then none else some ((letter, sign, ds), rest.dropWhile Char.isDigit)
    else none
  | [] => none

/-- Whether a text begins with a minus, and what follows it. -/
def minus : List Char → Bool × List Char
  | '-' :: rest => (true, rest)
  | cs => (false, cs)

/-- The digits before the point, of which a zero stands alone, and what follows them. -/
def wholePart (c : Char) (rest : List Char) : List Char × List Char :=
  if c = '0' then (['0'], rest)
  else (c :: rest.takeWhile Char.isDigit, rest.dropWhile Char.isDigit)

/-- The digits after the point, if there are any, and what follows them. -/
def fractionPart : List Char → List Char × List Char
  | '.' :: d :: more =>
    if d.isDigit then (d :: more.takeWhile Char.isDigit, more.dropWhile Char.isDigit)
    else ([], '.' :: d :: more)
  | cs => ([], cs)

/-- The numeral at the head of a text and what follows it. -/
def lexeme? (cs : List Char) : Option (Lexeme × List Char) :=
  let (negative, cs) := minus cs
  match cs with
  | [] => none
  | c :: rest =>
    if !c.isDigit then none
    else
      let (whole, rest) := wholePart c rest
      let (fraction, rest) := fractionPart rest
      match exponent? rest with
      | some (exponent, rest) => some (⟨negative, whole, fraction, some exponent⟩, rest)
      | none => some (⟨negative, whole, fraction, none⟩, rest)

/-! ## Values -/

/-- A value that is neither a string, an array nor an object. -/
def scalar (r : Reading) (cs : List Char) : Except ReadFault (Json × List Char) :=
  match cs with
  | 'n' :: 'u' :: 'l' :: 'l' :: rest => .ok (null, rest)
  | 't' :: 'r' :: 'u' :: 'e' :: rest => .ok (bool true, rest)
  | 'f' :: 'a' :: 'l' :: 's' :: 'e' :: rest => .ok (bool false, rest)
  | 'N' :: 'a' :: 'N' :: rest => .ok (real .nan, rest)
  | 'I' :: 'n' :: 'f' :: 'i' :: 'n' :: 'i' :: 't' :: 'y' :: rest =>
    .ok (real (.infinite false), rest)
  | '-' :: 'I' :: 'n' :: 'f' :: 'i' :: 'n' :: 'i' :: 't' :: 'y' :: rest =>
    .ok (real (.infinite true), rest)
  | cs =>
    match lexeme? cs with
    | some (l, rest) => (r.numeral l).map (·, rest)
    | none => grammarAt cs

/-- A member's name and the colon after it, from the place where the name is expected. -/
def memberName : List Char → Except ReadFault (String × List Char)
  | '"' :: rest => do
    let (name, rest) ← string rest
    match skipSpace rest with
    | ':' :: rest => return (name, skipSpace rest)
    | rest => grammarAt rest
  | cs => grammarAt cs

mutual

/-- A value from its first character on, with `room` for nested arrays and objects; `fuel` bounds
the depth of calls, of which there are at most two for a character. -/
def value (r : Reading) : Nat → Nat → List Char → Except ReadFault (Json × List Char)
  | 0, _, cs => grammarAt cs
  | fuel + 1, room, cs =>
    match cs with
    | '"' :: rest =>
      (units (rest.length + 1) rest).map fun (ns, rest) => (r.string (Text.Utf16.join ns), rest)
    | '[' :: rest =>
      match room with
      | 0 => .error .depth
      | room + 1 =>
        match skipSpace rest with
        | ']' :: rest => .ok (arr [], rest)
        | rest => (items r fuel room rest).map fun (vs, rest) => (arr vs, rest)
    | '\x7b' :: rest =>
      match room with
      | 0 => .error .depth
      | room + 1 =>
        match skipSpace rest with
        | '\x7d' :: rest => .ok (obj [], rest)
        | rest => (members r fuel room rest).map fun (ms, rest) => (ofMembers ms, rest)
    | cs => scalar r cs

/-- The items of an array from the first character of an item on, closing bracket included. -/
def items (r : Reading) : Nat → Nat → List Char → Except ReadFault (List Json × List Char)
  | 0, _, cs => grammarAt cs
  | fuel + 1, room, cs => do
    let (v, rest) ← value r fuel room cs
    match skipSpace rest with
    | ']' :: rest => return ([v], rest)
    | ',' :: rest =>
      let (vs, rest) ← items r fuel room (skipSpace rest)
      return (v :: vs, rest)
    | rest => grammarAt rest

/-- The members of an object from the place of a name on, closing brace included. -/
def members (r : Reading) :
    Nat → Nat → List Char → Except ReadFault (List (String × Json) × List Char)
  | 0, _, cs => grammarAt cs
  | fuel + 1, room, cs => do
    let (name, rest) ← memberName cs
    let (v, rest) ← value r fuel room rest
    match skipSpace rest with
    | '\x7d' :: rest => return ([(name, v)], rest)
    | ',' :: rest =>
      let (ms, rest) ← members r fuel room (skipSpace rest)
      return ((name, v) :: ms, rest)
    | rest => grammarAt rest

end

/-- The value that a whole text stands for, with `room` for nested arrays and objects. -/
def readWithin (r : Reading) (room : Nat) (cs : List Char) : Except ReadFault Json := do
  let (v, rest) ← value r (2 * cs.length + 2) room (skipSpace cs)
  match skipSpace rest with
  | [] => return v
  | rest => grammarAt rest

/-- The value that a whole text stands for. -/
def readWith (r : Reading) (cs : List Char) : Except ReadFault Json :=
  readWithin r nestingLimit cs

/-- The value that a text stands for, its numerals as numbers. -/
def read (cs : List Char) : Except ReadFault Json :=
  readWith .asNumbers cs

end SignIn.Json
