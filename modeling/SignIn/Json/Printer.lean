import SignIn.Json.Basic
import SignIn.Number.Shortest
import SignIn.Text.Hex
import SignIn.Text.Utf16

/-!
# Printing JSON

A value as ASCII text. Members stand in their order; the two separators are the only choice.
-/

namespace SignIn.Json

/-- What stands between items and between a name and its value. -/
structure Layout where
  comma : String
  colon : String

def Layout.compact : Layout := ⟨",", ":"⟩

def Layout.spaced : Layout := ⟨", ", ": "⟩

def unitEscape (n : Nat) : List Char :=
  '\\' :: 'u' :: Text.toHex 4 n

def charText (c : Char) : List Char :=
  if c = '"' then ['\\', '"']
  else if c = '\\' then ['\\', '\\']
  else if c = '\n' then ['\\', 'n']
  else if c = '\r' then ['\\', 'r']
  else if c = '\t' then ['\\', 't']
  else if c.toNat = 0x0C then ['\\', 'f']
  else if c.toNat = 0x08 then ['\\', 'b']
  else if 0x20 ≤ c.toNat ∧ c.toNat < 0x7F then [c]
  else (Text.Utf16.unitsOf c.toNat).flatMap unitEscape

def stringText (s : String) : List Char :=
  '"' :: s.toList.flatMap charText ++ ['"']

/-- A torn string: what is no character is escaped as the unit that it is. -/
def tornText (t : TornText) : List Char :=
  '"' :: t.points.flatMap (fun n =>
    if Text.Utf8.isScalar n then charText (Char.ofNat n) else unitEscape n) ++ ['"']

def intText (n : Int) : List Char :=
  if n < 0 then '-' :: Nat.toDigits 10 n.natAbs else Nat.toDigits 10 n.natAbs

mutual

def print (l : Layout) : Json → List Char
  | null => "null".toList
  | bool true => "true".toList
  | bool false => "false".toList
  | int n => intText n
  | real x => (FloatText.json.text x).toList
  | str s => stringText s
  | torn t => tornText t
  | arr vs => '[' :: printItems l vs ++ [']']
  | obj ms => '\x7b' :: printMembers l ms ++ ['\x7d']

/-- The items of an array with separators between them. -/
def printItems (l : Layout) : List Json → List Char
  | [] => []
  | [v] => print l v
  | v :: vs => print l v ++ l.comma.toList ++ printItems l vs

/-- The members of an object with separators between them. -/
def printMembers (l : Layout) : List (String × Json) → List Char
  | [] => []
  | [(n, v)] => stringText n ++ l.colon.toList ++ print l v
  | (n, v) :: ms =>
    stringText n ++ l.colon.toList ++ print l v ++ l.comma.toList ++ printMembers l ms

end

end SignIn.Json
