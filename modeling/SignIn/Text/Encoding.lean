import SignIn.Text.Utf16

/-!
# The encoding of a JSON document

A document sent as octets is UTF-8 with or without a byte order mark, UTF-16 or UTF-32. Which of
them it is follows from its mark or, without one, from where its first octets are zero. Unpaired
surrogates among the octets themselves are replaced, so that the document is a text; half of a pair
that is spelled by an escape is met only when the text is read.
-/

namespace SignIn.Text

inductive Encoding
  | utf8
  | utf8Marked
  | utf16 (bigEndian : Bool)
  | utf16Marked (bigEndian : Bool)
  | utf32 (bigEndian : Bool)
  | utf32Marked (bigEndian : Bool)
  deriving DecidableEq, Repr

namespace Encoding

/-- The byte order marks, each before those that it starts with. -/
def marks : List (List UInt8 × Encoding) :=
  [([0x00, 0x00, 0xFE, 0xFF], utf32Marked true), ([0xFF, 0xFE, 0x00, 0x00], utf32Marked false),
    ([0xFE, 0xFF], utf16Marked true), ([0xFF, 0xFE], utf16Marked false),
    ([0xEF, 0xBB, 0xBF], utf8Marked)]

/-- The encoding of a document without a mark, from where its first octets are zero. -/
def ofZeros : List UInt8 → Encoding
  | a :: b :: c :: d :: _ =>
    if a = 0 then (if b = 0 then utf32 true else utf16 true)
    else if b = 0 then (if c = 0 ∧ d = 0 then utf32 false else utf16 false)
    else utf8
  | [a, b] => if a = 0 then utf16 true else if b = 0 then utf16 false else utf8
  | _ => utf8

/-- The encoding of a document, from its first four octets. -/
def detect (bs : List UInt8) : Encoding :=
  match marks.find? fun m => m.1.isPrefixOf bs with
  | some m => m.2
  | none => ofZeros bs

/-- The number that octets stand for, the most significant first. -/
def bigEndianValue (bs : List UInt8) : Nat :=
  bs.foldl (fun n b => 256 * n + b.toNat) 0

/-- The octets in groups of `size`; none if the last group is short. `fuel` bounds the groups. -/
def groups? (size : Nat) : Nat → List UInt8 → Option (List (List UInt8))
  | _, [] => some []
  | 0, _ => none
  | fuel + 1, bs =>
    if bs.length < size then none else (groups? size fuel (bs.drop size)).map (bs.take size :: ·)

/-- The code units of a document of fixed-width units. -/
def units? (size : Nat) (bigEndian : Bool) (bs : List UInt8) : Option (List Nat) :=
  (groups? size bs.length bs).map
    (·.map fun g => bigEndianValue (if bigEndian then g else g.reverse))

/-- The code points of a document in a known encoding, its mark dropped. -/
def codes? (e : Encoding) (bs : List UInt8) : Option (List Nat) :=
  match e with
  | utf8 => Utf8.codes? bs.length bs
  | utf8Marked => Utf8.codes? bs.length (bs.drop 3)
  | utf16 big => (units? 2 big bs).map Utf16.join
  | utf16Marked big => (units? 2 big (bs.drop 2)).map Utf16.join
  | utf32 big => units? 4 big bs
  | utf32Marked big => units? 4 big (bs.drop 4)

end Encoding

/-- The text of a document, if its octets are well-formed in their encoding. An unpaired surrogate
among them is replaced: a document with one is taken for another one. -/
def ofDocument? (bs : List UInt8) : Option (List Char) := do
  let ns ← (Encoding.detect bs).codes? bs
  if ns.all (· < 0x110000) then return ns.map Utf16.charOf else none

end SignIn.Text
