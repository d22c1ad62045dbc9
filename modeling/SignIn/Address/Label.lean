import SignIn.Address.Composition
import SignIn.Address.LabelTable
import SignIn.Address.Punycode
import SignIn.Text.Case

/-!
# Host labels

The labels of a host's name are the parts between its points. A label with characters beyond ASCII
is registered in an ASCII form, if it keeps the rules: it is in composed form, hyphens and marks
stand where they may, every character is permitted or in a context that permits it, text from right
to left is not mixed with other text, and the ASCII form has at most 63 characters.
-/

namespace SignIn.Address.Label

/-! ## Context -/

/-- Whether the character in front of a place is a mark after which a joiner may stand. -/
def followsJoiningMark (before : List Char) : Bool :=
  (before.head?.map joiningMarks.has).getD false

/-- Whether the next letter that is not passed over is in a set. -/
def nextLetterIn (s : Text.CodeSet) (cs : List Char) : Bool :=
  ((cs.dropWhile transparent.has).head?.map s.has).getD false

/-- Whether a character that is permitted in some contexts only may stand between the characters
`before`, the nearest one first, and `after`. -/
def fitsContext (label before : List Char) (c : Char) (after : List Char) : Bool :=
  let n := c.toNat
  if n = 0x200C then
    followsJoiningMark before || (nextLetterIn joinAfter before && nextLetterIn joinBefore after)
  else if n = 0x200D then followsJoiningMark before
  else if n = 0xB7 then before.head? == some 'l' && after.head? == some 'l'
  else if n = 0x375 then (after.head?.map greek.has).getD false
  else if n = 0x5F3 ∨ n = 0x5F4 then (before.head?.map hebrew.has).getD false
  else if n = 0x30FB then label.any fun d => d != c && japanese.has d
  else if 0x660 ≤ n ∧ n ≤ 0x669 then !label.any fun d => 0x6F0 ≤ d.toNat && d.toNat ≤ 0x6F9
  else if 0x6F0 ≤ n ∧ n ≤ 0x6F9 then !label.any fun d => 0x660 ≤ d.toNat && d.toNat ≤ 0x669
  else false

/-- Whether every character of a label may stand where it does; `before` holds the characters that
have been seen, the last one first. -/
def allPermitted (label before : List Char) : List Char → Bool
  | [] => true
  | c :: after =>
    (permitted.has c || fitsContext label before c after) && allPermitted label (c :: before) after

/-! ## Direction -/

inductive Direction
  | left
  | right
  | number
  | arabicNumber
  | mark
  | neutral
  deriving DecidableEq, Repr

def directionOf (c : Char) : Direction :=
  if rightToLeft.has c then .right
  else if arabicNumbers.has c then .arabicNumber
  else if numbers.has c then .number
  else if directionless.has c then .mark
  else if neutral.has c then .neutral
  else .left

/-- Whether the last direction that is not a mark's is one of the given. -/
def endsIn (allowed ds : List Direction) : Bool :=
  ((ds.reverse.dropWhile (· == .mark)).head?.map allowed.contains).getD false

/-- Whether the directions of a label go together. They do if none is from right to left; otherwise
the first one decides what else there may be and how the label may end. -/
def goTogether (ds : List Direction) : Bool :=
  if !ds.any fun d => d == .right || d == .arabicNumber then true
  else if ds.head? = some .right then
    !ds.contains .left && !(ds.contains .number && ds.contains .arabicNumber) &&
      endsIn [.right, .number, .arabicNumber] ds
  else false

/-! ## Labels -/

/-- Whether hyphens stand neither at an end nor at the third and the fourth place. -/
def hasSoundHyphens (label : List Char) : Bool :=
  label.head? != some '-' && label.getLast? != some '-' && (label.drop 2).take 2 != ['-', '-']

def isSound (label : List Char) : Bool :=
  !label.isEmpty && hasSoundHyphens label && !(label.head?.map marks.has).getD false &&
    allPermitted label [] label && Composition.composed label == label &&
    goTogether (label.map directionOf)

def lengthLimit : Nat := 63

/-- The ASCII form of a label that keeps the rules. -/
def ascii? (label : List Char) : Option (List Char) :=
  let written := if label.all (·.toNat < 0x80) then label
    else "xn--".toList ++ Punycode.encode label
  if isSound label && written.length ≤ lengthLimit then some written else none

end SignIn.Address.Label
