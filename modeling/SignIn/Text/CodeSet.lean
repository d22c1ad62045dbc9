import SignIn.Text.Hex
import SignIn.Text.Split

/-!
# Sets of characters

A set of code points as a list of ranges. Tables of the Unicode standard are written down as texts
of hexadecimal numbers with blanks between them: a single code point, or the ends of a range with a
hyphen between them.
-/

namespace SignIn.Text

/-- A set of code points: the first and the last one of each range. -/
structure CodeSet where
  ranges : List (Nat × Nat)
  deriving DecidableEq, Repr

namespace CodeSet

def has (s : CodeSet) (c : Char) : Bool :=
  s.ranges.any fun (low, high) => low ≤ c.toNat && c.toNat ≤ high

def rangeOf? (word : List Char) : Option (Nat × Nat) :=
  match splitOn '-' word with
  | [a] => (ofHex? a).map fun n => (n, n)
  | [a, b] => do return (← ofHex? a, ← ofHex? b)
  | _ => none

def ofHex (lines : List String) : CodeSet :=
  ⟨lines.flatMap fun line => (splitOn ' ' line.toList).filterMap rangeOf?⟩

end CodeSet

end SignIn.Text
