/-!
# Blanks

The characters that may surround a field, a number or a cookie's value without being part of it.
`isWhite` is the Unicode property `White_Space`; `isBlank` adds the four information separators.
Trimming removes a character class from both ends and nothing from the middle.
-/

namespace SignIn.Text

/-- White space: the Unicode property of that name. -/
def isWhite (c : Char) : Bool :=
  let n := c.toNat
  (0x09 ≤ n && n ≤ 0x0D) || n == 0x20 || n == 0x85 || n == 0xA0 || n == 0x1680 ||
    (0x2000 ≤ n && n ≤ 0x200A) || n == 0x2028 || n == 0x2029 || n == 0x202F || n == 0x205F ||
    n == 0x3000

/-- A blank: white space or an information separator (U+001C to U+001F). -/
def isBlank (c : Char) : Bool :=
  isWhite c || (0x1C ≤ c.toNat && c.toNat ≤ 0x1F)

/-- The text without the characters of a class at its end. -/
def trimEnd (p : Char → Bool) (cs : List Char) : List Char :=
  (cs.reverse.dropWhile p).reverse

/-- The text without the characters of a class at either end. -/
def trim (p : Char → Bool) (cs : List Char) : List Char :=
  trimEnd p (cs.dropWhile p)

/-- Trimming keeps a text that neither begins nor ends with a character of the class. -/
theorem trim_eq_self {p : Char → Bool} {cs : List Char}
    (first : ∀ c ∈ cs.head?, p c = false) (last : ∀ c ∈ cs.getLast?, p c = false) :
    trim p cs = cs := by
  have start : cs.dropWhile p = cs := by
    cases cs with
    | nil => rfl
    | cons c r => simp [List.dropWhile, first c rfl]
  have stop : cs.reverse.dropWhile p = cs.reverse := by
    cases h : cs.reverse with
    | nil => rfl
    | cons c r =>
      have : cs.getLast? = some c := by
        rw [← List.head?_reverse, h]; rfl
      simp [List.dropWhile, last c this]
  simp [trim, trimEnd, start, stop]

end SignIn.Text
