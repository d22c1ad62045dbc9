/-!
# Hexadecimal digits

Lower-case hexadecimal of a fixed width, and its reading in either case. Reading a written number
gives it back.
-/

namespace SignIn.Text

/-- The lower-case hexadecimal digit of a value below sixteen. -/
def hexDigit (n : Nat) : Char :=
  if n < 10 then Char.ofNat ('0'.toNat + n) else Char.ofNat ('a'.toNat + (n - 10))

/-- The value of a hexadecimal digit in either case. -/
def hexValue? (c : Char) : Option Nat :=
  if '0' ≤ c ∧ c ≤ '9' then some (c.toNat - '0'.toNat)
  else if 'a' ≤ c ∧ c ≤ 'f' then some (c.toNat - 'a'.toNat + 10)
  else if 'A' ≤ c ∧ c ≤ 'F' then some (c.toNat - 'A'.toNat + 10)
  else none

/-- The last `width` hexadecimal digits of a number, zeros included. -/
def toHex : Nat → Nat → List Char
  | 0, _ => []
  | width + 1, n => toHex width (n / 16) ++ [hexDigit (n % 16)]

/-- The number that hexadecimal digits stand for; none if a character is no digit. -/
def ofHex? (cs : List Char) : Option Nat :=
  cs.foldlM (fun n c => (hexValue? c).map (16 * n + ·)) 0

/-- A number is written in as many digits as asked for. -/
@[simp] theorem length_toHex (width n : Nat) : (toHex width n).length = width := by
  induction width generalizing n with
  | zero => rfl
  | succ w ih => simp [toHex, ih]

/-- The character of a hexadecimal digit reads back as the digit. -/
theorem hexValue?_hexDigit {n : Nat} (h : n < 16) : hexValue? (hexDigit n) = some n := by
  have all : ∀ m < 16, hexValue? (hexDigit m) = some m := by decide
  exact all n h

/-- A number below the width's limit reads back from its digits. -/
theorem ofHex?_toHex {width n : Nat} (h : n < Nat.pow 16 width) :
    ofHex? (toHex width n) = some n := by
  induction width generalizing n with
  | zero =>
    obtain rfl : n = 0 := Nat.lt_one_iff.1 h
    rfl
  | succ w ih =>
    have small : n / 16 < Nat.pow 16 w := by
      rw [Nat.div_lt_iff_lt_mul (by decide)]
      exact h
    have digit := hexValue?_hexDigit (Nat.mod_lt n (show 0 < 16 by decide))
    have front := ih small
    simp only [ofHex?] at front ⊢
    rw [toHex, List.foldlM_append, front]
    simp [digit, Nat.div_add_mod]

end SignIn.Text
