import Mathlib.Tactic.Lemma
import SignIn.Number.Deadline

/-!
# Clocks

A clock in binary floating point that shows an eighth of a second shows it exactly. On such a clock
whole seconds are over exactly when they are (`Deadline.hasCome_after_iff`), and the instant that is
shown for their end is the exact one (`Deadline.shown_after`). Elsewhere the sum of an instant and a
length is rounded, and the clock may be off by that; the exact end is what the stores go by here.
-/

namespace SignIn

namespace Binary64

/-- Whether a number is at most another one, where neither is negative or infinite. -/
def atMost : Binary64 → Binary64 → Bool
  | .finite false m e, .finite false n f =>
    m <<< (e - min e f).toNat ≤ n <<< (f - min e f).toNat
  | _, _ => false

/-- A number that is some eighths. Its mantissa is shifted as far as its exponent is low. -/
def IsEighths (q : Nat) (x : Binary64) : Prop :=
  ∃ j : Nat, x = .finite false (q <<< j) (-3 - j)

/-- The exponent of eighths below 2^50 is low enough for them. -/
lemma exponentOf_le {num den q : Nat} (positive : 0 < den) (exact : den * q = num <<< 3)
    (there : num ≠ 0) (small : q < 1 <<< 53) : exponentOf num den ≤ -3 := by
  have log : num.log2 < den.log2 + 51 := by
    refine (Nat.log2_lt there).2 ?_
    have scaled : num <<< 3 < Nat.pow 2 (den.log2 + 1) * (1 <<< 53) := by
      rw [← exact]
      exact Nat.mul_lt_mul_of_lt_of_lt Nat.lt_log2_self small
    have split : Nat.pow 2 (den.log2 + 51) = Nat.pow 2 (den.log2 + 1) * 1125899906842624 :=
      Nat.pow_add 2 (den.log2 + 1) 50
    show num < Nat.pow 2 (den.log2 + 51)
    rw [split]
    rw [Nat.shiftLeft_eq] at scaled
    omega
  rw [exponentOf]
  -- the higher of the two exponents is taken only where the lower one is at most -4
  by_cases low : (num.log2 : Int) - den.log2 - 53 = -3
  · have quotient : num <<< 3 / den = q := by
      rw [← exact, Nat.mul_div_cancel_left q positive]
    rw [low]
    show max minExponent (if 1 <<< 53 ≤ num <<< 3 / den then _ else _) ≤ _
    rw [quotient, if_neg (Nat.not_le_of_lt small)]
    decide
  · dsimp only
    split
    · exact Int.max_le.2 ⟨by decide, by omega⟩
    · exact Int.max_le.2 ⟨by decide, by omega⟩

/-- A quotient without a remainder is not rounded. -/
lemma roundQuotient_mul {den : Nat} (positive : 0 < den) (q : Nat) :
    roundQuotient (den * q) den = q := by
  simp only [roundQuotient, Nat.mul_div_cancel_left q positive, Nat.mul_mod_right]
  exact if_neg (by omega)

/-- A ratio that is some eighths is held exactly. -/
lemma isEighths_ofRatio {num den q : Nat} (positive : 0 < den) (exact : den * q = num <<< 3)
    (small : q < 1 <<< 53) : IsEighths q (ofRatio false num den) := by
  by_cases there : num = 0
  · subst there
    rw [Nat.zero_shiftLeft, Nat.mul_eq_zero] at exact
    obtain rfl : q = 0 := exact.resolve_left (Nat.ne_of_gt positive)
    exact ⟨1071, by rw [Nat.zero_shiftLeft]; rfl⟩
  · have low := exponentOf_le positive exact there small
    obtain ⟨j, exponent⟩ : ∃ j : Nat, exponentOf num den = -3 - j :=
      ⟨(-3 - exponentOf num den).toNat, by omega⟩
    have scaled : scale num den (-3 - j) = (den * (q <<< j), den) := by
      rw [scale, if_neg (by omega), show (-(-3 - (j : Int))).toNat = 3 + j by omega,
        Nat.shiftLeft_add, ← exact, Nat.shiftLeft_eq, Nat.shiftLeft_eq, Nat.mul_assoc]
    simp only [ofRatio, if_neg there, exponent, scaled, roundQuotient_mul positive]
    by_cases full : q <<< j = 1 <<< 53
    · -- the mantissa has a bit too many, so it was shifted
      cases j with
      | zero => exact absurd full (Nat.ne_of_lt small)
      | succ i =>
        have half : q <<< i = 1 <<< 52 := by
          rw [Nat.shiftLeft_succ] at full
          omega
        rw [if_pos full, ← half]
        dsimp only
        rw [if_neg (by rw [maxExponent]; omega)]
        exact ⟨i, by congr 1; omega⟩
    · rw [if_neg full]
      dsimp only
      rw [if_neg (by rw [maxExponent]; omega)]
      exact ⟨j, rfl⟩

/-- The ratio of a mantissa and an exponent that are some eighths. -/
lemma ratio_eighths (q j : Nat) : ratio (q <<< j) (-3 - j) = (q <<< j, 1 <<< (3 + j)) := by
  rw [ratio, if_neg (by omega), show (-(-3 - (j : Int))).toNat = 3 + j by omega]

/-- The denominator of a mantissa that is some eighths, taken as often, is eight times it. -/
lemma unit_mul (q j : Nat) : (1 <<< (3 + j)) * q = (q <<< j) <<< 3 := by
  rw [← Nat.shiftLeft_add, Nat.shiftLeft_eq, Nat.shiftLeft_eq, Nat.one_mul, Nat.add_comm,
    Nat.mul_comm]

/-- The denominator of such a mantissa is positive. -/
lemma unit_pos (j : Nat) : 0 < 1 <<< (3 + j) := by
  rw [Nat.one_shiftLeft]
  exact Nat.two_pow_pos _

/-- The lower of two exponents of eighths is that of the mantissa that is shifted further. -/
lemma min_exponent (j i : Nat) : min (-3 - (j : Int)) (-3 - i) = -3 - (max j i : Nat) := by
  omega

/-- A mantissa of some eighths that is shifted on to a lower exponent is one of as many. -/
lemma shift_lower {j m : Nat} (le : j ≤ m) (q : Nat) :
    (q <<< j) <<< (-3 - (j : Int) - (-3 - m)).toNat = q <<< m := by
  rw [show (-3 - (j : Int) - (-3 - m)).toNat = m - j by omega, ← Nat.shiftLeft_add,
    Nat.add_sub_cancel' le]

/-- Eighths are added exactly. -/
lemma IsEighths.add {q r : Nat} {x y : Binary64} (hx : IsEighths q x) (hy : IsEighths r y)
    (small : q + r < 1 <<< 53) : IsEighths (q + r) (x.add y) := by
  obtain ⟨j, rfl⟩ := hx
  obtain ⟨i, rfl⟩ := hy
  have sum : ((q <<< max j i : Nat) : Int) + (r <<< max j i : Nat) =
      ((q + r) <<< max j i : Nat) := by
    rw [Nat.shiftLeft_eq, Nat.shiftLeft_eq, Nat.shiftLeft_eq, Nat.add_mul, Int.natCast_add]
  simp only [Binary64.add, min_exponent, shift_lower (Nat.le_max_left j i),
    shift_lower (Nat.le_max_right j i), Bool.false_eq_true, if_false, sum, Int.natAbs_natCast,
    ratio_eighths]
  split
  · next none =>
    have none' : q + r = 0 := by
      have := Int.natCast_eq_zero.1 none
      rw [Nat.shiftLeft_eq, Nat.mul_eq_zero] at this
      exact this.resolve_right (Nat.ne_of_gt (Nat.two_pow_pos _))
    rw [none']
    exact ⟨1071, by rw [Nat.zero_shiftLeft]; rfl⟩
  · rw [decide_eq_false (Int.not_lt.2 (Int.natCast_nonneg _))]
    exact isEighths_ofRatio (unit_pos _) (unit_mul _ _) small

/-- Eighths that are taken a number of times are so exactly. -/
lemma IsEighths.scaleBy {q k : Nat} {x : Binary64} (h : IsEighths q x)
    (small : q * k < 1 <<< 53) : IsEighths (q * k) (x.scaleBy k) := by
  obtain ⟨j, rfl⟩ := h
  have times : (q <<< j) * k = (q * k) <<< j := by
    rw [Nat.shiftLeft_eq, Nat.shiftLeft_eq, Nat.mul_right_comm]
  rw [Binary64.scaleBy, ratio_eighths]
  dsimp only
  rw [times]
  exact isEighths_ofRatio (unit_pos j) (unit_mul _ j) small

/-- Eighths are compared by how many they are. -/
lemma IsEighths.atMost_iff {q r : Nat} {x y : Binary64} (hx : IsEighths q x) (hy : IsEighths r y) :
    x.atMost y = true ↔ q ≤ r := by
  obtain ⟨j, rfl⟩ := hx
  obtain ⟨i, rfl⟩ := hy
  rw [atMost, min_exponent, shift_lower (Nat.le_max_left j i), shift_lower (Nat.le_max_right j i),
    decide_eq_true_eq, Nat.shiftLeft_eq, Nat.shiftLeft_eq]
  exact Nat.mul_le_mul_right_iff (Nat.two_pow_pos _)

/-- Of eighths, the integer in the direction of zero. -/
lemma IsEighths.truncate? {q : Nat} {x : Binary64} (h : IsEighths q x) :
    x.truncate? = some ((q / 8 : Nat) : Int) := by
  obtain ⟨j, rfl⟩ := h
  have shifted : q <<< j >>> (3 + j) = q / 8 := by
    rw [Nat.add_comm, Nat.shiftRight_add, Nat.shiftLeft_shiftRight]
    exact Nat.shiftRight_eq_div_pow q 3
  have low : ¬ (0 : Int) ≤ -3 - j := by omega
  simp only [Binary64.truncate?, if_neg low, Bool.false_eq_true, if_false,
    show (-(-3 - (j : Int))).toNat = 3 + j by omega, shifted]

end Binary64

namespace Deadline

/-- Eighths of a second are shown exactly. -/
lemma isEighths_instant {k : Nat} (small : k < 1 <<< 53) :
    Binary64.IsEighths k (.ofRatio false (125 * k) 1000) :=
  Binary64.isEighths_ofRatio (by decide) (by rw [Nat.shiftLeft_eq]; omega) small

/-- Where an instant is some eighths of a second, what a clock shows of whole seconds from then on
is exact. -/
lemma isEighths_reading {k n : Nat} (small : k + 8 * n < 1 <<< 53) :
    Binary64.IsEighths (k + 8 * n) (reading (125 * k : Nat) (.whole n)) := by
  have now := isEighths_instant (show k < 1 <<< 53 by omega)
  have length : Binary64.IsEighths (8 * n) (.ofRatio false n 1) :=
    Binary64.isEighths_ofRatio (by decide) (by rw [Nat.shiftLeft_eq]; omega) (by omega)
  rw [reading, Seconds.toReal, Binary64.ofInt, decide_eq_false (by omega),
    decide_eq_false (by omega), Int.natAbs_natCast, Int.natAbs_natCast]
  exact now.add length small

/-- Where an instant is some eighths of a second, the end of whole seconds that a clock shows is the
exact one. -/
theorem shown_after {k n : Nat} (small : (k + 8 * n) * 1000 < 1 <<< 53) :
    (after (125 * k : Nat) (.whole n)).shown = (after (125 * k : Nat) (.whole n)).ends := by
  have clock := isEighths_reading (k := k) (n := n) (by omega)
  have shown := (clock.scaleBy small).truncate?
  rw [after]
  dsimp only
  rw [shown, Option.getD_some]
  omega

/-- On a clock whose readings are eighths of a second, whole seconds are over exactly when they
are. -/
theorem hasCome_after_iff {k n l : Nat} (small : k + 8 * n < 1 <<< 53) (later : l < 1 <<< 53) :
    (after (125 * k : Nat) (.whole n)).hasCome (125 * l : Nat) = true ↔
      (reading (125 * k : Nat) (.whole n)).atMost (.ofRatio false (125 * l) 1000) = true := by
  rw [(isEighths_reading small).atMost_iff (isEighths_instant later), hasCome, decide_eq_true_eq,
    after]
  dsimp only
  omega

/-- Ten minutes from 16.036 seconds on are not over at 616.036 seconds on a clock. -/
example : (after 16036 (.whole 600)).hasCome 616036 = true ∧
    (reading 16036 (.whole 600)).atMost (.ofRatio false 616036 1000) = false := by
  decide +kernel

end Deadline

end SignIn
