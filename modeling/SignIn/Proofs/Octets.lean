import Mathlib.Tactic.Lemma
import SignIn.Bytes.Base64

/-!
# Octets and text

The two ways in which a token turns octets into text and back are inverse to each other where a
token is written: `Utf8.decode?_encode` for every text, `Base64.decode?_encode` for every sequence
of octets. The lenient reader of Base64 takes far more texts than the writer makes, so the proof
follows the writer: one group of four digits after the other, and the padding for the last one.
-/

namespace SignIn.Text.Utf8

/-- An octet that continues a code point has six bits of it. -/
lemma tail?_ofNat {n : Nat} (h : n < 0x40) : tail? (UInt8.ofNat (0x80 + n)) = some n := by
  have e : (UInt8.ofNat (0x80 + n)).toNat = 0x80 + n := by
    rw [UInt8.toNat_ofNat']; omega
  unfold tail?
  rw [e, if_pos (by omega)]
  simp

/-- The octets of a code point read back as that code point, whatever follows them. -/
lemma next?_encodeCode {n : Nat} (h : n < 0x110000) (rest : List UInt8) :
    next? (encodeCode n ++ rest) = some (n, rest) := by
  unfold encodeCode
  split
  · have e : (UInt8.ofNat n).toNat = n := by rw [UInt8.toNat_ofNat']; omega
    simp only [List.cons_append, List.nil_append, next?, e]
    rw [if_pos (by omega)]
  split
  · have e : (UInt8.ofNat (0xC0 + n / 0x40)).toNat = 0xC0 + n / 0x40 := by
      rw [UInt8.toNat_ofNat']; omega
    have t := tail?_ofNat (Nat.mod_lt n (show 0 < 0x40 by decide))
    simp only [List.cons_append, List.nil_append, next?, e, t]
    rw [if_neg (by omega), if_neg (by omega), if_pos (by omega)]
    simp only [Option.bind_eq_bind, Option.bind_some, pure, Option.some.injEq, Prod.mk.injEq,
      and_true]
    omega
  split
  · have e : (UInt8.ofNat (0xE0 + n / 0x1000)).toNat = 0xE0 + n / 0x1000 := by
      rw [UInt8.toNat_ofNat']; omega
    have t₁ := tail?_ofNat (Nat.mod_lt (n / 0x40) (show 0 < 0x40 by decide))
    have t₂ := tail?_ofNat (Nat.mod_lt n (show 0 < 0x40 by decide))
    simp only [List.cons_append, List.nil_append, next?, e, t₁, t₂]
    rw [if_neg (by omega), if_neg (by omega), if_neg (by omega), if_pos (by omega)]
    simp only [Option.bind_eq_bind, Option.bind_some]
    rw [if_neg (by omega)]
    simp only [pure, Option.some.injEq, Prod.mk.injEq, and_true]
    omega
  · have e : (UInt8.ofNat (0xF0 + n / 0x40000)).toNat = 0xF0 + n / 0x40000 := by
      rw [UInt8.toNat_ofNat']; omega
    have t₁ := tail?_ofNat (Nat.mod_lt (n / 0x1000) (show 0 < 0x40 by decide))
    have t₂ := tail?_ofNat (Nat.mod_lt (n / 0x40) (show 0 < 0x40 by decide))
    have t₃ := tail?_ofNat (Nat.mod_lt n (show 0 < 0x40 by decide))
    simp only [List.cons_append, List.nil_append, next?, e, t₁, t₂, t₃]
    rw [if_neg (by omega), if_neg (by omega), if_neg (by omega), if_neg (by omega),
      if_pos (by omega)]
    -- checking the code point's bounds by unfolding would count up to them
    simp -implicitDefEqProofs only [Option.bind_eq_bind, Option.bind_some]
    rw [if_neg (by omega)]
    simp only [pure, Option.some.injEq, Prod.mk.injEq, and_true]
    omega

/-- Every code point is written in some octets. -/
lemma length_encodeCode_pos (n : Nat) : 0 < (encodeCode n).length := by
  unfold encodeCode
  split
  · exact Nat.one_pos
  split
  · exact Nat.two_pos
  split
  · exact Nat.succ_pos _
  · exact Nat.succ_pos _

/-- A character is a code point below the last. -/
lemma toNat_lt (c : Char) : c.toNat < 0x110000 := by
  have v := c.valid
  simp only [UInt32.isValidChar, Nat.isValidChar] at v
  show c.val.toNat < 0x110000
  omega

/-- A character is a code point that is no surrogate. -/
lemma isScalar_toNat (c : Char) : isScalar c.toNat = true := by
  have v := c.valid
  simp only [UInt32.isValidChar, Nat.isValidChar] at v
  have e : c.toNat = c.val.toNat := rfl
  simp only [isScalar, Bool.or_eq_true, Bool.and_eq_true, decide_eq_true_eq]
  omega

/-- The code points of a text are read from its octets with enough fuel. -/
lemma codes?_encode {cs : List Char} {fuel : Nat} (h : (encode cs).length ≤ fuel) :
    codes? fuel (encode cs) = some (cs.map Char.toNat) := by
  induction cs generalizing fuel with
  | nil => cases fuel <;> rfl
  | cons c cs ih =>
    have e : encode (c :: cs) = encodeCode c.toNat ++ encode cs := List.flatMap_cons
    have pos := length_encodeCode_pos c.toNat
    rw [e, List.length_append] at h
    obtain ⟨fuel, rfl⟩ : ∃ k, fuel = k + 1 := ⟨fuel - 1, by omega⟩
    have step := next?_encodeCode (toNat_lt c) (encode cs)
    obtain ⟨b, bs, eb⟩ : ∃ b bs, encodeCode c.toNat ++ encode cs = b :: bs := by
      cases enc : encodeCode c.toNat with
      | nil => rw [enc] at pos; exact absurd pos (Nat.lt_irrefl 0)
      | cons b bs => exact ⟨b, bs ++ encode cs, rfl⟩
    rw [eb] at step
    rw [e, eb, codes?, step]
    · simp only [Option.bind_eq_bind, Option.bind_some]
      rw [ih (by omega)]
      rfl
    · exact List.cons_ne_nil b bs

/-- Decoding the octets of a text gives the text. -/
lemma decode?_encode (cs : List Char) : decode? (encode cs) = some cs := by
  have scalars : (cs.map Char.toNat).all isScalar = true := by
    rw [List.all_map, List.all_eq_true]
    intro c _
    exact isScalar_toNat c
  have back : (cs.map Char.toNat).map Char.ofNat = cs := by
    rw [List.map_map]
    refine (List.map_congr_left fun c _ => ?_).trans (List.map_id cs)
    exact Char.ofNat_toNat c
  rw [decode?, codes?_encode (Nat.le_refl _)]
  simp only [Option.bind_eq_bind, Option.bind_some]
  rw [if_pos scalars, back]
  rfl

/-- ASCII characters are as many octets. -/
lemma size_of_ascii {cs : List Char} (h : ∀ c ∈ cs, c.toNat < 0x80) : size cs = cs.length := by
  induction cs with
  | nil => rfl
  | cons c cs ih =>
    have rest := ih fun d hd => h d (List.mem_cons_of_mem c hd)
    have one : (encodeCode c.toNat).length = 1 := by
      rw [encodeCode, if_pos (h c List.mem_cons_self)]; rfl
    have e : encode (c :: cs) = encodeCode c.toNat ++ encode cs := List.flatMap_cons
    unfold size at rest ⊢
    rw [e, List.length_append, one, rest, List.length_cons, Nat.add_comm]

end SignIn.Text.Utf8

namespace SignIn.Base64

open Text

/-- What holds of every digit of the alphabet: its value, that it is no padding and no point, and
that it is one octet. -/
lemma digit_spec {n : Nat} (h : n < 64) :
    value? (digit n) = some n ∧ digit n ≠ '=' ∧ digit n ≠ '.' ∧ (digit n).toNat < 0x80 := by
  have all : ∀ m < 64, value? (digit m) = some m ∧ digit m ≠ '=' ∧ digit m ≠ '.' ∧
      (digit m).toNat < 0x80 := by decide
  exact all n h

/-- Reading a digit takes its value into the group. -/
lemma decodeFrom_digit {g : Group} {n : Nat} (h : n < 64) (cs : List Char) :
    decodeFrom g (digit n :: cs) =
      match g.take n with
      | (none, g) => decodeFrom g cs
      | (some b, g) => (decodeFrom g cs).map (b :: ·) := by
  obtain ⟨value, notPad, _, _⟩ := digit_spec h
  cases taken : g.take n with
  | mk out g' =>
    cases out with
    | none => simp only [decodeFrom, if_neg notPad, value, taken]
    | some b => simp only [decodeFrom, if_neg notPad, value, taken]

/-- Every character of an encoded text is a digit. -/
lemma exists_digit_of_mem_encode {bs : List UInt8} {c : Char} (h : c ∈ encode bs) :
    ∃ n < 64, c = digit n := by
  induction bs using encode.induct with
  | case1 => cases h
  | case2 a =>
    have ha := a.toNat_lt
    simp only [encode, List.mem_cons, List.not_mem_nil, or_false] at h
    obtain rfl | rfl := h
    · exact ⟨_, by omega, rfl⟩
    · exact ⟨_, by omega, rfl⟩
  | case3 a b =>
    have ha := a.toNat_lt
    have hb := b.toNat_lt
    simp only [encode, List.mem_cons, List.not_mem_nil, or_false] at h
    obtain rfl | rfl | rfl := h
    · exact ⟨_, by omega, rfl⟩
    · exact ⟨_, by omega, rfl⟩
    · exact ⟨_, by omega, rfl⟩
  | case4 a b c' rest ih =>
    have ha := a.toNat_lt
    have hb := b.toNat_lt
    have hc := c'.toNat_lt
    simp only [encode, List.mem_cons] at h
    obtain rfl | rfl | rfl | rfl | h := h
    · exact ⟨_, by omega, rfl⟩
    · exact ⟨_, by omega, rfl⟩
    · exact ⟨_, by omega, rfl⟩
    · exact ⟨_, by omega, rfl⟩
    · exact ih h

/-- There is no point in what is written in Base64. -/
lemma point_notMem_encode (bs : List UInt8) : '.' ∉ encode bs := by
  intro h
  obtain ⟨n, hn, e⟩ := exists_digit_of_mem_encode h
  exact (digit_spec hn).2.2.1 e.symm

/-- What is written in Base64 has as many octets as characters. -/
lemma size_encode (bs : List UInt8) : Utf8.size (encode bs) = (encode bs).length := by
  apply Utf8.size_of_ascii
  intro c h
  obtain ⟨n, hn, rfl⟩ := exists_digit_of_mem_encode h
  exact (digit_spec hn).2.2.2

/-- Four characters more need the same padding. -/
lemma padding_add_four (n : Nat) : padding (n + 4) = padding n := by
  unfold padding
  rw [Nat.add_mod_right]

/-- An octet is that of its number. -/
lemma ofNat_eq {b : UInt8} {n : Nat} (h : n = b.toNat) : UInt8.ofNat n = b := by
  rw [h, UInt8.ofNat_toNat]

/-- Two octets at the end are read from three digits, which leave the group open. -/
lemma decodeFrom_pair (a b : UInt8) (cs : List Char) :
    decodeFrom .fresh (digit (a.toNat / 4) :: digit (a.toNat % 4 * 16 + b.toNat / 16) ::
        digit (b.toNat % 16 * 4) :: cs) =
      (decodeFrom ⟨3, b.toNat % 16 * 4 % 4, 0⟩ cs).map fun bs => a :: b :: bs := by
  have ha := a.toNat_lt
  have hb := b.toNat_lt
  rw [decodeFrom_digit (by omega)]
  simp only [Group.take, Group.fresh]
  rw [decodeFrom_digit (by omega)]
  simp only [Group.take]
  rw [decodeFrom_digit (by omega)]
  simp only [Group.take]
  rw [ofNat_eq (b := a) (by omega), ofNat_eq (b := b) (by omega), Option.map_map]
  rfl

/-- Three octets are read from the four digits of a group. -/
lemma decodeFrom_triple (a b c : UInt8) (cs : List Char) :
    decodeFrom .fresh (digit (a.toNat / 4) :: digit (a.toNat % 4 * 16 + b.toNat / 16) ::
        digit (b.toNat % 16 * 4 + c.toNat / 64) :: digit (c.toNat % 64) :: cs) =
      (decodeFrom .fresh cs).map fun bs => a :: b :: c :: bs := by
  have ha := a.toNat_lt
  have hb := b.toNat_lt
  have hc := c.toNat_lt
  rw [decodeFrom_digit (by omega)]
  simp only [Group.take, Group.fresh]
  rw [decodeFrom_digit (by omega)]
  simp only [Group.take]
  rw [decodeFrom_digit (by omega)]
  simp only [Group.take]
  rw [decodeFrom_digit (by omega)]
  simp only [Group.take]
  rw [ofNat_eq (b := a) (by omega), ofNat_eq (b := b) (by omega), ofNat_eq (b := c) (by omega),
    Option.map_map, Option.map_map]
  rfl

/-- The digits of a sequence of octets, followed by their padding, read back as the octets. -/
lemma decodeFrom_encode (bs : List UInt8) :
    decodeFrom .fresh (encode bs ++ List.replicate (padding (encode bs).length) '=') = some bs := by
  induction bs using encode.induct with
  | case1 => rfl
  | case2 a =>
    have ha := a.toNat_lt
    simp only [encode, List.cons_append, List.nil_append]
    rw [decodeFrom_digit (by omega)]
    simp only [Group.take, Group.fresh]
    rw [decodeFrom_digit (by omega)]
    simp only [Group.take]
    rw [ofNat_eq (b := a) (by omega)]
    rfl
  | case3 a b =>
    simp only [encode, List.cons_append, List.nil_append]
    rw [decodeFrom_pair]
    rfl
  | case4 a b c rest ih =>
    simp only [encode, List.cons_append, List.length_cons]
    rw [padding_add_four, decodeFrom_triple, ih]
    rfl

/-- The padding that completes the last two of a sequence of octets ends them: what stands behind it
is not read. -/
lemma decodeFrom_encode_pad {bs : List UInt8} (pair : bs.length % 3 = 2) (rest : List Char) :
    decodeFrom .fresh (encode bs ++ '=' :: rest) = some bs := by
  induction bs using encode.induct with
  | case1 => cases pair
  | case2 a => cases pair
  | case3 a b =>
    simp only [encode, List.cons_append, List.nil_append]
    rw [decodeFrom_pair]
    rfl
  | case4 a b c more ih =>
    have fewer : more.length % 3 = 2 := by
      simp only [List.length_cons] at pair
      omega
    simp only [encode, List.cons_append]
    rw [decodeFrom_triple, ih fewer]
    rfl

/-- Decoding the text of octets gives the octets. -/
lemma decode?_encode (bs : List UInt8) : decode? (encode bs) = some bs := by
  rw [decode?, size_encode, decodeFrom_encode]

end SignIn.Base64
