import SignIn.Challenges.Payload
import SignIn.Proofs.JsonText

/-!
# Texts of challenges

An attempt id and a one-time code are read back from their texts, and so is a challenge from the
text that is stored for it. Comparing the stored texts therefore compares the challenges. An attempt
id is also read from its text in any letter case.
-/

namespace SignIn

namespace Text

/-- Lower case differs from a character for the capital letters of ASCII only. -/
lemma toLower_spec (c : Char) :
    c.toLower = c ∨ ∃ n < 26, c = Char.ofNat (65 + n) := by
  by_cases upper : c.val ≥ 'A'.val ∧ c.val ≤ 'Z'.val
  · have low : 65 ≤ c.toNat := upper.1
    have high : c.toNat ≤ 90 := upper.2
    refine .inr ⟨c.toNat - 65, by omega, ?_⟩
    rw [Nat.add_sub_cancel' low, Char.ofNat_toNat]
  · exact .inl (dif_neg upper)

/-- A hexadecimal digit has its value in either case. -/
lemma hexValue?_toLower (c : Char) : hexValue? c.toLower = hexValue? c := by
  obtain same | ⟨n, small, rfl⟩ := toLower_spec c
  · rw [same]
  · have all : ∀ n < 26,
        hexValue? (Char.ofNat (65 + n)).toLower = hexValue? (Char.ofNat (65 + n)) := by decide
    exact all n small

/-- Only a hyphen is one in lower case. -/
lemma toLower_eq_hyphen {c : Char} : c.toLower = '-' ↔ c = '-' := by
  obtain same | ⟨n, small, rfl⟩ := toLower_spec c
  · rw [same]
  · have all : ∀ n < 26, ((Char.ofNat (65 + n)).toLower = '-' ↔ Char.ofNat (65 + n) = '-') := by
      decide
    exact all n small

/-- Hexadecimal digits mean the same in lower case. -/
lemma ofHex?_toLower (cs : List Char) : ofHex? (cs.map Char.toLower) = ofHex? cs := by
  rw [ofHex?, ofHex?, List.foldlM_map]
  simp only [hexValue?_toLower]

end Text

namespace AttemptId

/-- Groups of digits are put together again. -/
lemma unhyphenate?_hyphenate {sizes : List Nat} (ne : sizes ≠ []) {cs : List Char}
    (size : cs.length = sizes.foldr (· + ·) 0) :
    unhyphenate? sizes (hyphenate sizes cs) = some cs := by
  induction sizes generalizing cs with
  | nil => exact absurd rfl ne
  | cons n sizes ih =>
    cases sizes with
    | nil =>
      rw [List.foldr_cons, List.foldr_nil, Nat.add_zero] at size
      rw [hyphenate, List.take_of_length_le (Nat.le_of_eq size), unhyphenate?, if_pos size]
    | cons m sizes =>
      rw [List.foldr_cons] at size
      have front : (cs.take n).length = n := by
        rw [List.length_take]
        omega
      have back : (cs.drop n).length = (m :: sizes).foldr (· + ·) 0 := by
        rw [List.length_drop]
        omega
      have rest := ih (List.cons_ne_nil m sizes) back
      have text : hyphenate (n :: m :: sizes) cs =
          cs.take n ++ '-' :: hyphenate (m :: sizes) (cs.drop n) := rfl
      have after : (cs.take n ++ '-' :: hyphenate (m :: sizes) (cs.drop n)).drop n =
          '-' :: hyphenate (m :: sizes) (cs.drop n) := List.drop_left' front
      have before : (cs.take n ++ '-' :: hyphenate (m :: sizes) (cs.drop n)).take n =
          cs.take n := List.take_left' front
      rw [text, unhyphenate?, after]
      simp only [rest, before, Option.map_some, List.take_append_drop]
      exact List.cons_ne_nil m sizes

/-- An id is read back from its text. -/
lemma ofText?_text (a : AttemptId) : ofText? a.text = some a := by
  have digits : unhyphenate? groupSizes (hyphenate groupSizes a.hex) = some a.hex :=
    unhyphenate?_hyphenate (List.cons_ne_nil _ _) (Text.length_toHex 32 _)
  have value : Text.ofHex? a.hex = some a.value.toNat := Text.ofHex?_toHex a.value.isLt
  rw [ofText?, text, String.toList_ofList, digits]
  simp only [Option.bind_eq_bind, Option.bind_some, value, BitVec.ofNat_toNat, BitVec.setWidth_eq]
  rfl

/-- Hyphens are taken out of a text in lower case as they are out of the text. -/
lemma unhyphenate?_toLower (sizes : List Nat) (cs : List Char) :
    unhyphenate? sizes (cs.map Char.toLower) =
      (unhyphenate? sizes cs).map (·.map Char.toLower) := by
  induction sizes generalizing cs with
  | nil =>
    rw [unhyphenate?, unhyphenate?]
    cases cs with
    | nil => rfl
    | cons c cs => rfl
  | cons n sizes ih =>
    cases sizes with
    | nil =>
      rw [unhyphenate?, unhyphenate?, List.length_map]
      split
      · rfl
      · rfl
    | cons m sizes =>
      rw [unhyphenate?, unhyphenate?, ← List.map_drop, ← List.map_take]
      · cases back : cs.drop n with
        | nil => rfl
        | cons c rest =>
          rw [List.map_cons]
          by_cases hyphen : c = '-'
          · subst hyphen
            show (unhyphenate? (m :: sizes) (rest.map Char.toLower)).map _ =
              Option.map _ (Option.map _ _)
            rw [ih, Option.map_map, Option.map_map]
            congr 1
            funext ds
            exact (List.map_append).symm
          · have other := mt Text.toLower_eq_hyphen.1 hyphen
            split
            · next same => exact absurd (List.cons.inj same).1 other
            · split
              · next same => exact absurd (List.cons.inj same).1 hyphen
              · rfl
      · nofun
      · nofun

/-- An id is read from its text in any letter case. -/
lemma ofText?_of_toLower {s : String} {a : AttemptId} (same : s.toLower = a.text) :
    ofText? s = some a := by
  have lower : ofText? s.toLower = ofText? s := by
    rw [ofText?, ofText?, show s.toLower.toList = s.toList.map Char.toLower from String.toList_map,
      unhyphenate?_toLower]
    cases unhyphenate? groupSizes s.toList with
    | none => rfl
    | some ds =>
      simp only [Option.map_some, Option.bind_eq_bind, Option.bind_some, Text.ofHex?_toLower]
  rw [← lower, same, ofText?_text]

end AttemptId

namespace OneTimeCode

/-- The decimals of a number that is small enough are digits, and read back as the number. -/
lemma mapM_decimals {width n : Nat} (small : n < Nat.pow 10 width) :
    ∃ ds, (decimals width n).mapM Text.asciiDecimal? = some ds ∧ ds.length = width ∧
      Text.ofDecimalDigits ds = n := by
  induction width generalizing n with
  | zero =>
    obtain rfl : n = 0 := Nat.lt_one_iff.1 small
    exact ⟨[], rfl, rfl, rfl⟩
  | succ width ih =>
    have wide : n < Nat.pow 10 width * 10 := small
    obtain ⟨ds, read, size, value⟩ := ih (n := n / 10) (Nat.div_lt_of_lt_mul (by omega))
    have last := Text.asciiDecimal?_digitChar (Nat.mod_lt n (show 0 < 10 by omega))
    refine ⟨ds ++ [n % 10], ?_, ?_, ?_⟩
    · rw [decimals, List.mapM_append, read]
      simp only [List.mapM_cons, List.mapM_nil, last, Option.bind_eq_bind, Option.bind_some,
        Option.pure_def]
    · rw [List.length_append, size, List.length_singleton]
    · rw [Text.ofDecimalDigits] at value ⊢
      rw [List.foldl_append, value, List.foldl_cons, List.foldl_nil]
      omega

/-- A code is read back from its text. -/
lemma ofText?_text (c : OneTimeCode) : ofText? c.text = some c := by
  obtain ⟨ds, read, size, value⟩ := @mapM_decimals 6 c.value c.value.isLt
  have digits : ofDigits? (decimals 6 c.value) = some c.value.val := by
    rw [ofDigits?, read]
    simp only [Option.bind_eq_bind, Option.bind_some, size, if_true, value, Option.pure_def]
  rw [ofText?, text, String.toList_ofList, digits]
  simp only [Option.bind_eq_bind, Option.bind_some, c.value.isLt, dif_pos, Option.pure_def]

end OneTimeCode

namespace Challenge

/-- What is stored for a challenge is exact wherever there is room for an array. -/
lemma exact_stored (c : Challenge) (room : Nat) :
    Json.Exact (room + 1) (.arr [.str c.attempt.text, .str c.code.text]) := by
  refine .arr ?_
  intro v h
  simp only [List.mem_cons, List.not_mem_nil, or_false] at h
  obtain rfl | rfl := h
  · exact .str
  · exact .str

/-- A challenge is read back from the text that is stored for it. -/
theorem ofPayload_payload (c : Challenge) : ofPayload c.payload = .ok c := by
  have parts : parts? (.arr [.str c.attempt.text, .str c.code.text]) =
      some [some c.attempt.text, some c.code.text] := rfl
  have attempt : AttemptId.read (some c.attempt.text) = .ok c.attempt := by
    rw [AttemptId.read, Field.read, Option.bind_some, AttemptId.ofText?_text]
  have code : OneTimeCode.read (some c.code.text) = .ok c.code := by
    rw [OneTimeCode.read, Field.read, Option.bind_some, OneTimeCode.ofText?_text]
  rw [ofPayload, payload, String.toList_ofList, Json.read_print Json.Layout.spaced_tidy
    (c.exact_stored _)]
  simp only [parts, ofFields, attempt, code]
  rfl

/-- Challenges that are stored as the same text are the same. -/
lemma payload_inj {c d : Challenge} : c.payload = d.payload ↔ c = d := by
  constructor
  · intro same
    have read := ofPayload_payload c
    rw [same, ofPayload_payload] at read
    exact (Except.ok.inj read).symm
  · intro same
    rw [same]

end Challenge

end SignIn
