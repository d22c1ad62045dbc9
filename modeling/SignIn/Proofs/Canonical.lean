import Mathlib
import SignIn.Proofs.Payloads
import SignIn.Text.Split

/-!
# Canonical texts

Which texts an attempt id and a one-time code are read from, and what is kept of them. An id is read
from five groups of hexadecimal digits and kept as that text in lower case, although it goes through
a number in between: the digits of the number are those that it was read from (`ofHex?_inv`), and
the groups of the digits are those of the text (`unhyphenate?_inv`). A code is read from six digits
and is kept as it is.
-/

namespace SignIn

/-- A field is read as a value if it has a text that stands for the value, and only then. -/
lemma Field.read_eq_ok_iff {α : Type} {flaw : Flaw} {ofText? : String → Option α} {f : Field}
    {v : α} : Field.read flaw ofText? f = .ok v ↔ ∃ s, f = some s ∧ ofText? s = some v := by
  rw [← Option.bind_eq_some_iff, Field.read]
  cases f.bind ofText? with
  | none => simp
  | some u => simp

namespace Text

/-- A hexadecimal digit of the ASCII range, in either case. -/
def IsHexDigit (c : Char) : Prop :=
  ('0' ≤ c ∧ c ≤ '9') ∨ ('a' ≤ c ∧ c ≤ 'f') ∨ ('A' ≤ c ∧ c ≤ 'F')

instance (c : Char) : Decidable (IsHexDigit c) :=
  inferInstanceAs (Decidable (_ ∨ _))

/-- A character between two others is one of those counted from the first. -/
lemma exists_of_between {a b c : Char} (low : a ≤ c) (high : c ≤ b) :
    ∃ k < b.toNat - a.toNat + 1, c = Char.ofNat (a.toNat + k) := by
  have below : a.toNat ≤ c.toNat := low
  have above : c.toNat ≤ b.toNat := high
  refine ⟨c.toNat - a.toNat, by omega, ?_⟩
  rw [Nat.add_sub_cancel' below, Char.ofNat_toNat]

/-- A digit with a value is the digit of that value, but for its case. -/
lemma hexValue?_inv {c : Char} {d : Nat} (value : hexValue? c = some d) :
    IsHexDigit c ∧ d < 16 ∧ hexDigit d = c.toLower := by
  rw [hexValue?] at value
  split at value
  case isTrue decimal =>
    refine ⟨.inl decimal, ?_⟩
    obtain rfl := Option.some.inj value
    obtain ⟨k, small, rfl⟩ := exists_of_between decimal.1 decimal.2
    have all : ∀ k < 10, (Char.ofNat (48 + k)).toNat - 48 < 16 ∧
        hexDigit ((Char.ofNat (48 + k)).toNat - 48) = (Char.ofNat (48 + k)).toLower := by decide
    exact all k small
  case isFalse =>
    split at value
    case isTrue lower =>
      refine ⟨.inr (.inl lower), ?_⟩
      obtain rfl := Option.some.inj value
      obtain ⟨k, small, rfl⟩ := exists_of_between lower.1 lower.2
      have all : ∀ k < 6, (Char.ofNat (97 + k)).toNat - 97 + 10 < 16 ∧
          hexDigit ((Char.ofNat (97 + k)).toNat - 97 + 10) = (Char.ofNat (97 + k)).toLower := by
        decide
      exact all k small
    case isFalse =>
      split at value
      case isTrue upper =>
        refine ⟨.inr (.inr upper), ?_⟩
        obtain rfl := Option.some.inj value
        obtain ⟨k, small, rfl⟩ := exists_of_between upper.1 upper.2
        have all : ∀ k < 6, (Char.ofNat (65 + k)).toNat - 65 + 10 < 16 ∧
            hexDigit ((Char.ofNat (65 + k)).toNat - 65 + 10) = (Char.ofNat (65 + k)).toLower := by
          decide
        exact all k small
      case isFalse => cases value

/-- A hexadecimal digit has a value. -/
lemma IsHexDigit.value {c : Char} (digit : IsHexDigit c) : ∃ d, hexValue? c = some d := by
  rw [hexValue?]
  split
  case isTrue => exact ⟨_, rfl⟩
  case isFalse notDecimal =>
    split
    case isTrue => exact ⟨_, rfl⟩
    case isFalse notLower =>
      exact ⟨_, if_pos ((digit.resolve_left notDecimal).resolve_left notLower)⟩

/-- One more digit multiplies the number by sixteen and adds the digit. -/
lemma ofHex?_snoc (cs : List Char) (c : Char) :
    ofHex? (cs ++ [c]) = (ofHex? cs).bind fun n => (hexValue? c).map (16 * n + ·) := by
  rw [ofHex?, List.foldlM_append]
  simp only [List.foldlM_cons, List.foldlM_nil, bind_pure]
  rfl

/-- The digits of a number are those that it was read from, in lower case and with all zeros. -/
lemma ofHex?_inv {cs : List Char} {n : Nat} (read : ofHex? cs = some n) :
    (∀ c ∈ cs, IsHexDigit c) ∧ n < 16 ^ cs.length ∧
      toHex cs.length n = cs.map Char.toLower := by
  -- at the end of the list, where both the reader and the writer have the last digit
  induction cs using List.reverseRecOn generalizing n with
  | nil =>
    obtain rfl : 0 = n := Option.some.inj read
    exact ⟨List.forall_mem_nil _, Nat.one_pos, rfl⟩
  | append_singleton cs c ih =>
    rw [ofHex?_snoc] at read
    obtain ⟨m, front, last⟩ := Option.bind_eq_some_iff.1 read
    obtain ⟨d, value, rfl⟩ := Option.map_eq_some_iff.1 last
    obtain ⟨digits, small, text⟩ := ih front
    obtain ⟨digit, under, same⟩ := hexValue?_inv value
    refine ⟨?_, ?_, ?_⟩
    · intro x mem
      obtain mem | mem := List.mem_append.1 mem
      · exact digits x mem
      · obtain rfl := List.mem_singleton.1 mem
        exact digit
    · rw [List.length_append, List.length_singleton, Nat.pow_succ]
      omega
    · have quotient : (16 * m + d) / 16 = m := by omega
      have remainder : (16 * m + d) % 16 = d := by omega
      rw [List.length_append, List.length_singleton, toHex, quotient, remainder, text, same,
        List.map_append, List.map_singleton]

/-- Hexadecimal digits are a number. -/
lemma exists_ofHex? {cs : List Char} (digits : ∀ c ∈ cs, IsHexDigit c) :
    ∃ n, ofHex? cs = some n := by
  induction cs using List.reverseRecOn with
  | nil => exact ⟨0, rfl⟩
  | append_singleton cs c ih =>
    obtain ⟨n, front⟩ := ih fun x mem => digits x (List.mem_append_left [c] mem)
    obtain ⟨d, value⟩ := (digits c (List.mem_append_right cs (List.mem_singleton_self c))).value
    refine ⟨16 * n + d, ?_⟩
    rw [ofHex?_snoc, front, Option.bind_some, value, Option.map_some]

/-- The first of several parts is followed by a separator. -/
lemma joinWith_cons_cons (sep : Char) (part next : List Char) (parts : List (List Char)) :
    joinWith sep (part :: next :: parts) = part ++ sep :: joinWith sep (next :: parts) := by
  rw [joinWith, List.intercalate_cons_cons, List.append_assoc]
  rfl

/-- One part is joined to itself. -/
lemma joinWith_singleton (sep : Char) (part : List Char) : joinWith sep [part] = part :=
  List.intercalate_singleton

/-- Parts in lower case are joined in lower case. -/
lemma joinWith_toLower (parts : List (List Char)) :
    joinWith '-' (parts.map (·.map Char.toLower)) = (joinWith '-' parts).map Char.toLower := by
  induction parts with
  | nil => rfl
  | cons part parts ih =>
    cases parts with
    | nil => rw [List.map_singleton, joinWith_singleton, joinWith_singleton]
    | cons next parts =>
      rw [List.map_cons] at ih ⊢
      rw [List.map_cons, joinWith_cons_cons, ih, joinWith_cons_cons, List.map_append, List.map_cons]
      rfl

end Text

namespace AttemptId

/-- Five groups of hexadecimal digits of the sizes of an id, joined by single hyphens. -/
def IsWritten (s : String) : Prop :=
  ∃ groups : List (List Char), s.toList = Text.joinWith '-' groups ∧
    groups.map List.length = groupSizes ∧ ∀ g ∈ groups, ∀ c ∈ g, Text.IsHexDigit c

/-- Digits that are taken out of groups are hyphenated as these groups. -/
lemma hyphenate_flatten (groups : List (List Char)) :
    hyphenate (groups.map List.length) groups.flatten = Text.joinWith '-' groups := by
  induction groups with
  | nil => rfl
  | cons g groups ih =>
    cases groups with
    | nil =>
      rw [List.flatten_singleton, Text.joinWith_singleton]
      exact List.take_length
    | cons h groups =>
      have text : hyphenate ((g :: h :: groups).map List.length) (g :: h :: groups).flatten =
          (g ++ (h :: groups).flatten).take g.length ++ '-' ::
            hyphenate ((h :: groups).map List.length)
              ((g ++ (h :: groups).flatten).drop g.length) := rfl
      rw [text, List.take_left, List.drop_left, ih, Text.joinWith_cons_cons]

/-- Digits are taken out of groups of exactly the given sizes. -/
lemma unhyphenate?_inv {sizes : List Nat} {cs ds : List Char}
    (read : unhyphenate? sizes cs = some ds) :
    ∃ groups : List (List Char), groups.map List.length = sizes ∧
      cs = Text.joinWith '-' groups ∧ ds = groups.flatten := by
  induction sizes generalizing cs ds with
  | nil =>
    rw [unhyphenate?] at read
    split at read
    case isTrue empty => exact ⟨[], rfl, empty, (Option.some.inj read).symm⟩
    case isFalse => cases read
  | cons n sizes ih =>
    cases sizes with
    | nil =>
      rw [unhyphenate?] at read
      split at read
      case isTrue size =>
        obtain rfl := Option.some.inj read
        refine ⟨[cs], ?_, (Text.joinWith_singleton '-' cs).symm, List.flatten_singleton.symm⟩
        rw [List.map_singleton, size]
      case isFalse => cases read
    | cons m sizes =>
      rw [unhyphenate?.eq_def] at read
      dsimp only at read
      split at read
      case h_1 rest back =>
        obtain ⟨es, later, rfl⟩ := Option.map_eq_some_iff.1 read
        obtain ⟨groups, lengths, rfl, rfl⟩ := ih later
        cases groups with
        | nil => cases lengths
        | cons g groups =>
          refine ⟨cs.take n :: g :: groups, ?_, ?_, rfl⟩
          · -- the hyphen behind the group shows that the text is long enough for it
            have long : n < cs.length := by
              refine Nat.lt_of_not_le fun short => ?_
              rw [List.drop_eq_nil_of_le short] at back
              cases back
            rw [List.map_cons, lengths, List.length_take, Nat.min_eq_left (Nat.le_of_lt long)]
          · rw [Text.joinWith_cons_cons, ← back, List.take_append_drop]
      case h_2 => cases read

/-- An id is read from a written one only, and its text is that one in lower case. -/
lemma ofText?_inv {s : String} {a : AttemptId} (read : ofText? s = some a) :
    IsWritten s ∧ a.text = s.toLower := by
  obtain ⟨digits, taken, read⟩ := Option.bind_eq_some_iff.1 read
  obtain ⟨n, value, same⟩ := Option.bind_eq_some_iff.1 read
  obtain rfl := Option.some.inj same
  obtain ⟨groups, sizes, whole, rfl⟩ := unhyphenate?_inv taken
  obtain ⟨allHex, small, digits⟩ := Text.ofHex?_inv value
  have count : groups.flatten.length = 32 := by
    rw [List.length_flatten, sizes]
    rfl
  refine ⟨⟨groups, whole, sizes, ?_⟩, ?_⟩
  · intro g mem c inside
    exact allHex c (List.mem_flatten_of_mem mem inside)
  · rw [count] at small digits
    have kept : (BitVec.ofNat 128 n).toNat = n := by
      rw [BitVec.toNat_ofNat]
      exact Nat.mod_eq_of_lt small
    have lower : s.toLower.toList = s.toList.map Char.toLower := String.toList_map
    have sizesLower : (groups.map (·.map Char.toLower)).map List.length = groupSizes := by
      rw [List.map_map, ← sizes]
      exact List.map_congr_left fun g _ => List.length_map Char.toLower
    refine String.toList_inj.1 ?_
    calc (AttemptId.text ⟨BitVec.ofNat 128 n⟩).toList
        = hyphenate groupSizes (Text.toHex 32 n) := by
          rw [AttemptId.text, hex, String.toList_ofList, kept]
      _ = hyphenate groupSizes (groups.map (·.map Char.toLower)).flatten := by
          rw [digits, List.map_flatten]
      _ = Text.joinWith '-' (groups.map (·.map Char.toLower)) := by
          rw [← sizesLower, hyphenate_flatten]
      _ = s.toLower.toList := by
          rw [Text.joinWith_toLower, ← whole, lower]

/-- An id is read from every written one. -/
lemma IsWritten.ofText? {s : String} (written : IsWritten s) : ∃ a, ofText? s = some a := by
  obtain ⟨groups, whole, sizes, hex⟩ := written
  have digits : ∀ c ∈ groups.flatten, Text.IsHexDigit c := by
    intro c mem
    obtain ⟨g, member, inside⟩ := List.mem_flatten.1 mem
    exact hex g member c inside
  obtain ⟨n, value⟩ := Text.exists_ofHex? digits
  have size : groups.flatten.length = groupSizes.foldr (· + ·) 0 := by
    rw [List.length_flatten, sizes]
    rfl
  have taken : unhyphenate? groupSizes s.toList = some groups.flatten := by
    rw [whole, ← hyphenate_flatten, sizes]
    exact unhyphenate?_hyphenate (List.cons_ne_nil _ _) size
  refine ⟨⟨BitVec.ofNat 128 n⟩, ?_⟩
  rw [AttemptId.ofText?, taken, Option.bind_eq_bind, Option.bind_some, value]
  rfl

/-- An attempt is read exactly from a text that is written as one. -/
lemma exists_ofText?_iff {s : String} : (∃ a, ofText? s = some a) ↔ IsWritten s := by
  constructor
  · rintro ⟨a, read⟩
    exact (ofText?_inv read).1
  · exact IsWritten.ofText?

/-- The texts of an id are its own text in any letter case. -/
lemma ofText?_eq_some_iff {s : String} {a : AttemptId} :
    ofText? s = some a ↔ s.toLower = a.text :=
  ⟨fun read => (ofText?_inv read).2.symm, ofText?_of_toLower⟩

/-- A field is read as an attempt exactly if its text is. -/
lemma read_eq_ok_iff {s : String} {a : AttemptId} :
    read (some s) = .ok a ↔ ofText? s = some a := by
  rw [read, Field.read_eq_ok_iff]
  simp

/-- A field that is not written as an attempt is flawed. -/
lemma read_eq_error {s : String} (unwritten : ¬IsWritten s) : read (some s) = .error .attempt := by
  rw [read, Field.read, Option.bind_some]
  cases told : ofText? s with
  | none => rfl
  | some a => exact absurd (ofText?_inv told).1 unwritten

/-- An id is read from the written texts and from no others. It is kept as its text in lower case,
which reads back as the same id, and two texts are the same id exactly if they differ in case
only. -/
theorem read_canonical (s : String) :
    ((∃ a, read (some s) = .ok a) ↔ IsWritten s) ∧
      (¬IsWritten s → read (some s) = .error .attempt) ∧
      ∀ a, read (some s) = .ok a →
        a.text = s.toLower ∧ read (some a.text) = .ok a ∧
          ∀ t b, read (some t) = .ok b → (a = b ↔ s.toLower = t.toLower) := by
  simp only [read_eq_ok_iff]
  refine ⟨exists_ofText?_iff, read_eq_error, ?_⟩
  intro a told
  have text : a.text = s.toLower := (ofText?_inv told).2
  refine ⟨text, ofText?_text a, ?_⟩
  intro t b other
  have otherText : b.text = t.toLower := (ofText?_inv other).2
  rw [← text, ← otherText]
  constructor
  · intro same
    rw [same]
  · intro same
    have back := ofText?_text a
    rw [same, ofText?_text] at back
    exact (Option.some.inj back).symm

/-- Of the samples, upper case is read and lower case given back, and a number without hyphens is
refused. -/
theorem read_canonical_sample :
    (∃ a, read (some "0000ABCD-0000-4000-8000-00000000000F") = .ok a ∧
      a.text = "0000abcd-0000-4000-8000-00000000000f" ∧ read (some a.text) = .ok a ∧
      ∀ t b, read (some t) = .ok b →
        (a = b ↔ "0000abcd-0000-4000-8000-00000000000f" = t.toLower)) ∧
      ¬IsWritten "0000abcd00004000800000000000000f" ∧
      read (some "0000abcd00004000800000000000000f") = .error .attempt := by
  have lower : "0000ABCD-0000-4000-8000-00000000000F".toLower =
      "0000abcd-0000-4000-8000-00000000000f" := by cbv
  have told : read (some "0000ABCD-0000-4000-8000-00000000000F") =
      .ok ⟨0x0000abcd00004000800000000000000f⟩ := by cbv
  have bare : ofText? "0000abcd00004000800000000000000f" = none := by cbv
  have unwritten : ¬IsWritten "0000abcd00004000800000000000000f" := by
    intro written
    obtain ⟨a, read⟩ := written.ofText?
    cases bare.symm.trans read
  obtain ⟨text, again, same⟩ :=
    (read_canonical "0000ABCD-0000-4000-8000-00000000000F").2.2 _ told
  rw [lower] at text same
  exact ⟨⟨_, told, text, again, same⟩, unwritten, (read_canonical _).2.1 unwritten⟩

end AttemptId

namespace OneTimeCode

/-- Six decimal digits of the ASCII range. -/
def IsWritten (s : String) : Prop :=
  s.toList.length = 6 ∧ ∀ c ∈ s.toList, '0' ≤ c ∧ c ≤ '9'

instance (s : String) : Decidable (IsWritten s) :=
  inferInstanceAs (Decidable (_ ∧ _))

/-- A digit's value is below ten and is written as the digit. -/
lemma asciiDecimal?_inv {c : Char} {d : Nat} (value : Text.asciiDecimal? c = some d) :
    ('0' ≤ c ∧ c ≤ '9') ∧ d < 10 ∧ Text.digitChar d = c := by
  rw [Text.asciiDecimal?] at value
  split at value
  case isTrue decimal =>
    obtain rfl := Option.some.inj value
    have range : '0' ≤ c ∧ c ≤ '9' := by
      rw [Char.isDigit, Bool.and_eq_true, decide_eq_true_eq, decide_eq_true_eq] at decimal
      exact decimal
    obtain ⟨k, small, rfl⟩ := Text.exists_of_between range.1 range.2
    have all : ∀ k < 10, (Char.ofNat (48 + k)).toNat - 48 < 10 ∧
        Text.digitChar ((Char.ofNat (48 + k)).toNat - 48) = Char.ofNat (48 + k) := by decide
    exact ⟨range, all k small⟩
  case isFalse => cases value

/-- A decimal digit has a value. -/
lemma exists_asciiDecimal? {c : Char} (digit : '0' ≤ c ∧ c ≤ '9') :
    ∃ d, Text.asciiDecimal? c = some d := by
  refine ⟨_, if_pos ?_⟩
  rw [Char.isDigit, Bool.and_eq_true, decide_eq_true_eq, decide_eq_true_eq]
  exact digit

/-- The digits of a number are those that it was read from, with all zeros. -/
lemma mapM_asciiDecimal?_inv {cs : List Char} {ds : List Nat}
    (read : cs.mapM Text.asciiDecimal? = some ds) :
    (∀ c ∈ cs, '0' ≤ c ∧ c ≤ '9') ∧ ds.length = cs.length ∧
      Text.ofDecimalDigits ds < 10 ^ cs.length ∧
      decimals cs.length (Text.ofDecimalDigits ds) = cs := by
  induction cs using List.reverseRecOn generalizing ds with
  | nil =>
    obtain rfl : [] = ds := Option.some.inj read
    exact ⟨List.forall_mem_nil _, rfl, Nat.one_pos, rfl⟩
  | append_singleton cs c ih =>
    rw [List.mapM_append] at read
    obtain ⟨es, front, read⟩ := Option.bind_eq_some_iff.1 read
    obtain ⟨ls, last, same⟩ := Option.bind_eq_some_iff.1 read
    obtain rfl := Option.some.inj same
    rw [List.mapM_cons] at last
    obtain ⟨d, value, last⟩ := Option.bind_eq_some_iff.1 last
    obtain rfl : [d] = ls := Option.some.inj last
    obtain ⟨digits, size, small, text⟩ := ih front
    obtain ⟨digit, under, same⟩ := asciiDecimal?_inv value
    have number : Text.ofDecimalDigits (es ++ [d]) = 10 * Text.ofDecimalDigits es + d := by
      rw [Text.ofDecimalDigits, List.foldl_append]
      rfl
    rw [List.length_append, List.length_append, List.length_singleton, List.length_singleton,
      number]
    refine ⟨?_, congrArg (· + 1) size, ?_, ?_⟩
    · intro x mem
      obtain mem | mem := List.mem_append.1 mem
      · exact digits x mem
      · obtain rfl := List.mem_singleton.1 mem
        exact digit
    · rw [Nat.pow_succ]
      omega
    · have quotient : (10 * Text.ofDecimalDigits es + d) / 10 = Text.ofDecimalDigits es := by omega
      have remainder : (10 * Text.ofDecimalDigits es + d) % 10 = d := by omega
      rw [decimals, quotient, remainder, text, same]

/-- Decimal digits have values. -/
lemma exists_mapM_asciiDecimal? {cs : List Char} (digits : ∀ c ∈ cs, '0' ≤ c ∧ c ≤ '9') :
    ∃ ds, cs.mapM Text.asciiDecimal? = some ds := by
  induction cs with
  | nil => exact ⟨[], rfl⟩
  | cons c cs ih =>
    obtain ⟨d, value⟩ := exists_asciiDecimal? (digits c List.mem_cons_self)
    obtain ⟨ds, rest⟩ := ih fun x mem => digits x (List.mem_cons_of_mem c mem)
    refine ⟨d :: ds, ?_⟩
    rw [List.mapM_cons, value, rest]
    rfl

/-- A code is read from a written one only, and its text is that one. -/
lemma ofText?_inv {s : String} {c : OneTimeCode} (read : ofText? s = some c) :
    IsWritten s ∧ c.text = s := by
  obtain ⟨n, number, read⟩ := Option.bind_eq_some_iff.1 read
  obtain ⟨ds, each, number⟩ := Option.bind_eq_some_iff.1 number
  obtain ⟨digits, size, _, text⟩ := mapM_asciiDecimal?_inv each
  split at number
  case isTrue six =>
    obtain rfl := Option.some.inj number
    split at read
    case isTrue small =>
      obtain rfl := Option.some.inj read
      have length : s.toList.length = 6 := size.symm.trans six
      refine ⟨⟨length, digits⟩, String.toList_inj.1 ?_⟩
      rw [length] at text
      rw [OneTimeCode.text, String.toList_ofList, text]
    case isFalse => cases read
  case isFalse => cases number

/-- A code is read from every written one. -/
lemma IsWritten.ofText? {s : String} (written : IsWritten s) : ∃ c, ofText? s = some c := by
  obtain ⟨length, digits⟩ := written
  obtain ⟨ds, each⟩ := exists_mapM_asciiDecimal? digits
  obtain ⟨_, size, small, _⟩ := mapM_asciiDecimal?_inv each
  rw [length] at small
  have number : ofDigits? s.toList = some (Text.ofDecimalDigits ds) := by
    rw [ofDigits?, each]
    exact if_pos (size.trans length)
  refine ⟨⟨⟨_, small⟩⟩, ?_⟩
  rw [OneTimeCode.ofText?, number]
  exact dif_pos small

/-- A code is read from its own text and from no other. -/
lemma ofText?_eq_some_iff {s : String} {c : OneTimeCode} : ofText? s = some c ↔ s = c.text := by
  constructor
  · intro read
    exact (ofText?_inv read).2.symm
  · rintro rfl
    exact ofText?_text c

/-- The text of a code is written as one. -/
lemma isWritten_text (c : OneTimeCode) : IsWritten c.text :=
  (ofText?_inv (ofText?_text c)).1

end OneTimeCode

end SignIn
