import Mathlib.Tactic.Lemma
import SignIn.Json.Printer
import SignIn.Json.Reader
import SignIn.Proofs.Octets
import SignIn.Text.Encoding

/-!
# Printed JSON reads back

A value without binary numbers is read from its own text: `read_print`. The writer escapes
everything beyond ASCII as UTF-16 units and the reader joins them again, so strings are treated unit
by unit; numerals, arrays and objects are treated with an arbitrary text behind them, which is what
the induction over the value needs. The readings that keep a whole text and make a numeral a number
do not differ here, so one proof serves what is stored and what is sent.
-/

namespace SignIn

/-- What a function of a result gives was made of a result. -/
lemma exists_of_map_ok {ε α β : Type} {x : Except ε α} {f : α → β} {v : β}
    (told : x.map f = .ok v) : ∃ u, x = .ok u ∧ f u = v := by
  cases x with
  | ok u => exact ⟨u, rfl, Except.ok.inj told⟩
  | error e => cases told

/-- What follows a result gives was made from that result. -/
lemma exists_of_bind_ok {ε α β : Type} {x : Except ε α} {f : α → Except ε β} {v : β}
    (told : x >>= f = .ok v) : ∃ u, x = .ok u ∧ f u = .ok v := by
  cases x with
  | ok u => exact ⟨u, rfl, told⟩
  | error e => cases told

end SignIn

namespace SignIn.Text.Utf16

/-- The units of a code point that is no surrogate are joined to it. -/
lemma join_unitsOf {n : Nat} (scalar : Utf8.isScalar n = true) (ns : List Nat) :
    join (unitsOf n ++ ns) = n :: join ns := by
  simp only [Utf8.isScalar, Bool.or_eq_true, Bool.and_eq_true, decide_eq_true_eq] at scalar
  unfold unitsOf
  split
  · have notHigh : isHigh n = false := by
      simp only [isHigh, Bool.and_eq_false_iff, decide_eq_false_iff_not]
      omega
    cases ns with
    | nil => rfl
    | cons low ns =>
      rw [List.cons_append, List.nil_append, join, notHigh]
      rfl
  · have high : isHigh (0xD800 + (n - 0x10000) / 0x400) = true := by
      simp only [isHigh, Bool.and_eq_true, decide_eq_true_eq]
      omega
    have low : isLow (0xDC00 + (n - 0x10000) % 0x400) = true := by
      simp only [isLow, Bool.and_eq_true, decide_eq_true_eq]
      omega
    have whole : 0x10000 + (0xD800 + (n - 0x10000) / 0x400 - 0xD800) * 0x400 +
        (0xDC00 + (n - 0x10000) % 0x400 - 0xDC00) = n := by
      omega
    rw [List.cons_append, List.cons_append, List.nil_append, join, high, low, whole]
    rfl

/-- The units of characters join to their code points. -/
lemma join_units (cs : List Char) :
    join (cs.flatMap fun c => unitsOf c.toNat) = cs.map Char.toNat := by
  induction cs with
  | nil => rfl
  | cons c cs ih => rw [List.flatMap_cons, join_unitsOf (Utf8.isScalar_toNat c), ih, List.map_cons]

/-- A code point of a character is that character. -/
lemma charOf_toNat (c : Char) : charOf c.toNat = c := by
  rw [charOf, if_pos (Utf8.isScalar_toNat c), Char.ofNat_toNat]

/-- Nothing is replaced in a text. -/
lemma replaced_text (s : String) : replaced (s.toList.map Char.toNat) = s := by
  have chars : (s.toList.map Char.toNat).map charOf = s.toList := by
    rw [List.map_map]
    exact (List.map_congr_left fun c _ => charOf_toNat c).trans (List.map_id s.toList)
  rw [replaced, chars, String.ofList_toList]

/-- The units of a code point have sixteen bits. -/
lemma lt_of_mem_unitsOf {n u : Nat} (h : n < 0x110000) (hu : u ∈ unitsOf n) : u < 0x10000 := by
  unfold unitsOf at hu
  split at hu
  · obtain rfl := List.mem_singleton.1 hu
    assumption
  · simp only [List.mem_cons, List.not_mem_nil, or_false] at hu
    omega

end SignIn.Text.Utf16

namespace SignIn.SentText

end SignIn.SentText

namespace SignIn.Keyed

variable {κ α : Type} [DecidableEq κ]

/-- A new key is put behind the others. -/
lemma put_of_notMem {m : Keyed κ α} {k : κ} (v : α) (h : k ∉ m.map (·.1)) :
    put k v m = m ++ [(k, v)] := by
  induction m with
  | nil => rfl
  | cons e m ih =>
    obtain ⟨j, w⟩ := e
    simp only [List.map_cons, List.mem_cons, not_or] at h
    rw [put, if_neg fun e => h.1 e.symm, ih h.2, List.cons_append]

/-- Entries with distinct keys are kept as they are. -/
lemma ofEntries_eq_self {entries : List (κ × α)} (h : (entries.map (·.1)).Nodup) :
    ofEntries entries = entries := by
  suffices all : ∀ (es m : List (κ × α)), ((m ++ es).map (·.1)).Nodup →
      es.foldl (fun m e => put e.1 e.2 m) m = m ++ es from all entries [] h
  intro es
  induction es with
  | nil =>
    intro m _
    exact (List.append_nil m).symm
  | cons e es ih =>
    intro m nodup
    obtain ⟨k, v⟩ := e
    have fresh : k ∉ m.map (·.1) := by
      rw [List.map_append, List.map_cons, List.nodup_append] at nodup
      exact fun hk => nodup.2.2 k hk k List.mem_cons_self rfl
    show es.foldl (fun m e => put e.1 e.2 m) (put k v m) = m ++ (k, v) :: es
    rw [put_of_notMem v fresh, ih, List.append_assoc]
    · rfl
    · rwa [List.append_assoc]

end SignIn.Keyed

namespace SignIn.Json

open Text

/-! ## Strings -/

/-- Four digits of an escape are read as its unit. -/
lemma units_unitEscape {n start : Nat} (h : n < 0x10000) {tail : List Char} (ne : tail ≠ []) :
    units start (unitEscape n ++ tail) =
      (units start tail).map fun (ns, rest) => (n :: ns, rest) := by
  obtain ⟨e, more, rfl⟩ := List.exists_cons_of_ne_nil ne
  have read : ofHex? (toHex 4 n) = some n := ofHex?_toHex h
  show units start ('\\' :: 'u' :: hexDigit (n / 16 / 16 / 16 % 16) ::
    hexDigit (n / 16 / 16 % 16) :: hexDigit (n / 16 % 16) :: hexDigit (n % 16) :: e :: more) = _
  have unit : unit? (hexDigit (n / 16 / 16 / 16 % 16)) (hexDigit (n / 16 / 16 % 16))
      (hexDigit (n / 16 % 16)) (hexDigit (n % 16)) = some n := read
  rw [units]
  simp only [unit]

/-- Escaped units are read one by one. -/
lemma units_unitEscapes {us : List Nat} {start : Nat} (h : ∀ u ∈ us, u < 0x10000)
    {tail : List Char} (ne : tail ≠ []) :
    units start (us.flatMap unitEscape ++ tail) =
      (units start tail).map fun (ns, rest) => (us ++ ns, rest) := by
  induction us with
  | nil =>
    show units start tail = _
    cases units start tail <;> rfl
  | cons u us ih =>
    have ih := ih fun v hv => h v (List.mem_cons_of_mem u hv)
    have ne' : us.flatMap unitEscape ++ tail ≠ [] := List.append_ne_nil_of_right_ne_nil _ ne
    rw [List.flatMap_cons, List.append_assoc, units_unitEscape (h u List.mem_cons_self) ne', ih]
    cases units start tail <;> rfl

/-- A visible character that is neither a quote nor a backslash is one unit. -/
lemma units_plain {c : Char} {start : Nat} (quote : c ≠ '"') (escape : c ≠ '\\')
    (visible : 0x20 ≤ c.toNat) (tail : List Char) :
    units start (c :: tail) = (units start tail).map fun (ns, rest) => (c.toNat :: ns, rest) := by
  rw [units, if_neg (by omega)]
  · exact quote
  · exact fun h _ => escape h
  · exact fun rest h _ => escape h
  · exact fun d rest h _ => escape h

/-- What is written for a character is read as its units. -/
lemma units_charText (c : Char) {start : Nat} {tail : List Char} (ne : tail ≠ []) :
    units start (charText c ++ tail) =
      (units start tail).map fun (ns, rest) => (Utf16.unitsOf c.toNat ++ ns, rest) := by
  unfold charText
  split
  · next h => subst h; rfl
  split
  · next h => subst h; rfl
  split
  · next h => subst h; rfl
  split
  · next h => subst h; rfl
  split
  · next h => subst h; rfl
  split
  · next h =>
    rw [h]
    rfl
  split
  · next h =>
    rw [h]
    rfl
  split
  · next quote escape _ _ _ _ _ visible =>
    have small : Utf16.unitsOf c.toNat = [c.toNat] := by rw [Utf16.unitsOf, if_pos (by omega)]
    rw [List.singleton_append, units_plain quote escape visible.1, small]
    rfl
  · exact units_unitEscapes (fun u hu => Utf16.lt_of_mem_unitsOf (Utf8.toNat_lt c) hu) ne

/-- What is written for a text is read as its units, up to the closing quote. -/
lemma units_text (cs : List Char) (start : Nat) (rest : List Char) :
    units start (cs.flatMap charText ++ '"' :: rest) =
      .ok (cs.flatMap fun c => Utf16.unitsOf c.toNat, rest) := by
  induction cs with
  | nil => rfl
  | cons c cs ih =>
    have ne : cs.flatMap charText ++ '"' :: rest ≠ [] :=
      List.append_ne_nil_of_right_ne_nil _ (List.cons_ne_nil _ _)
    rw [List.flatMap_cons, List.append_assoc, units_charText c ne, ih, List.flatMap_cons]
    rfl

/-- What is written for a text is read as that text. -/
lemma string_text (s : String) (rest : List Char) :
    string (s.toList.flatMap charText ++ '"' :: rest) = .ok (s, rest) := by
  rw [string, units_text]
  simp only [Except.map, Utf16.join_units, Utf16.replaced_text]

/-- A reading that makes a numeral a number and keeps a text that is whole. -/
structure Reading.Standard (r : Reading) : Prop where
  numeral : r.numeral = Lexeme.number
  string (s : String) : r.string (s.toList.map Char.toNat) = .str s

/-- Reading numbers is standard. -/
lemma Reading.standard_asNumbers : Reading.asNumbers.Standard :=
  ⟨rfl, fun s => congrArg Json.str (Utf16.replaced_text s)⟩

/-- The text does not go on with what could belong to a numeral in front of it. -/
def Stops (rest : List Char) : Prop :=
  ∀ c more, rest = c :: more → c.isDigit = false ∧ c ≠ '.' ∧ c ≠ 'e' ∧ c ≠ 'E'

/-- Where a numeral stops there are no more digits. -/
lemma dropWhile_of_stops {rest : List Char} (stops : Stops rest) :
    rest.takeWhile Char.isDigit = [] ∧ rest.dropWhile Char.isDigit = rest := by
  cases rest with
  | nil => exact ⟨rfl, rfl⟩
  | cons c more =>
    have h := (stops c more rfl).1
    rw [List.takeWhile_cons, List.dropWhile_cons, h]
    exact ⟨rfl, rfl⟩

/-- Where a numeral stops there is no exponent. -/
lemma exponent?_of_stops {rest : List Char} (stops : Stops rest) : exponent? rest = none := by
  cases rest with
  | nil => rfl
  | cons c more =>
    obtain ⟨_, _, lower, upper⟩ := stops c more rfl
    have noLetter : ¬ (c = 'e' ∨ c = 'E') := fun h => h.elim lower upper
    simp only [exponent?, noLetter, if_false]

/-- Where a numeral stops there is no fraction. -/
lemma fractionPart_of_stops {rest : List Char} (stops : Stops rest) :
    fractionPart rest = ([], rest) := by
  unfold fractionPart
  split
  · next c more => exact absurd rfl (stops '.' (c :: more) rfl).2.1
  · rfl

/-- The decimal digits of a number: digits, and no zero in front of others. -/
lemma toDigits_shape (n : Nat) :
    ∃ d ds, Nat.toDigits 10 n = d :: ds ∧ (∀ c ∈ d :: ds, c.isDigit = true) ∧
      (d = '0' → ds = []) := by
  have digits : ∀ c ∈ Nat.toDigits 10 n, c.isDigit = true := fun c hc =>
    Nat.isDigit_of_mem_toDigits (by decide) (by decide) hc
  obtain ⟨d, ds, e⟩ := List.exists_cons_of_ne_nil (Nat.toDigits_ne_nil (n := n) (b := 10))
  refine ⟨d, ds, e, e ▸ digits, fun zero => ?_⟩
  subst zero
  clear digits
  induction n using Nat.strongRecOn generalizing ds with
  | ind n ih =>
    by_cases small : n < 10
    · rw [Nat.toDigits_of_lt_base small] at e
      exact ((List.cons.inj e).2).symm
    · exfalso
      obtain ⟨c, cs, e'⟩ := List.exists_cons_of_ne_nil (Nat.toDigits_ne_nil (n := n / 10) (b := 10))
      rw [Nat.toDigits_of_base_le (by decide) (by omega), e', List.cons_append] at e
      obtain ⟨rfl, _⟩ := List.cons.inj e
      have alone := ih (n / 10) (by omega) cs e'
      have value := Nat.ofDigitChars_ten_toDigits (n := n / 10)
      rw [e', alone] at value
      simp only [Nat.ofDigitChars, List.foldl_cons, List.foldl_nil] at value
      have : n / 10 = 0 := by
        rw [← value]
        rfl
      omega

/-- The decimal digits of a number read back as the number. -/
lemma natOf_toDigits (n : Nat) : Lexeme.natOf (Nat.toDigits 10 n) = n := by
  have digits : ∀ c ∈ Nat.toDigits 10 n, c.isDigit = true := fun c hc =>
    Nat.isDigit_of_mem_toDigits (by decide) (by decide) hc
  suffices all : ∀ (cs : List Char) (m : Nat), (∀ c ∈ cs, c.isDigit = true) →
      (cs.filterMap asciiDecimal?).foldl (fun n d => 10 * n + d) m = Nat.ofDigitChars 10 cs m by
    rw [Lexeme.natOf, ofDecimalDigits, all _ 0 digits, Nat.ofDigitChars_ten_toDigits]
  intro cs
  induction cs with
  | nil =>
    intro m _
    rfl
  | cons c cs ih =>
    intro m h
    have value : asciiDecimal? c = some (c.toNat - '0'.toNat) := by
      rw [asciiDecimal?, if_pos (h c List.mem_cons_self)]
    rw [List.filterMap_cons, value]
    exact ih _ fun d hd => h d (List.mem_cons_of_mem c hd)

/-- The text of an integer is read as its numeral. -/
lemma lexeme?_intText (n : Int) {rest : List Char} (stops : Stops rest) :
    lexeme? (intText n ++ rest) =
      some (⟨n < 0, Nat.toDigits 10 n.natAbs, [], none⟩, rest) := by
  obtain ⟨d, ds, e, digits, zero⟩ := toDigits_shape n.natAbs
  have hd : d.isDigit = true := digits d List.mem_cons_self
  have hds : ∀ c ∈ ds, c.isDigit = true := fun c hc => digits c (List.mem_cons_of_mem d hc)
  have whole : wholePart d (ds ++ rest) = (d :: ds, rest) := by
    obtain ⟨none, all⟩ := dropWhile_of_stops stops
    unfold wholePart
    split
    · next h =>
      rw [zero h, h]
      rfl
    · rw [List.takeWhile_append_of_pos hds, List.dropWhile_append_of_pos hds, none, all,
        List.append_nil]
  have noMinus : minus (d :: (ds ++ rest)) = (false, d :: (ds ++ rest)) := by
    unfold minus
    split
    · next h =>
      obtain ⟨rfl, _⟩ := List.cons.inj h
      exact absurd hd (by decide)
    · rfl
  unfold intText
  split
  · next negative =>
    rw [e]
    simp only [List.cons_append, lexeme?, minus, hd, Bool.not_true, Bool.false_eq_true, if_false,
      whole, fractionPart_of_stops stops, exponent?_of_stops stops, negative, decide_true]
  · next negative =>
    rw [e]
    simp only [List.cons_append, lexeme?, noMinus, hd, Bool.not_true, Bool.false_eq_true, if_false,
      whole, fractionPart_of_stops stops, exponent?_of_stops stops, negative, decide_false]

/-! ## Values -/

/-- A value that its text tells exactly, with `room` for nested arrays and objects: no number of it
is binary, no integer is too long to be read, and no object names a member twice. -/
inductive Exact : Nat → Json → Prop
  | null {room} : Exact room .null
  | bool {room b} : Exact room (.bool b)
  | int {room n} : (Nat.toDigits 10 n.natAbs).length ≤ Numeral.digitLimit → Exact room (.int n)
  | str {room s} : Exact room (.str s)
  | arr {room vs} : (∀ v ∈ vs, Exact room v) → Exact (room + 1) (.arr vs)
  | obj {room ms} : (ms.map (·.1)).Nodup → (∀ m ∈ ms, Exact room m.2) →
    Exact (room + 1) (.obj ms)

/-- Separators that have only spaces behind them. -/
structure Layout.Tidy (l : Layout) : Prop where
  comma : ∃ spaces, l.comma.toList = ',' :: spaces ∧ ∀ c ∈ spaces, isSpace c = true
  colon : ∃ spaces, l.colon.toList = ':' :: spaces ∧ ∀ c ∈ spaces, isSpace c = true

/-- The compact separators have no space behind them. -/
lemma Layout.compact_tidy : Layout.compact.Tidy :=
  ⟨⟨[], rfl, nofun⟩, ⟨[], rfl, nofun⟩⟩

/-- The spaced separators have one space behind them. -/
lemma Layout.spaced_tidy : Layout.spaced.Tidy := by
  have space : ∀ c ∈ [' '], isSpace c = true := by
    intro c mem
    rw [List.mem_singleton.1 mem]
    rfl
  exact ⟨⟨[' '], rfl, space⟩, ⟨[' '], rfl, space⟩⟩

/-- Spaces in front of a text are skipped. -/
lemma skipSpace_append {spaces : List Char} (h : ∀ c ∈ spaces, isSpace c = true) {c : Char}
    (notSpace : isSpace c = false) (more : List Char) :
    skipSpace (spaces ++ c :: more) = c :: more := by
  rw [skipSpace, List.dropWhile_append_of_pos h, List.dropWhile_cons, notSpace]
  rfl

/-- Nothing is skipped where no space is. -/
lemma skipSpace_cons {c : Char} (notSpace : isSpace c = false) (more : List Char) :
    skipSpace (c :: more) = c :: more :=
  @skipSpace_append [] nofun c notSpace more

/-- A digit is none of the characters that begin other values or end arrays and objects. -/
lemma isDigit_spec {d : Char} (h : d.isDigit = true) :
    isSpace d = false ∧ d ≠ '"' ∧ d ≠ '[' ∧ d ≠ '\x7b' ∧ d ≠ ']' ∧ d ≠ '\x7d' ∧ d ≠ 'n' ∧ d ≠ 't' ∧
      d ≠ 'f' ∧ d ≠ 'N' ∧ d ≠ 'I' ∧ d ≠ '-' := by
  refine ⟨?_, ?_, ?_, ?_, ?_, ?_, ?_, ?_, ?_, ?_, ?_, ?_⟩
  · cases e : isSpace d with
    | false => rfl
    | true =>
      simp only [isSpace, Bool.or_eq_true, beq_iff_eq] at e
      obtain ((rfl | rfl) | rfl) | rfl := e
      · exact absurd h (by decide)
      · exact absurd h (by decide)
      · exact absurd h (by decide)
      · exact absurd h (by decide)
  all_goals
    rintro rfl
    exact absurd h (by decide)

/-- The text of an integer begins with a minus before a digit or with a digit. -/
lemma intText_shape (n : Int) :
    ∃ d ds, d.isDigit = true ∧ (intText n = '-' :: d :: ds ∨ intText n = d :: ds) := by
  obtain ⟨d, ds, e, digits, _⟩ := toDigits_shape n.natAbs
  refine ⟨d, ds, digits d List.mem_cons_self, ?_⟩
  unfold intText
  split
  · exact .inl (by rw [e])
  · exact .inr e

/-- The text of an exact value begins with a character that neither is white space nor ends an
array or an object. -/
lemma print_shape {l : Layout} {room : Nat} {v : Json} (told : Exact room v) :
    ∃ c more, print l v = c :: more ∧ isSpace c = false ∧ c ≠ ']' ∧ c ≠ '\x7d' := by
  cases told with
  | null => exact ⟨'n', _, rfl, rfl, by decide, by decide⟩
  | @bool _ b =>
    cases b with
    | false => exact ⟨'f', _, rfl, rfl, by decide, by decide⟩
    | true => exact ⟨'t', _, rfl, rfl, by decide, by decide⟩
  | @int _ n _ =>
    obtain ⟨d, ds, digit, e | e⟩ := intText_shape n
    · exact ⟨'-', _, e, rfl, by decide, by decide⟩
    · obtain ⟨space, _, _, _, bracket, brace, _⟩ := isDigit_spec digit
      exact ⟨d, ds, e, space, bracket, brace⟩
  | @str _ s => exact ⟨'"', _, rfl, rfl, by decide, by decide⟩
  | arr _ => exact ⟨'[', _, rfl, rfl, by decide, by decide⟩
  | obj _ _ => exact ⟨'\x7b', _, rfl, rfl, by decide, by decide⟩

/-- The reader looks at the first character of an integer's text before it tries a number. -/
lemma value_intText (r : Reading) (fuel room : Nat) (n : Int) (rest : List Char) :
    value r (fuel + 1) room (intText n ++ rest) = scalar r (intText n ++ rest) := by
  obtain ⟨d, ds, digit, e | e⟩ := intText_shape n
  · rw [e]
    rfl
  · obtain ⟨_, quote, bracket, brace, _⟩ := isDigit_spec digit
    rw [e, List.cons_append, value]
    · exact fun _ h => quote (List.cons.inj h).1
    · exact fun _ h => bracket (List.cons.inj h).1
    · exact fun _ h => brace (List.cons.inj h).1

/-- No word of the reader begins as an integer does. -/
lemma scalar_intText (r : Reading) (n : Int) {rest : List Char} (stops : Stops rest) :
    scalar r (intText n ++ rest) =
      (r.numeral ⟨n < 0, Nat.toDigits 10 n.natAbs, [], none⟩).map (·, rest) := by
  have lexeme := lexeme?_intText n stops
  obtain ⟨d, ds, digit, e⟩ := intText_shape n
  obtain ⟨_, _, _, _, _, _, n', t, f, N, I, minus⟩ := isDigit_spec digit
  rw [scalar.eq_def]
  obtain e | e := e
  · rw [e] at lexeme ⊢
    split
    · next h => cases h
    · next h => cases h
    · next h => cases h
    · next h => cases h
    · next h => cases h
    · next h =>
      obtain ⟨_, h⟩ := List.cons.inj h
      exact absurd (List.cons.inj h).1 I
    · rw [lexeme]
  · rw [e] at lexeme ⊢
    split
    · next h => exact absurd (List.cons.inj h).1 n'
    · next h => exact absurd (List.cons.inj h).1 t
    · next h => exact absurd (List.cons.inj h).1 f
    · next h => exact absurd (List.cons.inj h).1 N
    · next h => exact absurd (List.cons.inj h).1 I
    · next h => exact absurd (List.cons.inj h).1 minus
    · rw [lexeme]

/-- A numeral with few enough digits is the integer that it was written for. -/
lemma number_short {n : Int} (short : (Nat.toDigits 10 n.natAbs).length ≤ Numeral.digitLimit) :
    Lexeme.number ⟨n < 0, Nat.toDigits 10 n.natAbs, [], none⟩ = .ok (.int n) := by
  have signed : Numeral.signed (decide (n < 0)) n.natAbs = n := by
    unfold Numeral.signed
    split
    · next h =>
      have := of_decide_eq_true h
      omega
    · next h =>
      have := of_decide_eq_false (Bool.not_eq_true _ ▸ h)
      omega
  simp only [Lexeme.number, Lexeme.isInteger, List.isEmpty_nil, Option.isNone_none, Bool.and_self,
    if_true, natOf_toDigits, signed]
  rw [if_neg (Nat.not_lt.2 short)]

/-- The reader takes a value from its text, whatever stops behind it. -/
def ReadsBack (r : Reading) (l : Layout) (room : Nat) (v : Json) : Prop :=
  ∀ fuel rest, 2 * (print l v).length ≤ fuel + 1 → Stops rest →
    value r (fuel + 1) room (print l v ++ rest) = .ok (v, rest)

/-- A printed list of values begins as a value does. -/
lemma printItems_shape {l : Layout} {room : Nat} {v : Json} (told : Exact room v)
    (vs : List Json) :
    ∃ c more, printItems l (v :: vs) = c :: more ∧ isSpace c = false ∧ c ≠ ']' := by
  obtain ⟨c, more, e, space, bracket, _⟩ := print_shape (l := l) told
  cases vs with
  | nil => exact ⟨c, more, by rw [printItems, e], space, bracket⟩
  | cons v' vs =>
    refine ⟨c, more ++ l.comma.toList ++ printItems l (v' :: vs), ?_, space, bracket⟩
    rw [printItems.eq_3 l v (v' :: vs) nofun, e]
    rfl

/-- A printed list of members begins with a quote. -/
lemma printMembers_shape (l : Layout) (m : String × Json) (ms : List (String × Json)) :
    ∃ more, printMembers l (m :: ms) = '"' :: more := by
  obtain ⟨name, v⟩ := m
  cases ms with
  | nil =>
    rw [printMembers]
    exact ⟨_, rfl⟩
  | cons m' ms =>
    rw [printMembers.eq_3 l name v (m' :: ms) nofun]
    exact ⟨_, rfl⟩

/-- No value is printed as the empty text. -/
lemma length_print_pos {l : Layout} {room : Nat} {v : Json} (told : Exact room v) :
    0 < (print l v).length := by
  obtain ⟨c, more, e, _⟩ := print_shape (l := l) told
  rw [e]
  exact Nat.succ_pos _

/-- A numeral stops before a comma and before a closing bracket. -/
lemma stops_cons {c : Char} (h : c = ',' ∨ c = ']' ∨ c = '\x7d') (more : List Char) :
    Stops (c :: more) := by
  intro c' more' e
  obtain ⟨rfl, _⟩ := List.cons.inj e
  obtain rfl | rfl | rfl := h
  · decide
  · decide
  · decide

/-- Items are read from their text up to the closing bracket. -/
lemma items_printItems {r : Reading} {l : Layout} (tidy : l.Tidy) {room : Nat} {vs : List Json}
    (told : ∀ v ∈ vs, Exact room v) (ih : ∀ v ∈ vs, ReadsBack r l room v) (ne : vs ≠ [])
    (fuel : Nat) (enough : 2 * (printItems l vs).length + 1 ≤ fuel) (rest : List Char) :
    items r fuel room (printItems l vs ++ ']' :: rest) = .ok (vs, rest) := by
  induction vs generalizing fuel with
  | nil => exact absurd rfl ne
  | cons v vs step =>
    have first : ReadsBack r l room v := ih v List.mem_cons_self
    have pos := length_print_pos (l := l) (told v List.mem_cons_self)
    cases vs with
    | nil =>
      rw [printItems] at enough ⊢
      obtain ⟨fuel, rfl⟩ : ∃ k, fuel = k + 2 := ⟨fuel - 2, by omega⟩
      have read := first fuel (']' :: rest) (by omega) (stops_cons (.inr (.inl rfl)) rest)
      rw [items, read]
      rfl
    | cons v' vs =>
      -- one step of fuel is for the item and one for the comma
      obtain ⟨spaces, comma, space⟩ := tidy.comma
      have told' : ∀ u ∈ v' :: vs, Exact room u := fun u hu =>
        told u (List.mem_cons_of_mem v hu)
      rw [printItems.eq_3 l v (v' :: vs) nofun, comma] at enough ⊢
      simp only [List.length_append, List.length_cons] at enough
      obtain ⟨fuel, rfl⟩ : ∃ k, fuel = k + 2 := ⟨fuel - 2, by omega⟩
      rw [List.append_assoc, List.append_assoc, List.cons_append]
      have read := first fuel (',' :: (spaces ++ (printItems l (v' :: vs) ++ ']' :: rest)))
        (by omega) (stops_cons (.inl rfl) _)
      have skip : skipSpace (spaces ++ (printItems l (v' :: vs) ++ ']' :: rest)) =
          printItems l (v' :: vs) ++ ']' :: rest := by
        obtain ⟨c, more, e, notSpace, _⟩ :=
          printItems_shape (l := l) (told' v' List.mem_cons_self) vs
        rw [e, List.cons_append, skipSpace_append space notSpace]
      have more := step told' (fun u hu => ih u (List.mem_cons_of_mem v hu)) (List.cons_ne_nil _ _)
        (fuel + 1) (by omega)
      rw [items, read]
      simp only [bind, Except.bind, skipSpace_cons (show isSpace ',' = false from rfl), skip, more]
      rfl

/-- A member's name and colon are read from their text, with the spaces behind the colon. -/
lemma memberName_text {l : Layout} (tidy : l.Tidy) {room : Nat} {v : Json} (told : Exact room v)
    (name : String) (rest : List Char) :
    memberName (stringText name ++ l.colon.toList ++ print l v ++ rest) =
      .ok (name, print l v ++ rest) := by
  obtain ⟨spaces, colon, space⟩ := tidy.colon
  have skip : skipSpace (spaces ++ (print l v ++ rest)) = print l v ++ rest := by
    obtain ⟨c, more, e, notSpace, _⟩ := print_shape (l := l) told
    rw [e, List.cons_append, skipSpace_append space notSpace]
  have text : stringText name ++ l.colon.toList ++ print l v ++ rest =
      '"' :: (name.toList.flatMap charText ++ '"' :: ':' :: (spaces ++ (print l v ++ rest))) := by
    rw [colon, stringText]
    simp only [List.append_assoc, List.cons_append, List.nil_append]
  rw [text, memberName, string_text]
  simp only [bind, Except.bind, skipSpace_cons (show isSpace ':' = false from rfl), skip]
  rfl

/-- Members are read from their text up to the closing brace. -/
lemma members_printMembers {r : Reading} {l : Layout} (tidy : l.Tidy) {room : Nat}
    {ms : List (String × Json)}
    (told : ∀ m ∈ ms, Exact room m.2) (ih : ∀ m ∈ ms, ReadsBack r l room m.2) (ne : ms ≠ [])
    (fuel : Nat) (enough : 2 * (printMembers l ms).length + 1 ≤ fuel) (rest : List Char) :
    members r fuel room (printMembers l ms ++ '\x7d' :: rest) = .ok (ms, rest) := by
  induction ms generalizing fuel with
  | nil => exact absurd rfl ne
  | cons m ms step =>
    obtain ⟨name, v⟩ := m
    have first : ReadsBack r l room v := ih (name, v) List.mem_cons_self
    have toldV : Exact room v := told (name, v) List.mem_cons_self
    have pos := length_print_pos (l := l) toldV
    cases ms with
    | nil =>
      rw [printMembers] at enough ⊢
      simp only [List.length_append] at enough
      obtain ⟨fuel, rfl⟩ : ∃ k, fuel = k + 2 := ⟨fuel - 2, by omega⟩
      have read := first fuel ('\x7d' :: rest) (by omega) (stops_cons (.inr (.inr rfl)) rest)
      rw [members, memberName_text tidy toldV]
      simp only [bind, Except.bind, read]
      rfl
    | cons m' ms =>
      obtain ⟨spaces, comma, space⟩ := tidy.comma
      have told' : ∀ u ∈ m' :: ms, Exact room u.2 := fun u hu =>
        told u (List.mem_cons_of_mem (name, v) hu)
      rw [printMembers.eq_3 l name v (m' :: ms) nofun, comma] at enough ⊢
      simp only [List.length_append, List.length_cons] at enough
      obtain ⟨fuel, rfl⟩ : ∃ k, fuel = k + 2 := ⟨fuel - 2, by omega⟩
      rw [List.append_assoc, List.append_assoc, List.cons_append]
      have read := first fuel (',' :: (spaces ++ (printMembers l (m' :: ms) ++ '\x7d' :: rest)))
        (by omega) (stops_cons (.inl rfl) _)
      have skip : skipSpace (spaces ++ (printMembers l (m' :: ms) ++ '\x7d' :: rest)) =
          printMembers l (m' :: ms) ++ '\x7d' :: rest := by
        obtain ⟨more, e⟩ := printMembers_shape l m' ms
        rw [e, List.cons_append, skipSpace_append space rfl]
      have more := step told' (fun u hu => ih u (List.mem_cons_of_mem (name, v) hu))
        (List.cons_ne_nil _ _) (fuel + 1) (by omega)
      rw [members, memberName_text tidy toldV]
      simp only [bind, Except.bind, read, skipSpace_cons (show isSpace ',' = false from rfl), skip,
        more]
      rfl

/-- An exact value is read from its text, whatever stops behind it. -/
lemma Exact.readsBack {r : Reading} (plain : r.Standard) {l : Layout} (tidy : l.Tidy) {room : Nat}
    {v : Json} (told : Exact room v) : ReadsBack r l room v := by
  induction told with
  | null =>
    intro fuel rest _ _
    rfl
  | @bool room b =>
    intro fuel rest _ _
    cases b with
    | false => rfl
    | true => rfl
  | @int room n short =>
    intro fuel rest _ stops
    rw [print, value_intText, scalar_intText r n stops, plain.numeral, number_short short]
    rfl
  | @str room s =>
    intro fuel rest _ _
    have text : print l (.str s) ++ rest = '"' :: (s.toList.flatMap charText ++ '"' :: rest) := by
      rw [print, stringText]
      simp only [List.append_assoc, List.cons_append, List.nil_append]
    rw [text, value, units_text]
    simp only [Except.map, Utf16.join_units, plain.string]
  | @arr room vs told ih =>
    intro fuel rest enough _
    have text : print l (.arr vs) ++ rest = '[' :: (printItems l vs ++ ']' :: rest) := by
      rw [print]
      simp only [List.append_assoc, List.cons_append, List.nil_append]
    have size : (print l (.arr vs)).length = (printItems l vs).length + 2 := by
      rw [print]
      simp only [List.length_append, List.length_cons, List.length_nil]
    rw [text, value]
    cases vs with
    | nil => rfl
    | cons v vs =>
      have read := items_printItems tidy told ih (List.cons_ne_nil v vs) fuel (by omega)
        rest
      obtain ⟨c, more, e, notSpace, bracket⟩ :=
        printItems_shape (l := l) (told v List.mem_cons_self) vs
      rw [e, List.cons_append] at read ⊢
      rw [skipSpace_cons notSpace]
      split
      · next h => exact absurd (List.cons.inj h).1 bracket
      · rw [read]
        rfl
  | @obj room ms nodup told ih =>
    intro fuel rest enough _
    have text : print l (.obj ms) ++ rest = '\x7b' :: (printMembers l ms ++ '\x7d' :: rest) := by
      rw [print]
      simp only [List.append_assoc, List.cons_append, List.nil_append]
    have size : (print l (.obj ms)).length = (printMembers l ms).length + 2 := by
      rw [print]
      simp only [List.length_append, List.length_cons, List.length_nil]
    rw [text, value]
    cases ms with
    | nil => rfl
    | cons m ms =>
      have read := members_printMembers tidy told ih (List.cons_ne_nil m ms) fuel
        (by omega) rest
      obtain ⟨more, e⟩ := printMembers_shape l m ms
      have distinct : ofMembers (m :: ms) = .obj (m :: ms) := by
        rw [ofMembers, Keyed.ofEntries_eq_self nodup]
      rw [e, List.cons_append] at read ⊢
      rw [skipSpace_cons rfl]
      show (members r fuel room ('"' :: (more ++ '\x7d' :: rest))).map
        (fun p => (ofMembers p.1, p.2)) = _
      rw [read, ← distinct]
      rfl

/-- An exact value is read from its whole text. -/
lemma readWithin_print {r : Reading} (plain : r.Standard) {l : Layout} (tidy : l.Tidy) {room : Nat}
    {v : Json} (told : Exact room v) : readWithin r room (print l v) = .ok v := by
  have back := told.readsBack plain tidy (2 * (print l v).length + 1) [] (by omega) nofun
  obtain ⟨c, more, e, notSpace, _⟩ := print_shape (l := l) told
  have skip : skipSpace (print l v) = print l v := by
    rw [e, skipSpace_cons notSpace]
  rw [List.append_nil] at back
  rw [readWithin, skip, back]
  rfl

/-- An exact value is what is stored as its text. -/
lemma read_print {l : Layout} (tidy : l.Tidy) {v : Json} (told : Exact nestingLimit v) :
    read (print l v) = .ok v :=
  readWithin_print Reading.standard_asNumbers tidy told

end SignIn.Json

namespace SignIn.Text

/-! ## Documents -/

/-- A text of ASCII characters, none of them zero. -/
def IsAscii (cs : List Char) : Prop :=
  ∀ c ∈ cs, 0 < c.toNat ∧ c.toNat < 0x80

instance (cs : List Char) : Decidable (IsAscii cs) :=
  List.decidableBAll (fun c : Char => 0 < c.toNat ∧ c.toNat < 0x80) cs

/-- What is put together of ASCII texts is ASCII. -/
lemma IsAscii.append {cs ds : List Char} (hc : IsAscii cs) (hd : IsAscii ds) :
    IsAscii (cs ++ ds) := by
  intro c mem
  obtain mem | mem := List.mem_append.1 mem
  · exact hc c mem
  · exact hd c mem

/-- An ASCII character in front of ASCII is ASCII. -/
lemma IsAscii.cons {c : Char} {cs : List Char} (hc : 0 < c.toNat ∧ c.toNat < 0x80)
    (hs : IsAscii cs) : IsAscii (c :: cs) := by
  intro d mem
  obtain rfl | mem := List.mem_cons.1 mem
  · exact hc
  · exact hs d mem

/-- ASCII texts one after the other are ASCII. -/
lemma IsAscii.flatMap {α : Type} {xs : List α} {f : α → List Char} (h : ∀ x ∈ xs, IsAscii (f x)) :
    IsAscii (xs.flatMap f) := by
  intro c mem
  obtain ⟨x, there, mem⟩ := List.mem_flatMap.1 mem
  exact h x there c mem

/-- Hexadecimal digits are ASCII. -/
lemma IsAscii.toHex (width n : Nat) : IsAscii (toHex width n) := by
  have digit : ∀ m < 16, 0 < (hexDigit m).toNat ∧ (hexDigit m).toNat < 0x80 := by decide
  induction width generalizing n with
  | zero => exact nofun
  | succ width ih =>
    exact (ih (n / 16)).append (.cons (digit _ (Nat.mod_lt n (by decide))) nofun)

end SignIn.Text

namespace SignIn.Json

open Text

/-- A character is written in ASCII. -/
lemma ascii_charText (c : Char) : IsAscii (charText c) := by
  unfold charText
  split
  · decide
  split
  · decide
  split
  · decide
  split
  · decide
  split
  · decide
  split
  · decide
  split
  · decide
  split
  · next visible => exact .cons (by omega) nofun
  · exact .flatMap fun u _ => .cons (by decide) (.cons (by decide) (.toHex 4 u))

/-- A string is written in ASCII. -/
lemma ascii_stringText (s : String) : IsAscii (stringText s) :=
  .append (.cons (by decide) (.flatMap fun c _ => ascii_charText c)) (by decide)

/-- An integer is written in ASCII. -/
lemma ascii_intText (n : Int) : IsAscii (intText n) := by
  have digits : IsAscii (Nat.toDigits 10 n.natAbs) := by
    intro c mem
    have digit := Nat.isDigit_of_mem_toDigits (by decide) (by decide) mem
    simp only [Char.isDigit, Bool.and_eq_true, decide_eq_true_eq, ge_iff_le,
      UInt32.le_iff_toNat_le] at digit
    show 0 < c.val.toNat ∧ c.val.toNat < 0x80
    exact ⟨Nat.lt_of_lt_of_le (by decide) digit.1, Nat.lt_of_le_of_lt digit.2 (by decide)⟩
  unfold intText
  split
  · exact .cons (by decide) digits
  · exact digits

/-- Tidy separators are ASCII. -/
lemma Layout.Tidy.ascii {l : Layout} (tidy : l.Tidy) :
    IsAscii l.comma.toList ∧ IsAscii l.colon.toList := by
  have spaced {spaces : List Char} (h : ∀ c ∈ spaces, isSpace c = true) : IsAscii spaces := by
    intro c mem
    have space := h c mem
    simp only [isSpace, Bool.or_eq_true, beq_iff_eq] at space
    obtain ((rfl | rfl) | rfl) | rfl := space
    · decide
    · decide
    · decide
    · decide
  obtain ⟨_, comma, h⟩ := tidy.comma
  obtain ⟨_, colon, h'⟩ := tidy.colon
  rw [comma, colon]
  exact ⟨.cons (by decide) (spaced h), .cons (by decide) (spaced h')⟩

/-- Values that are printed in ASCII make a list that is. -/
lemma ascii_printItems {l : Layout} (tidy : l.Tidy) {vs : List Json}
    (h : ∀ v ∈ vs, IsAscii (print l v)) : IsAscii (printItems l vs) := by
  induction vs with
  | nil => exact nofun
  | cons v vs ih =>
    have first := h v List.mem_cons_self
    have rest := ih fun u mem => h u (.tail _ mem)
    cases vs with
    | nil => exact first
    | cons v' vs =>
      rw [printItems.eq_3 l v (v' :: vs) nofun]
      exact (first.append tidy.ascii.1).append rest

/-- Members that are printed in ASCII make a list that is. -/
lemma ascii_printMembers {l : Layout} (tidy : l.Tidy) {ms : List (String × Json)}
    (h : ∀ m ∈ ms, IsAscii (print l m.2)) : IsAscii (printMembers l ms) := by
  induction ms with
  | nil => exact nofun
  | cons m ms ih =>
    obtain ⟨name, v⟩ := m
    have first := ((ascii_stringText name).append tidy.ascii.2).append
      (h (name, v) List.mem_cons_self)
    have rest := ih fun u mem => h u (.tail _ mem)
    cases ms with
    | nil => exact first
    | cons m' ms =>
      rw [printMembers.eq_3 l name v (m' :: ms) nofun]
      exact (first.append tidy.ascii.1).append rest

/-- The text of an exact value is ASCII. -/
lemma Exact.ascii {l : Layout} (tidy : l.Tidy) {room : Nat} {v : Json} (told : Exact room v) :
    IsAscii (print l v) := by
  induction told with
  | null => exact show IsAscii "null".toList by decide
  | @bool _ b =>
    cases b with
    | false => exact show IsAscii "false".toList by decide
    | true => exact show IsAscii "true".toList by decide
  | @int _ n => exact ascii_intText n
  | @str _ s => exact ascii_stringText s
  | arr _ ih => exact (IsAscii.cons (by decide) (ascii_printItems tidy ih)).append (by decide)
  | obj _ _ ih =>
    exact (IsAscii.cons (by decide) (ascii_printMembers tidy ih)).append (by decide)

end SignIn.Json
