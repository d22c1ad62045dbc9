import SignIn.Proofs.JsonText

/-!
# A grammar of pairs

What the texts of an array of two strings are, told by a grammar and not by the reader: strings as
what may stand between their quotes, and spaces wherever they may stand. The reader is shown to take
exactly these texts for such an array (`read_eq_pair_iff`). One direction takes a successful reading
apart, function by function; the other has the reader follow the grammar.
-/

namespace SignIn.Json

open Text

/-! ## Strings -/

/-- What stands between the quotes of a string, with the code units that it spells. -/
inductive Spells : List Char → List Nat → Prop
  | nil : Spells [] []
  | plain {c : Char} {cs : List Char} {ns : List Nat} (quote : c ≠ '"') (escape : c ≠ '\\')
      (visible : 0x20 ≤ c.toNat) (rest : Spells cs ns) : Spells (c :: cs) (c.toNat :: ns)
  | letter {c e : Char} {cs : List Char} {ns : List Nat} (known : escaped? c = some e)
      (rest : Spells cs ns) : Spells ('\\' :: c :: cs) (e.toNat :: ns)
  | unit {a b c d : Char} {n : Nat} {cs : List Char} {ns : List Nat}
      (digits : unit? a b c d = some n) (rest : Spells cs ns) :
      Spells ('\\' :: 'u' :: a :: b :: c :: d :: cs) (n :: ns)

/-- What is spelled in front of a quote is read up to that quote. -/
lemma Spells.units {body : List Char} {ns : List Nat} (spells : Spells body ns) (start : Nat)
    (rest : List Char) : units start (body ++ '"' :: rest) = .ok (ns, rest) := by
  induction spells with
  | nil => rfl
  | plain quote escape visible _ ih =>
    rw [List.cons_append, units_plain quote escape visible, ih]
    rfl
  | @letter c e cs ns known _ ih =>
    have other : c ≠ 'u' := by
      rintro rfl
      cases known
    rw [List.cons_append, List.cons_append, Json.units]
    · rw [known]
      simp only [ih]
      rfl
    · exact other
  | @unit a b c d n cs ns digits _ ih =>
    obtain ⟨e, more, same⟩ := List.exists_cons_of_ne_nil
      (List.append_ne_nil_of_right_ne_nil cs (List.cons_ne_nil '"' rest))
    show Json.units start ('\\' :: 'u' :: a :: b :: c :: d :: (cs ++ '"' :: rest)) = _
    rw [same] at ih ⊢
    rw [Json.units, digits]
    simp only [ih]
    rfl

/-- What is read up to a quote is spelled in front of it. -/
lemma spells_of_units {start : Nat} {cs rest : List Char} {ns : List Nat}
    (read : units start cs = .ok (ns, rest)) :
    ∃ body, Spells body ns ∧ cs = body ++ '"' :: rest := by
  fun_induction units start cs generalizing ns rest with
  | case1 => cases read
  | case2 more =>
    obtain ⟨rfl, rfl⟩ := Prod.mk.inj (Except.ok.inj read)
    exact ⟨[], .nil, rfl⟩
  | case3 => cases read
  | case4 a b c d e more n digits ih =>
    obtain ⟨⟨ms, after⟩, later, same⟩ := exists_of_map_ok read
    obtain ⟨rfl, rfl⟩ := Prod.mk.inj same
    obtain ⟨body, spells, split⟩ := ih later
    refine ⟨'\\' :: 'u' :: a :: b :: c :: d :: body, .unit digits spells, ?_⟩
    rw [split]
    rfl
  | case5 => cases read
  | case6 => cases read
  | case7 c more _ e known ih =>
    obtain ⟨⟨ms, after⟩, later, same⟩ := exists_of_map_ok read
    obtain ⟨rfl, rfl⟩ := Prod.mk.inj same
    obtain ⟨body, spells, split⟩ := ih later
    refine ⟨'\\' :: c :: body, .letter known spells, ?_⟩
    rw [split]
    rfl
  | case8 => cases read
  | case9 => cases read
  | case10 c more quote alone _ escape visible ih =>
    obtain ⟨⟨ms, after⟩, later, same⟩ := exists_of_map_ok read
    obtain ⟨rfl, rfl⟩ := Prod.mk.inj same
    obtain ⟨body, spells, split⟩ := ih later
    have plain : c ≠ '\\' := by
      intro backslash
      cases more with
      | nil => exact alone backslash rfl
      | cons d more => exact escape d more backslash rfl
    refine ⟨c :: body, .plain quote plain (Nat.le_of_not_lt visible) spells, ?_⟩
    rw [split]
    rfl

/-- What stands between the quotes of a string, with the text that it stands for. -/
def Quotes (body : List Char) (s : String) : Prop :=
  ∃ ns, Spells body ns ∧ s = Utf16.replaced (Utf16.join ns)

/-! ## Spaces -/

def Spaces (cs : List Char) : Prop :=
  ∀ c ∈ cs, isSpace c = true

/-- A text is some spaces and what is left when they are skipped. -/
lemma exists_spaces (cs : List Char) : ∃ w, Spaces w ∧ cs = w ++ skipSpace cs :=
  ⟨cs.takeWhile isSpace, List.all_eq_true.1 List.all_takeWhile,
    List.takeWhile_append_dropWhile.symm⟩

/-- Nothing is left exactly of spaces. -/
lemma skipSpace_eq_nil {cs : List Char} : skipSpace cs = [] ↔ Spaces cs := by
  constructor
  · intro ends
    obtain ⟨w, spaces, split⟩ := exists_spaces cs
    rw [ends, List.append_nil] at split
    rw [split]
    exact spaces
  · intro spaces
    have skip : skipSpace (cs ++ []) = skipSpace [] := List.dropWhile_append_of_pos spaces
    rw [List.append_nil] at skip
    exact skip

/-! ## Arrays of two strings -/

/-- A text of an array of two strings, which stand for the given texts. -/
def PairText (cs : List Char) (s t : String) : Prop :=
  ∃ first second w₀ w₁ w₂ w₃ w₄ w₅,
    Quotes first s ∧ Quotes second t ∧
    Spaces w₀ ∧ Spaces w₁ ∧ Spaces w₂ ∧ Spaces w₃ ∧ Spaces w₄ ∧ Spaces w₅ ∧
    cs = w₀ ++ '[' :: (w₁ ++ '"' :: (first ++ '"' :: (w₂ ++ ',' ::
      (w₃ ++ '"' :: (second ++ '"' :: (w₄ ++ ']' :: w₅))))))

/-- What is no string and no array is not read as one. -/
lemma scalar_spec {cs rest : List Char} {v : Json}
    (read : scalar .asNumbers cs = .ok (v, rest)) : (∀ s, v ≠ .str s) ∧ ∀ vs, v ≠ .arr vs := by
  unfold scalar at read
  split at read
  case h_7 =>
    split at read
    case h_1 l after _ =>
      obtain ⟨u, told, same⟩ := exists_of_map_ok read
      obtain ⟨rfl, _⟩ := Prod.mk.inj same
      change l.number = _ at told
      unfold Lexeme.number at told
      split at told
      · split at told
        · cases told
        · obtain rfl := Except.ok.inj told
          simp
      · obtain rfl := Except.ok.inj told
        simp
    case h_2 => cases read
  all_goals
    obtain ⟨rfl, _⟩ := Prod.mk.inj (Except.ok.inj read)
    simp

/-- What a value is read as: a string in quotes, the items between brackets, or neither. -/
lemma value_inv {fuel room : Nat} {cs rest : List Char} {v : Json}
    (read : value .asNumbers fuel room cs = .ok (v, rest)) :
    (∃ body s, Quotes body s ∧ v = .str s ∧ cs = '"' :: (body ++ '"' :: rest)) ∨
      (∃ more vs, v = .arr vs ∧ cs = '[' :: more ∧ (vs = [] ∨ ∃ fuel room,
        items .asNumbers fuel room (skipSpace more) = .ok (vs, rest))) ∨
      (∀ s, v ≠ .str s) ∧ ∀ vs, v ≠ .arr vs := by
  cases fuel with
  | zero => cases read
  | succ fuel =>
    unfold value at read
    split at read
    case h_1 more =>
      obtain ⟨⟨ns, after⟩, told, same⟩ := exists_of_map_ok read
      obtain ⟨rfl, rfl⟩ := Prod.mk.inj same
      obtain ⟨body, spells, split⟩ := spells_of_units told
      exact .inl ⟨body, _, ⟨ns, spells, rfl⟩, rfl, congrArg ('"' :: ·) split⟩
    case h_2 more =>
      split at read
      case h_1 => cases read
      case h_2 room =>
        split at read
        · obtain ⟨rfl, rfl⟩ := Prod.mk.inj (Except.ok.inj read)
          exact .inr (.inl ⟨more, [], rfl, rfl, .inl rfl⟩)
        · obtain ⟨⟨vs, after⟩, told, same⟩ := exists_of_map_ok read
          obtain ⟨rfl, rfl⟩ := Prod.mk.inj same
          exact .inr (.inl ⟨more, vs, rfl, rfl, .inr ⟨fuel, room, told⟩⟩)
    case h_3 more =>
      refine .inr (.inr ?_)
      split at read
      case h_1 => cases read
      case h_2 =>
        split at read
        · obtain ⟨rfl, _⟩ := Prod.mk.inj (Except.ok.inj read)
          simp
        · obtain ⟨⟨ms, after⟩, _, same⟩ := exists_of_map_ok read
          obtain ⟨rfl, _⟩ := Prod.mk.inj same
          simp [ofMembers]
    case h_4 => exact .inr (.inr (scalar_spec read))

/-- A string is read where there is one. -/
lemma value_str_inv {fuel room : Nat} {cs rest : List Char} {s : String}
    (read : value .asNumbers fuel room cs = .ok (.str s, rest)) :
    ∃ body, Quotes body s ∧ cs = '"' :: (body ++ '"' :: rest) := by
  obtain ⟨body, t, quotes, same, split⟩ | ⟨_, _, same, _⟩ | ⟨other, _⟩ := value_inv read
  · obtain rfl := Json.str.inj same
    exact ⟨body, quotes, split⟩
  · cases same
  · exact absurd rfl (other s)

/-- An array with an item is read where there is one. -/
lemma value_arr_inv {fuel room : Nat} {cs rest : List Char} {v : Json} {vs : List Json}
    (read : value .asNumbers fuel room cs = .ok (.arr (v :: vs), rest)) :
    ∃ fuel room more, cs = '[' :: more ∧
      items .asNumbers fuel room (skipSpace more) = .ok (v :: vs, rest) := by
  obtain ⟨_, _, _, same, _⟩ | ⟨more, us, same, opened, listed⟩ | ⟨_, other⟩ := value_inv read
  · cases same
  · obtain rfl := Json.arr.inj same
    obtain none | ⟨fuel, room, listed⟩ := listed
    · cases none
    · exact ⟨fuel, room, more, opened, listed⟩
  · exact absurd rfl (other (v :: vs))

/-- Behind an item stands the end of the array or, after a comma, the rest of the items. -/
lemma items_inv {r : Reading} {fuel room : Nat} {cs rest : List Char} {v : Json}
    {vs : List Json} (read : items r fuel room cs = .ok (v :: vs, rest)) :
    ∃ fuel more, value r fuel room cs = .ok (v, more) ∧
      (vs = [] ∧ skipSpace more = ']' :: rest ∨
        ∃ after, skipSpace more = ',' :: after ∧
          items r fuel room (skipSpace after) = .ok (vs, rest)) := by
  cases fuel with
  | zero => cases read
  | succ fuel =>
    unfold items at read
    obtain ⟨⟨u, more⟩, first, read⟩ := exists_of_bind_ok read
    dsimp only at read
    split at read
    · next after close =>
      obtain ⟨same, rfl⟩ := Prod.mk.inj (Except.ok.inj read)
      obtain ⟨rfl, rfl⟩ := List.cons.inj same
      exact ⟨fuel, more, first, .inl ⟨rfl, close⟩⟩
    · next after comma =>
      obtain ⟨⟨us, after'⟩, later, read⟩ := exists_of_bind_ok read
      obtain ⟨same, rfl⟩ := Prod.mk.inj (Except.ok.inj read)
      obtain ⟨rfl, rfl⟩ := List.cons.inj same
      exact ⟨fuel, more, first, .inr ⟨after, comma, later⟩⟩
    · cases read

/-- No list of items that is read is empty. -/
lemma items_nil {r : Reading} {fuel room : Nat} {cs rest : List Char} :
    items r fuel room cs ≠ .ok ([], rest) := by
  intro read
  cases fuel with
  | zero => cases read
  | succ fuel =>
    unfold items at read
    obtain ⟨⟨u, more⟩, first, read⟩ := exists_of_bind_ok read
    dsimp only at read
    split at read
    · cases (Prod.mk.inj (Except.ok.inj read)).1
    · obtain ⟨⟨us, after'⟩, later, read⟩ := exists_of_bind_ok read
      cases (Prod.mk.inj (Except.ok.inj read)).1
    · cases read

/-- What reads as an array of two strings is a text of one. -/
lemma pairText_of_read {cs : List Char} {s t : String}
    (told : read cs = .ok (.arr [.str s, .str t])) : PairText cs s t := by
  obtain ⟨⟨v, after⟩, whole, told⟩ := exists_of_bind_ok told
  dsimp only at told
  split at told
  · next ends =>
    obtain rfl := Except.ok.inj told
    obtain ⟨fuel, room, more, opened, listed⟩ := value_arr_inv whole
    obtain ⟨fuel, more₁, first, step⟩ := items_inv listed
    obtain ⟨none, _⟩ | ⟨more₂, comma, listed⟩ := step
    · cases none
    obtain ⟨fuel, more₃, second, step⟩ := items_inv listed
    obtain ⟨_, close⟩ | ⟨_, _, listed⟩ := step
    · obtain ⟨body, quotes, text⟩ := value_str_inv first
      obtain ⟨body', quotes', text'⟩ := value_str_inv second
      obtain ⟨w₀, spaces₀, split₀⟩ := exists_spaces cs
      obtain ⟨w₁, spaces₁, split₁⟩ := exists_spaces more
      obtain ⟨w₂, spaces₂, split₂⟩ := exists_spaces more₁
      obtain ⟨w₃, spaces₃, split₃⟩ := exists_spaces more₂
      obtain ⟨w₄, spaces₄, split₄⟩ := exists_spaces more₃
      refine ⟨body, body', w₀, w₁, w₂, w₃, w₄, after, quotes, quotes', spaces₀, spaces₁, spaces₂,
        spaces₃, spaces₄, skipSpace_eq_nil.1 ends, ?_⟩
      rw [← close, ← split₄, ← text', ← split₃, ← comma, ← split₂, ← text, ← split₁, ← opened,
        ← split₀]
    · exact absurd listed items_nil
  · cases told

/-- What stands between quotes is read as the text that it stands for. -/
lemma value_str {body : List Char} {s : String} (quotes : Quotes body s)
    (fuel room : Nat) (rest : List Char) :
    value .asNumbers (fuel + 1) room ('"' :: (body ++ '"' :: rest)) = .ok (.str s, rest) := by
  obtain ⟨ns, spells, rfl⟩ := quotes
  rw [value, spells.units]
  rfl

/-- An item before the closing bracket is the last. -/
lemma items_last {r : Reading} {fuel room : Nat} {cs more rest : List Char} {v : Json}
    (first : value r fuel room cs = .ok (v, more)) (close : skipSpace more = ']' :: rest) :
    items r (fuel + 1) room cs = .ok ([v], rest) := by
  rw [items, first]
  simp only [bind, Except.bind, close]
  rfl

/-- An item before a comma is followed by others. -/
lemma items_more {r : Reading} {fuel room : Nat} {cs more after rest : List Char}
    {v : Json} {vs : List Json} (first : value r fuel room cs = .ok (v, more))
    (comma : skipSpace more = ',' :: after)
    (later : items r fuel room (skipSpace after) = .ok (vs, rest)) :
    items r (fuel + 1) room cs = .ok (v :: vs, rest) := by
  rw [items, first]
  simp only [bind, Except.bind, comma, later]
  rfl

/-- An array that does not end at once is read as its items. -/
lemma value_arr {r : Reading} {fuel room : Nat} {more after rest : List Char} {c : Char}
    {vs : List Json} (opened : skipSpace more = c :: after) (item : c ≠ ']')
    (listed : items r fuel room (c :: after) = .ok (vs, rest)) :
    value r (fuel + 1) (room + 1) ('[' :: more) = .ok (.arr vs, rest) := by
  rw [value, opened]
  split
  · next same => exact absurd (List.cons.inj same).1 item
  · rw [listed]
    rfl

/-- A text of an array of two strings reads as it wherever there is room for an array. -/
lemma PairText.read {cs : List Char} {s t : String} (text : PairText cs s t) (room : Nat) :
    readWithin .asNumbers (room + 1) cs = .ok (.arr [.str s, .str t]) := by
  obtain ⟨first, second, w₀, w₁, w₂, w₃, w₄, w₅, quotes, quotes', spaces₀, spaces₁, spaces₂,
    spaces₃, spaces₄, spaces₅, whole⟩ := text
  obtain ⟨inside, opening, shape⟩ : ∃ inside, skipSpace cs = '[' :: inside ∧
      inside = w₁ ++ '"' :: (first ++ '"' :: (w₂ ++ ',' ::
        (w₃ ++ '"' :: (second ++ '"' :: (w₄ ++ ']' :: w₅))))) := by
    rw [whole]
    exact ⟨_, skipSpace_append spaces₀ rfl _, rfl⟩
  obtain ⟨fuel, enough⟩ : ∃ k, 2 * cs.length + 2 = k + 4 := by
    have some : cs.length ≠ 0 := by
      rw [whole, List.length_append, List.length_cons]
      omega
    exact ⟨2 * cs.length - 2, by omega⟩
  have last : items .asNumbers (fuel + 2) room ('"' :: (second ++ '"' :: (w₄ ++ ']' :: w₅))) =
      .ok ([.str t], w₅) :=
    items_last (value_str quotes' fuel room _) (skipSpace_append spaces₄ rfl w₅)
  have both : items .asNumbers (fuel + 3) room ('"' :: (first ++ '"' :: (w₂ ++ ',' ::
      (w₃ ++ '"' :: (second ++ '"' :: (w₄ ++ ']' :: w₅)))))) = .ok ([.str s, .str t], w₅) := by
    refine items_more (value_str quotes (fuel + 1) room _) (skipSpace_append spaces₂ rfl _) ?_
    rw [skipSpace_append spaces₃ rfl]
    exact last
  have array : value .asNumbers (fuel + 4) (room + 1) (skipSpace cs) =
      .ok (.arr [.str s, .str t], w₅) := by
    rw [opening, shape]
    exact value_arr (skipSpace_append spaces₁ rfl _) (by decide) both
  rw [readWithin, enough, array]
  simp only [bind, Except.bind, skipSpace_eq_nil.2 spaces₅]
  rfl

/-- Exactly the texts of an array of two strings are read as it. -/
theorem read_eq_pair_iff {cs : List Char} {s t : String} :
    read cs = .ok (.arr [.str s, .str t]) ↔ PairText cs s t :=
  ⟨pairText_of_read, fun text => text.read _⟩

end SignIn.Json
