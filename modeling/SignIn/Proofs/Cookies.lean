import Mathlib.Data.List.TakeWhile
import SignIn.Http.Cookie
import SignIn.Proofs.Minting

/-!
# The session cookie

A minted token goes through a cookie as it is. All its characters stand in a value without quotes,
so the header that sets the cookie holds it unchanged, and it is read back from any header that the
cookie is sent in, whatever other cookies stand around it.
-/

namespace SignIn

namespace Text

/-- Splitting leaves at least one part. -/
lemma splitOn_ne_nil (sep : Char) (cs : List Char) : splitOn sep cs ≠ [] := by
  cases cs with
  | nil => exact List.cons_ne_nil _ _
  | cons c rest =>
    rw [splitOn]
    split
    · exact List.cons_ne_nil _ _
    · split
      · exact List.cons_ne_nil _ _
      · exact List.cons_ne_nil _ _

/-- A text without the separator is one part. -/
lemma splitOn_of_notMem {sep : Char} {part : List Char} (clean : sep ∉ part) :
    splitOn sep part = [part] := by
  induction part with
  | nil => rfl
  | cons c part ih =>
    rw [List.mem_cons, not_or] at clean
    rw [splitOn, ih clean.2]
    exact if_neg fun same => clean.1 same.symm

/-- What stands before a separator is the first part. -/
lemma splitOn_append {sep : Char} {part : List Char} (clean : sep ∉ part) (rest : List Char) :
    splitOn sep (part ++ sep :: rest) = part :: splitOn sep rest := by
  induction part with
  | nil =>
    rw [List.nil_append, splitOn]
    cases parts : splitOn sep rest with
    | nil => exact absurd parts (splitOn_ne_nil sep rest)
    | cons p ps => exact if_pos rfl
  | cons c part ih =>
    rw [List.mem_cons, not_or] at clean
    rw [List.cons_append, splitOn, ih clean.2]
    exact if_neg fun same => clean.1 same.symm

/-- A character in front that is trimmed away does not count. -/
lemma trim_cons {p : Char → Bool} {c : Char} (blank : p c = true) (cs : List Char) :
    trim p (c :: cs) = trim p cs := by
  rw [trim, trim, List.dropWhile_cons_of_pos blank]

end Text

namespace Http.Cookie

/-! ## What a browser keeps and sends back -/

/-- What a browser keeps of a header that sets a cookie: its name and its value. -/
def kept (header : String) : List Char :=
  header.toList.takeWhile (· ≠ ';')

/-- The header in which cookies are sent. -/
def sending (cookies : List (List Char)) : String :=
  String.ofList ("; ".toList.intercalate cookies)

/-- A cookie is not that of the session, and no semicolon breaks it up. -/
structure IsOther (cookie : List Char) : Prop where
  whole : ';' ∉ cookie
  other : ∀ name value, cookie = name ++ '=' :: value → '=' ∉ name →
    Text.trim Text.isBlank name ≠ sessionName.toList

/-! ## Reading -/

/-- A character among others that have no separator is none. -/
lemma ne_of_notMem {c d : Char} {cs : List Char} (out : d ∉ cs) (mem : c ∈ cs) :
    decide (c ≠ d) = true := by
  refine decide_eq_true ?_
  rintro rfl
  exact out mem

/-- A pair is split at the first equals sign. -/
lemma pair_of_name {name : List Char} (plain : '=' ∉ name) (value : List Char) :
    pair (name ++ '=' :: value) =
      (Text.trim Text.isBlank name, Text.trim Text.isBlank value) := by
  have front : (name ++ '=' :: value).takeWhile (· ≠ '=') = name := by
    rw [List.takeWhile_append_of_pos fun c mem => ne_of_notMem plain mem,
      List.takeWhile_cons_of_neg (by decide), List.append_nil]
  have shorter : name.length < (name ++ '=' :: value).length := by
    rw [List.length_append, List.length_cons]
    omega
  have back : (name ++ '=' :: value).drop (name.length + 1) = value := by
    rw [← List.drop_drop, List.drop_left]
    rfl
  rw [pair, front]
  simp only [if_pos shorter, back]

/-- What has no equals sign is a value without a name. -/
lemma pair_of_nameless {part : List Char} (plain : '=' ∉ part) :
    pair part = ([], Text.trim Text.isBlank part) := by
  have all : part.takeWhile (· ≠ '=') = part :=
    List.takeWhile_eq_self_iff.2 fun c mem => ne_of_notMem plain mem
  rw [pair, all]
  simp only [if_neg (Nat.lt_irrefl part.length)]
  rfl

/-- A space in front of a part does not count. -/
lemma pair_cons_space (part : List Char) : pair (' ' :: part) = pair part := by
  have blank : Text.isBlank ' ' = true := by decide
  by_cases named : '=' ∈ part
  · obtain ⟨name, value, rfl, plain⟩ := List.eq_append_cons_of_mem named
    have plain' : '=' ∉ ' ' :: name := by
      rw [List.mem_cons, not_or]
      exact ⟨by decide, plain⟩
    rw [← List.cons_append, pair_of_name plain', pair_of_name plain, Text.trim_cons blank]
  · have plain' : '=' ∉ ' ' :: part := by
      rw [List.mem_cons, not_or]
      exact ⟨by decide, named⟩
    rw [pair_of_nameless plain', pair_of_nameless named, Text.trim_cons blank]

/-- A cookie of another name is not paired with the session's. -/
lemma IsOther.pair_ne {cookie : List Char} (h : IsOther cookie) :
    (pair cookie).1 ≠ sessionName.toList := by
  by_cases named : '=' ∈ cookie
  · obtain ⟨name, value, rfl, plain⟩ := List.eq_append_cons_of_mem named
    rw [pair_of_name plain]
    exact h.other name value rfl plain
  · rw [pair_of_nameless named]
    exact fun same => nomatch same

/-- A cookie whose pair has another name is of another name. -/
lemma IsOther.of_pair {cookie : List Char} (whole : ';' ∉ cookie)
    (other : (pair cookie).1 ≠ sessionName.toList) : IsOther cookie where
  whole := whole
  other name value same plain named := by
    rw [same, pair_of_name plain] at other
    exact other named

/-- Cookies that are sent are taken apart again. -/
lemma splitOn_sending {cookie : List Char} {more : List (List Char)}
    (whole : ∀ c ∈ cookie :: more, ';' ∉ c) :
    Text.splitOn ';' (sending (cookie :: more)).toList = cookie :: more.map (' ' :: ·) := by
  rw [sending, String.toList_ofList]
  induction more generalizing cookie with
  | nil =>
    rw [List.intercalate_singleton]
    exact Text.splitOn_of_notMem (whole cookie List.mem_cons_self)
  | cons next more ih =>
    have here := whole cookie List.mem_cons_self
    have later := whole next (List.mem_cons_of_mem _ List.mem_cons_self)
    have joined : "; ".toList.intercalate (cookie :: next :: more) =
        cookie ++ ';' :: "; ".toList.intercalate ((' ' :: next) :: more) := by
      cases more with
      | nil => rfl
      | cons c cs => rfl
    rw [joined, Text.splitOn_append here, ih, List.map_cons]
    intro c mem
    obtain rfl | mem := List.mem_cons.1 mem
    · rw [List.mem_cons, not_or]
      exact ⟨by decide, later⟩
    · exact whole c (List.mem_cons_of_mem _ (List.mem_cons_of_mem _ mem))

/-- Cookies that are sent are read as their pairs, without the empty ones. -/
lemma pairs_sending {cookies : List (List Char)} (whole : ∀ c ∈ cookies, ';' ∉ c) :
    pairs (sending cookies).toList =
      (cookies.map pair).filter fun (n, v) => n ≠ [] ∨ v ≠ [] := by
  cases cookies with
  | nil => rfl
  | cons cookie more =>
    rw [pairs, splitOn_sending whole, List.map_cons, List.map_map, List.map_cons]
    rw [show pair ∘ (' ' :: ·) = pair from funext pair_cons_space]

/-- Of cookies that are sent, that of the session is found. -/
lemma find?_sending {before after : List (List Char)} {value : List Char}
    (others : ∀ c ∈ before ++ after, IsOther c) (whole : ';' ∉ value) :
    find? sessionName [sending (before ++ (sessionName.toList ++ '=' :: value) :: after)] =
      some (String.ofList (readValue (Text.trim Text.isBlank value))) := by
  have unnamed (c) (mem : c ∈ before ++ after) : ((pair c).1 == sessionName.toList) = false :=
    beq_eq_false_iff_ne.2 (others c mem).pair_ne
  have own : pair (sessionName.toList ++ '=' :: value) =
      (sessionName.toList, Text.trim Text.isBlank value) := pair_of_name (by decide) value
  have parts (c) (mem : c ∈ before ++ (sessionName.toList ++ '=' :: value) :: after) :
      ';' ∉ c := by
    obtain mem | mem := List.mem_append.1 mem
    · exact (others c (List.mem_append_left _ mem)).whole
    · obtain rfl | mem := List.mem_cons.1 mem
      · rw [List.mem_append, List.mem_cons, not_or, not_or]
        exact ⟨by decide, by decide, whole⟩
      · exact (others c (List.mem_append_right _ mem)).whole
  -- the last cookie of a name counts, so none behind the session's may have its name
  have later : (((after.map pair).filter fun (n, v) => n ≠ [] ∨ v ≠ []).reverse.find?
      fun (n, _) => n == sessionName.toList) = none := by
    rw [List.find?_eq_none]
    intro x mem
    obtain ⟨c, there, rfl⟩ := List.mem_map.1 (List.mem_filter.1 (List.mem_reverse.1 mem)).1
    show ¬ ((pair c).1 == sessionName.toList) = true
    rw [unnamed c (List.mem_append_right _ there)]
    exact Bool.false_ne_true
  have named : sessionName.toList ≠ [] := by decide
  rw [find?, List.flatMap_singleton, pairs_sending parts, List.map_append, List.map_cons, own,
    List.filter_append, List.filter_cons, if_pos (decide_eq_true (.inl named)),
    List.reverse_append, List.reverse_cons, List.append_assoc, List.find?_append, later,
    Option.none_or, List.singleton_append]
  simp only [List.find?_cons, beq_self_eq_true, Option.map_some]

/-! ## Writing -/

/-- A letter or digit is ASCII. -/
lemma lt_of_isAlphanum {c : Char} (h : c.isAlphanum = true) : c.toNat < 128 := by
  delta Char.isAlphanum Char.isAlpha Char.isUpper Char.isLower Char.isDigit at h
  simp only [Bool.or_eq_true, Bool.and_eq_true, decide_eq_true_eq] at h
  have upper (d : UInt32) (small : d.toNat < 128) (le : c.val ≤ d) : c.toNat < 128 :=
    Nat.lt_of_le_of_lt (UInt32.le_iff_toNat_le.1 le) small
  obtain (⟨_, le⟩ | ⟨_, le⟩) | ⟨_, le⟩ := h
  · exact upper _ (by decide) le
  · exact upper _ (by decide) le
  · exact upper _ (by decide) le

/-- A character that stands in a value without quotes ends no cookie, starts no quotes, and is not
trimmed away. -/
lemma isPlain_spec {c : Char} (plain : isPlain c = true) :
    c ≠ ';' ∧ c ≠ '"' ∧ Text.isBlank c = false := by
  have ascii : c.toNat < 128 := by
    rw [isPlain, Bool.or_eq_true] at plain
    obtain alphanumeric | sign := plain
    · exact lt_of_isAlphanum alphanumeric
    · have all : ("!#$%&'*+-.^_\x60|~:".toList.all fun c => decide (c.toNat < 128)) = true := by
        decide
      exact of_decide_eq_true (List.all_eq_true.1 all c (List.contains_iff_mem.1 sign))
  have all : ∀ n < 128, isPlain (Char.ofNat n) = true →
      Char.ofNat n ≠ ';' ∧ Char.ofNat n ≠ '"' ∧ Text.isBlank (Char.ofNat n) = false := by
    decide +kernel
  rw [← Char.ofNat_toNat c] at plain ⊢
  exact all _ ascii plain

/-- A value of plain characters is written as it is. -/
lemma writeValue_plain {v : List Char} (ne : v ≠ []) (plain : ∀ c ∈ v, isPlain c = true) :
    writeValue v = v := by
  rw [writeValue, if_pos ⟨ne, List.all_eq_true.2 plain⟩]

/-- A value of plain characters is read as it is. -/
lemma readValue_plain {v : List Char} (plain : ∀ c ∈ v, isPlain c = true) :
    readValue (Text.trim Text.isBlank v) = v := by
  rw [Text.trim_eq_self (fun c mem => (isPlain_spec (plain c (List.mem_of_mem_head? mem))).2.2)
    fun c mem => (isPlain_spec (plain c (List.mem_of_mem_getLast? mem))).2.2]
  cases v with
  | nil => rfl
  | cons c rest =>
    have unquoted := (isPlain_spec (plain c List.mem_cons_self)).2.1
    rw [readValue]
    exact fun _ same => unquoted (List.cons.inj same).1

/-- The attributes are set apart from the value. -/
lemma exists_attributes_eq (p : Policy) (seconds : Int) :
    ∃ rest, (attributes p seconds).toList = ';' :: rest := by
  have first : "; HttpOnly; Max-Age=".toList = ';' :: " HttpOnly; Max-Age=".toList := by decide
  unfold attributes
  generalize toString seconds = length
  generalize (if p.secure then "; Secure" else "") = secure
  rw [String.toList_append, String.toList_append, String.toList_append, String.toList_append, first]
  exact ⟨_, rfl⟩

/-- A browser keeps a value of plain characters under the name of the session. -/
lemma kept_setHeader (p : Policy) {t : String} (ne : t ≠ "")
    (plain : ∀ c ∈ t.toList, isPlain c = true) :
    kept (setHeader p t) = sessionName.toList ++ '=' :: t.toList := by
  obtain ⟨rest, tail⟩ := exists_attributes_eq p p.seconds
  have value : writeValue t.toList = t.toList :=
    writeValue_plain (String.toList_eq_nil_iff.not.2 ne) plain
  have shape : (setHeader p t).toList =
      (sessionName.toList ++ '=' :: t.toList) ++ ';' :: rest := by
    rw [setHeader, value, String.ofList_toList, String.toList_append, String.toList_append,
      String.toList_append, tail, List.append_assoc sessionName.toList]
    rfl
  have front : ';' ∉ sessionName.toList ++ '=' :: t.toList := by
    rw [List.mem_append, List.mem_cons, not_or, not_or]
    exact ⟨by decide, by decide, fun mem => (isPlain_spec (plain _ mem)).1 rfl⟩
  rw [kept, shape, List.takeWhile_append_of_pos fun c mem => ne_of_notMem front mem,
    List.takeWhile_cons_of_neg (by decide), List.append_nil]

/-- A value of plain characters that was set is found among other cookies. -/
lemma token?_sending (p : Policy) {t : String} (ne : t ≠ "")
    (plain : ∀ c ∈ t.toList, isPlain c = true) {before after : List (List Char)}
    (others : ∀ c ∈ before ++ after, IsOther c) :
    token? [sending (before ++ kept (setHeader p t) :: after)] = some t := by
  have whole : ';' ∉ t.toList := fun mem => (isPlain_spec (plain _ mem)).1 rfl
  rw [kept_setHeader p ne plain, token?, find?_sending others whole, readValue_plain plain,
    String.ofList_toList, Option.filter_eq_some_iff, decide_eq_true_iff]
  exact ⟨rfl, ne⟩

end Http.Cookie

/-- All characters of a minted token stand in a cookie without quotes. -/
lemma Authority.isPlain_of_mint {a : Authority} {ms : Token.Claims.Members} {t : String}
    (h : a.mint ms = .ok t) {c : Char} (mem : c ∈ t.toList) : Http.Cookie.isPlain c = true := by
  obtain ⟨signature, _, rfl⟩ := mint_eq_ok h
  have digits : ∀ n < 64, Http.Cookie.isPlain (Base64.digit n) = true := by decide
  have encoded {bs : List UInt8} (mem : c ∈ Base64.encode bs) :
      Http.Cookie.isPlain c = true := by
    obtain ⟨n, small, rfl⟩ := Base64.exists_digit_of_mem_encode mem
    exact digits n small
  simp only [Token.assemble, Token.signedText, Token.part, String.toList_ofList, List.mem_append,
    List.mem_cons] at mem
  obtain (header | rfl | payload) | rfl | sign := mem
  · exact encoded header
  · decide
  · exact encoded payload
  · decide
  · exact encoded sign

end SignIn
