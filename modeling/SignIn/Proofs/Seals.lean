import SignIn.Proofs.Lifetime
import SignIn.Proofs.Stores

/-!
# Sealed texts

Which texts are accepted as tokens, whoever wrote them. A text is sealed if it has two points, a
header that names the algorithm, and a signature of everything before its last point. An accepted
token is sealed, its claims hold, and it is not banned. A text that is not sealed is refused
whatever stands in its payload, and before its ban is asked for; only if its header is nested more
deeply than JSON is read, it is the reader that fails.
-/

namespace SignIn

open Text

namespace Json

/-- Brackets that are opened more often than there is room for them are too deep. -/
lemma value_replicate (r : Reading) {room fuel : Nat} (enough : 2 * room < fuel)
    (rest : List Char) :
    value r fuel room (List.replicate (room + 1) '[' ++ rest) = .error .depth := by
  induction room generalizing fuel with
  | zero =>
    obtain ⟨fuel, rfl⟩ := Nat.exists_eq_add_of_lt enough
    rfl
  | succ room ih =>
    obtain ⟨fuel, rfl⟩ : ∃ n, fuel = n + 2 := ⟨fuel - 2, by omega⟩
    have inner := @ih fuel (by omega)
    rw [List.replicate_succ, List.cons_append] at inner
    have first : items r (fuel + 1) room ('[' :: (List.replicate room '[' ++ rest)) =
        .error .depth := by
      rw [items, inner]
      rfl
    rw [List.replicate_succ, List.replicate_succ, List.cons_append, List.cons_append, value]
    simp only [skipSpace_cons (c := '[') (by decide)]
    show (items r (fuel + 1) room ('[' :: (List.replicate room '[' ++ rest))).map _ = _
    rw [first]
    rfl

/-- More brackets than there is room for are too deep to be read. -/
lemma read_replicate {n : Nat} (deep : nestingLimit < n) :
    read (List.replicate n '[') = .error .depth := by
  obtain ⟨more, rfl⟩ : ∃ more, n = nestingLimit + 1 + more := ⟨n - (nestingLimit + 1), by omega⟩
  have start : skipSpace (List.replicate (nestingLimit + 1 + more) '[') =
      List.replicate (nestingLimit + 1) '[' ++ List.replicate more '[' := by
    rw [← List.replicate_append_replicate, List.replicate_succ, List.cons_append]
    exact skipSpace_cons (by decide) _
  have enough : 2 * nestingLimit <
      2 * (List.replicate (nestingLimit + 1 + more) '[').length + 2 := by
    rw [List.length_replicate]
    omega
  rw [read, readWith, readWithin, start, value_replicate _ enough]
  rfl

end Json

namespace Token

/-! ## Points -/

/-- A text is cut where its first point is. -/
lemma cutFirst_eq_some_iff {cs a b : List Char} :
    cutFirst cs = some (a, b) ↔ cs = a ++ '.' :: b ∧ '.' ∉ a := by
  constructor
  · intro h
    induction cs generalizing a with
    | nil => cases h
    | cons c cs ih =>
      rw [cutFirst] at h
      split at h
      · next point =>
        cases h
        exact ⟨by rw [point, List.nil_append], List.not_mem_nil⟩
      · next other =>
        obtain ⟨⟨a', b'⟩, cut, same⟩ := Option.map_eq_some_iff.1 h
        cases same
        obtain ⟨rfl, none⟩ := ih cut
        refine ⟨rfl, fun mem => ?_⟩
        obtain point | mem := List.mem_cons.1 mem
        · exact other point.symm
        · exact none mem
  · rintro ⟨rfl, none⟩
    exact cutFirst_append none b

/-- A text is cut where its last point is. -/
lemma cutLast_eq_some_iff {cs a b : List Char} :
    cutLast cs = some (a, b) ↔ cs = a ++ '.' :: b ∧ '.' ∉ b := by
  constructor
  · intro h
    obtain ⟨⟨c, d⟩, cut, same⟩ := Option.map_eq_some_iff.1 h
    cases same
    obtain ⟨reversed, none⟩ := cutFirst_eq_some_iff.1 cut
    refine ⟨?_, fun mem => none (List.mem_reverse.1 mem)⟩
    rw [← List.reverse_reverse cs, reversed, List.reverse_append, List.reverse_cons,
      List.append_assoc, List.singleton_append]
  · rintro ⟨rfl, none⟩
    exact cutLast_append none a

/-- A text is three parts with points between them, of which only the middle one has points. -/
structure Parts (t : String) (header payload signature : List Char) : Prop where
  text : t.toList = (header ++ '.' :: payload) ++ '.' :: signature
  header : '.' ∉ header
  signature : '.' ∉ signature

variable {t : String} {header payload signature : List Char}

/-- A text with two points is taken apart in one way. -/
lemma Parts.cut (h : Parts t header payload signature) :
    cutLast t.toList = some (header ++ '.' :: payload, signature) ∧
      cutFirst (header ++ '.' :: payload) = some (header, payload) :=
  ⟨cutLast_eq_some_iff.2 ⟨h.text, h.signature⟩, cutFirst_eq_some_iff.2 ⟨rfl, h.header⟩⟩

/-- A text has one header, one payload and one signature. -/
lemma Parts.unique {header' payload' signature' : List Char}
    (h : Parts t header payload signature) (k : Parts t header' payload' signature') :
    header' = header ∧ payload' = payload ∧ signature' = signature := by
  have last := h.cut.1.symm.trans k.cut.1
  rw [Option.some.injEq, Prod.mk.injEq] at last
  have first := h.cut.2
  rw [last.1, k.cut.2, Option.some.injEq, Prod.mk.injEq] at first
  exact ⟨first.1, first.2, last.2.symm⟩

/-! ## Parts -/

/-- What the Base64 of a part of a token is read as, if it is text at all. -/
def jsonOf? (part : List Char) : Option (Except Json.ReadFault Json) := do
  let bs ← Base64.decode? part
  let cs ← Utf8.decode? bs
  return Json.read cs

/-- A part is an object, or it is nested too deeply, or it is malformed. -/
lemma objectOf_partOctets (part : List Char) :
    (partOctets part).bind objectOf = match jsonOf? part with
      | some (.ok (.obj ms)) => .ok ms
      | some (.error .depth) => .error .tooDeep
      | _ => .error .malformed := by
  rw [jsonOf?, partOctets]
  cases Base64.decode? part with
  | none => rfl
  | some bs =>
    simp only [Except.bind, objectOf, Option.bind_eq_bind, Option.bind_some]
    cases Utf8.decode? bs with
    | none => rfl
    | some cs =>
      simp only [Option.bind_some, Option.pure_def]
      cases Json.read cs with
      | ok v =>
        cases v with
        | null | bool | int | real | str | torn | arr | obj => rfl
      | error f =>
        cases f with
        | depth | grammar | digits => rfl

/-- A part that is read as an object holds the JSON of the object. -/
lemma jsonOf?_of_object {part : List Char} {ms : List (String × Json)}
    (h : (partOctets part).bind objectOf = .ok ms) : jsonOf? part = some (.ok (.obj ms)) := by
  rw [objectOf_partOctets] at h
  split at h
  · next object => rw [object, Except.ok.inj h]
  · cases h
  · cases h

/-- The octets of a part are those that it spells. -/
lemma partOctets_eq_ok_iff {part : List Char} {bs : List UInt8} :
    partOctets part = .ok bs ↔ Base64.decode? part = some bs := by
  rw [partOctets]
  cases Base64.decode? part with
  | none =>
    constructor
    · intro h
      cases h
    · intro h
      cases h
  | some cs => rw [Except.ok.injEq, Option.some.injEq]

/-- A text is taken apart at its points, first its header. -/
lemma Parts.ofText_eq (h : Parts t header payload signature) :
    Envelope.ofText t = ((partOctets header).bind objectOf).bind fun ms =>
      (partOctets payload).bind fun p => (partOctets signature).bind fun s =>
        .ok ⟨header ++ '.' :: payload, ms, p, s⟩ := by
  rw [Envelope.ofText, h.cut.1]
  simp only [h.cut.2]
  cases partOctets header with
  | ok bs => rfl
  | error f => rfl

/-- The parts of a text are what its envelope was read from. -/
lemma Parts.ofText_inv (h : Parts t header payload signature) {v : Envelope}
    (k : Envelope.ofText t = .ok v) :
    v.signed = header ++ '.' :: payload ∧ jsonOf? header = some (.ok (.obj v.header)) ∧
      partOctets payload = .ok v.payload ∧ partOctets signature = .ok v.signature := by
  rw [h.ofText_eq] at k
  cases object : (partOctets header).bind objectOf with
  | error f =>
    rw [object] at k
    cases k
  | ok ms =>
    rw [object] at k
    cases middle : partOctets payload with
    | error f =>
      rw [middle] at k
      cases k
    | ok p =>
      rw [middle] at k
      cases last : partOctets signature with
      | error f =>
        rw [last] at k
        cases k
      | ok s =>
        rw [last] at k
        obtain rfl := Except.ok.inj k
        exact ⟨rfl, jsonOf?_of_object object, rfl, rfl⟩

/-- Only what has two points is taken apart. -/
lemma exists_parts {v : Envelope} (h : Envelope.ofText t = .ok v) :
    ∃ header payload signature, Parts t header payload signature := by
  rw [Envelope.ofText] at h
  cases last : cutLast t.toList with
  | none =>
    rw [last] at h
    cases h
  | some cut =>
    obtain ⟨signed, signature⟩ := cut
    rw [last] at h
    cases first : cutFirst signed with
    | none =>
      simp only [first] at h
      cases h
    | some cut =>
      obtain ⟨header, payload⟩ := cut
      obtain ⟨text, noPoint⟩ := cutLast_eq_some_iff.1 last
      obtain ⟨rfl, noPoint'⟩ := cutFirst_eq_some_iff.1 first
      exact ⟨header, payload, signature, text, noPoint', noPoint⟩

/-- A text has a header that is nested more deeply than JSON is read. -/
def HasDeepHeader (t : String) : Prop :=
  ∃ header payload signature, Parts t header payload signature ∧
    jsonOf? header = some (.error .depth)

/-- Taking a text apart fails for its form, or for the depth of its header. -/
lemma ofText_error {f : EnvelopeFault} (h : Envelope.ofText t = .error f) :
    f = .tooDeep ∧ HasDeepHeader t ∨ f = .malformed ∧ ¬ HasDeepHeader t := by
  have octets {part : List Char} {g : EnvelopeFault} (h : partOctets part = .error g) :
      g = .malformed := by
    rw [partOctets] at h
    split at h
    · cases h
    · exact (Except.error.inj h).symm
  by_cases parts : ∃ header payload signature, Parts t header payload signature
  · obtain ⟨header, payload, signature, parts⟩ := parts
    have shallow (other : jsonOf? header ≠ some (.error .depth)) : ¬ HasDeepHeader t := by
      rintro ⟨header', payload', signature', parts', deep⟩
      rw [(parts.unique parts').1] at deep
      exact other deep
    rw [parts.ofText_eq, objectOf_partOctets] at h
    split at h
    · next ms object =>
      have other : jsonOf? header ≠ some (.error .depth) := by
        intro deep
        rw [object] at deep
        cases deep
      refine .inr ⟨?_, shallow other⟩
      cases middle : partOctets payload with
      | error g =>
        rw [middle] at h
        exact (Except.error.inj h).symm.trans (octets middle)
      | ok p =>
        rw [middle] at h
        cases last : partOctets signature with
        | error g =>
          rw [last] at h
          exact (Except.error.inj h).symm.trans (octets last)
        | ok s =>
          rw [last] at h
          cases h
    · next deep => exact .inl ⟨(Except.error.inj h).symm, header, payload, signature, parts, deep⟩
    · next other => exact .inr ⟨(Except.error.inj h).symm, shallow other⟩
  · have shallow : ¬ HasDeepHeader t := by
      rintro ⟨header, payload, signature, cut, _⟩
      exact parts ⟨header, payload, signature, cut⟩
    refine .inr ⟨?_, shallow⟩
    rw [Envelope.ofText] at h
    split at h
    · exact (Except.error.inj h).symm
    · next signed signature last =>
      split at h
      · exact (Except.error.inj h).symm
      · next header payload first =>
        obtain ⟨text, noPoint⟩ := cutLast_eq_some_iff.1 last
        obtain ⟨rfl, noPoint'⟩ := cutFirst_eq_some_iff.1 first
        exact absurd ⟨header, payload, signature, text, noPoint', noPoint⟩ parts

/-! ## Seals -/

/-- A text has a header that names the algorithm, and ends in the signature of what stands before
its last point. -/
structure Sealed (secret : String) (t : String) (header payload signature : List Char) : Prop where
  parts : Parts t header payload signature
  algorithm : ∃ ms, jsonOf? header = some (.ok (.obj ms)) ∧
    Keyed.find? "alg" ms = some (.str "HS256")
  signed : Base64.decode? signature =
    some (Hmac.sign (Key.octets secret) (Utf8.encode (header ++ '.' :: payload)))

/-- The algorithm of a header is the issued one exactly if its member says so. -/
lemma algorithm_iff {ms : List (String × Json)} :
    (Keyed.find? "alg" ms).bind Json.text? = some algorithm ↔
      Keyed.find? "alg" ms = some (.str "HS256") := by
  rw [Option.bind_eq_some_iff]
  constructor
  · rintro ⟨v, found, text⟩
    cases v with
    | str s =>
      rw [found, Option.some.inj text]
      rfl
    | null | bool | int | real | torn | arr | obj => cases text
  · intro found
    exact ⟨_, found, rfl⟩

end Token

namespace Authority

open Token

variable {a : Authority} {t : String}

/-- A text whose seal holds is sealed, and its payload is the object of its claims. -/
lemma sealed_of_sealedClaims (plain : Key.IsPlain a.secret) {ms : Claims.Members}
    (h : a.sealedClaims t = .ok ms) : ∃ header payload signature,
      Sealed a.secret t header payload signature ∧ jsonOf? payload = some (.ok (.obj ms)) := by
  obtain ⟨v, envelope, algorithm, verified, claims⟩ := sealedClaims_eq_ok h
  obtain ⟨header, payload, signature, parts⟩ := exists_parts envelope
  obtain ⟨signed, object, middle, last⟩ := parts.ofText_inv envelope
  rw [Key.verifies_plain plain, Except.ok.injEq, decide_eq_true_iff, signed] at verified
  refine ⟨header, payload, signature, ⟨parts, ⟨_, object, algorithm_iff.1 algorithm⟩, ?_⟩, ?_⟩
  · rw [partOctets_eq_ok_iff.1 last, verified]
  · refine jsonOf?_of_object ?_
    rw [middle]
    exact claims

/-- A text that is not sealed has no claims, whatever its payload is. -/
lemma sealedClaims_of_not_sealed (plain : Key.IsPlain a.secret)
    (unsealed : ∀ header payload signature, ¬ Sealed a.secret t header payload signature) :
    a.sealedClaims t = .error .tooDeep ∧ HasDeepHeader t ∨
      a.sealedClaims t = .error notAToken ∧ ¬ HasDeepHeader t := by
  rw [sealedClaims]
  cases envelope : Envelope.ofText t with
  | error f =>
    obtain ⟨rfl, deep⟩ | ⟨rfl, shallow⟩ := ofText_error envelope
    · exact .inl ⟨rfl, deep⟩
    · exact .inr ⟨rfl, shallow⟩
  | ok v =>
    obtain ⟨header, payload, signature, parts⟩ := exists_parts envelope
    obtain ⟨signed, object, middle, last⟩ := parts.ofText_inv envelope
    refine .inr ⟨?_, ?_⟩
    · show (if _ then _ else _) = _
      split
      · next algorithm =>
        have other : Hmac.sign (Key.octets a.secret) (Text.Utf8.encode v.signed) ≠ v.signature := by
          intro same
          refine unsealed header payload signature
            ⟨parts, ⟨_, object, algorithm_iff.1 algorithm⟩, ?_⟩
          rw [partOctets_eq_ok_iff.1 last, ← same, signed]
        rw [Key.verifies_plain plain, decide_eq_false other]
        rfl
      · rfl
    · rintro ⟨header', payload', signature', parts', deep⟩
      rw [(parts.unique parts').1, object] at deep
      cases deep

/-- What a sealed text claims is what its payload is read as. -/
lemma sealedClaims_of_sealed (plain : Key.IsPlain a.secret) {header payload signature : List Char}
    (h : Sealed a.secret t header payload signature) :
    a.sealedClaims t = ((partOctets payload).bind objectOf).mapError envelopeFault := by
  obtain ⟨ms, object, alg⟩ := h.algorithm
  have first : (partOctets header).bind objectOf = .ok ms := by rw [objectOf_partOctets, object]
  have last := partOctets_eq_ok_iff.2 h.signed
  rw [sealedClaims, h.parts.ofText_eq, first, last]
  cases partOctets payload with
  | error f => rfl
  | ok bs =>
    show (if (Keyed.find? "alg" ms).bind Json.text? = some algorithm then
      (Key.verifies a.secret _ _).bind _ else _) = _
    rw [if_pos (algorithm_iff.2 alg), Key.verifies_plain plain, decide_eq_true rfl]
    rfl

/-! ## Claims -/

/-- Claims that hold have not ended. -/
lemma checkAll_inv {now : Int} {ms : Claims.Members} {v : Json}
    (h : Claims.checkAll now ms = .ok ()) (found : Keyed.find? "exp" ms = some v) :
    ∃ n, integerOf v = .ok n ∧ now ≤ n := by
  obtain ⟨_, _, h⟩ := exists_of_bind_ok h
  obtain ⟨_, _, h⟩ := exists_of_bind_ok h
  obtain ⟨_, h, _⟩ := exists_of_bind_ok h
  rw [Claims.check, found] at h
  obtain ⟨n, read, h⟩ := exists_of_bind_ok h
  obtain ⟨m, date, h⟩ := exists_of_bind_ok h
  rw [Claims.demand] at h
  split at h
  · next live =>
    refine ⟨n, ?_, ?_⟩
    · rw [Claims.instant] at read
      split at read
      · next k same => rw [same, Except.ok.inj read]
      · cases read
      · cases read
      · cases read
    · rw [← dated_inv date]
      exact of_decide_eq_true live
  · cases h

/-- Claims that name an address have an end, and the address is their subject. -/
lemma subject_inv {ms : Claims.Members} {e : Email} (h : Claims.subject ms = .ok e) :
    (∃ v, Keyed.find? "exp" ms = some v) ∧ Keyed.find? "sub" ms = some (.str e.text) := by
  rw [Claims.subject] at h
  split at h
  · cases h
  · next ends =>
    rw [Option.isNone_iff_eq_none, ← Ne, Option.ne_none_iff_exists'] at ends
    refine ⟨ends, ?_⟩
    split at h
    · next f read =>
      obtain rfl := Except.ok.inj h
      rw [Email.read, Field.read] at read
      split at read
      · next e' text =>
        obtain rfl := Except.ok.inj read
        obtain ⟨s, sub, address⟩ := Option.bind_eq_some_iff.1 text
        obtain ⟨v, found, told⟩ := Option.bind_eq_some_iff.1 sub
        rw [found, Email.ofText?_eq_some_iff.1 address]
        cases v with
        | str s' => rw [Option.some.inj told]
        | null | bool | int | real | torn | arr | obj => cases told
      · cases read
    · cases h

/-- Of the texts without unpaired surrogates, which are all that a token can be here: an accepted
text is sealed, its payload is an object with a subject, which is the address, and
an end that has not passed, and it is not banned. A text that is not sealed is no token, whatever
its payload, the time, the bans and the store of the bans; but if its header is nested too deeply,
the reader fails. -/
theorem validate_sound (plain : Key.IsPlain a.secret) (t : String) :
    (∀ w e w', Ends (a.validate t) w (.ok e) w' → ∃ header payload signature ms v n,
      Sealed a.secret t header payload signature ∧ jsonOf? payload = some (.ok (.obj ms)) ∧
        Keyed.find? "exp" ms = some v ∧ integerOf v = .ok n ∧ w.wallSeconds ≤ n ∧
        Keyed.find? "sub" ms = some (.str e.text) ∧ '@' ∈ e.text.toList ∧
        w.bannedAt w.uptime t = false) ∧
    ((∀ header payload signature, ¬ Sealed a.secret t header payload signature) →
      (¬ HasDeepHeader t → ∀ w, Ends (a.validate t) w (.error notAToken) w) ∧
      (HasDeepHeader t → ∀ w, Ends (a.validate t) w (.error .tooDeep) w)) := by
  constructor
  · intro w e w' accepted
    obtain ⟨opened, asked⟩ := validate_ok_iff.1 accepted
    rw [openAt] at opened
    obtain ⟨ms, told, opened⟩ := exists_of_bind_ok opened
    obtain ⟨_, holds, subject⟩ := exists_of_bind_ok opened
    obtain ⟨header, payload, signature, sealed, object⟩ := sealed_of_sealedClaims plain told
    obtain ⟨⟨v, ends⟩, sub⟩ := subject_inv subject
    obtain ⟨n, read, live⟩ := checkAll_inv holds ends
    refine ⟨header, payload, signature, ms, v, n, sealed, object, ends, read, live, sub, e.mark, ?_⟩
    obtain ⟨_, _, told, _⟩ | ⟨_, asked⟩ := World.guarded_inv asked
    · cases told
    · obtain ⟨_, told | ⟨⟨_, told⟩, _⟩⟩ := Bans.contains_inv asked
      · exact (Except.ok.inj told).symm
      · cases told
  · intro unsealed
    have fails {f : Fault} (told : a.sealedClaims t = .error f) (w : World) :
        Ends (a.validate t) w (.error f) w := by
      refine validate_of_openAt_error ?_
      rw [openAt, told]
      rfl
    obtain ⟨told, deep⟩ | ⟨told, shallow⟩ := sealedClaims_of_not_sealed plain unsealed
    · exact ⟨fun shallow => absurd deep shallow, fun _ => fails told⟩
    · exact ⟨fun _ => fails told, fun deep => absurd deep shallow⟩

/-- A token that the sample authority minted is accepted, and so is sealed. -/
theorem validate_sound_sample :
    Key.IsPlain sample.secret ∧ ∃ t w w' header payload signature ms v n,
    Ends (sample.validate t) w (.ok Email.sample) w' ∧
      Sealed sample.secret t header payload signature ∧ jsonOf? payload = some (.ok (.obj ms)) ∧
      Keyed.find? "exp" ms = some v ∧ integerOf v = .ok n ∧ w.wallSeconds ≤ n ∧
      Keyed.find? "sub" ms = some (.str Email.sample.text) ∧ '@' ∈ Email.sample.text.toList ∧
      w.bannedAt w.uptime t = false := by
  obtain ⟨t, issued⟩ := @exists_issue sample World.sample sample_isPlain Email.sample rfl rfl
  obtain ⟨id, told⟩ := (issue_inv issued).1.sealedClaims sample_isPlain
  have unbanned : Ends (World.guarded .isBanned (Bans.contains t)) World.sample (.ok false)
      World.sample := rfl
  have accepted := validate_of_live told rfl (by decide) unbanned
  obtain ⟨header, payload, signature, ms, v, n, sealed⟩ :=
    (validate_sound sample_isPlain t).1 _ _ _ accepted
  exact ⟨sample_isPlain, t, _, _, header, payload, signature, ms, v, n, accepted, sealed⟩

/-! ## Deep headers -/

/-- A text whose header is nothing but brackets that are opened. -/
def bracketed (n : Nat) : String :=
  String.ofList (Base64.encode (Text.Utf8.encode (List.replicate n '[')) ++ ['.', '.'])

/-- The text of brackets has the brackets as its header, and nothing else. -/
lemma bracketed_parts (n : Nat) :
    Parts (bracketed n) (Base64.encode (Text.Utf8.encode (List.replicate n '['))) [] [] where
  text := by rw [bracketed, String.toList_ofList, List.append_assoc]; rfl
  header := Base64.point_notMem_encode _
  signature := List.not_mem_nil

/-- The JSON of a part that was written is what its text reads as. -/
lemma jsonOf?_encode (cs : List Char) :
    jsonOf? (Base64.encode (Text.Utf8.encode cs)) = some (Json.read cs) := by
  rw [jsonOf?, Base64.decode?_encode]
  simp only [Option.bind_eq_bind, Option.bind_some, Text.Utf8.decode?_encode, Option.pure_def]

/-- A text whose header is nested too deeply is not refused as a token that is none, though it is
not sealed: it is the reader that fails. -/
theorem validate_bracketed :
    (∀ header payload signature, ¬ Sealed sample.secret (bracketed 3000) header payload signature) ∧
      Ends (sample.validate (bracketed 3000)) World.sample (.error .tooDeep) World.sample ∧
      Fault.tooDeep.kind ≠ .token .malformed := by
  have deep : HasDeepHeader (bracketed 3000) := by
    refine ⟨_, _, _, bracketed_parts 3000, ?_⟩
    rw [jsonOf?_encode, Json.read_replicate (by decide)]
  have unsealed (header payload signature : List Char) :
      ¬ Sealed sample.secret (bracketed 3000) header payload signature := by
    intro sealed
    obtain ⟨ms, object, _⟩ := sealed.algorithm
    obtain ⟨header', payload', signature', parts, depth⟩ := deep
    rw [← (parts.unique sealed.parts).1, object] at depth
    cases depth
  refine ⟨unsealed, ?_, by decide⟩
  obtain ⟨told, _⟩ | ⟨_, shallow⟩ := sealedClaims_of_not_sealed sample_isPlain unsealed
  · refine validate_of_openAt_error ?_
    rw [openAt, told]
    rfl
  · exact absurd deep shallow

end Authority

end SignIn
