import Mathlib.Tactic.Lemma
import SignIn.Proofs.JsonText
import SignIn.Session

/-!
# Minted tokens

What a token that was minted for an address and an expiry is to the functions that take tokens
apart. `Envelope.ofText_assemble` takes the three parts apart again; a token whose seal holds then
opens exactly up to its expiry (`openAt_of_sealed`) and is good for the seconds until then
(`remainingAt_of_sealed`). Only that the seal of a minted token holds takes a plain secret, since a
secret that is JSON text is not the key that checks its own signatures.
-/

namespace SignIn.Token

open Text

/-- The seconds that have a date are those of the years 1 to 9999. -/
lemma hasDate_iff {n : Int} : hasDate n = true ↔ -62135596800 ≤ n ∧ n < 253402300800 := by
  rw [hasDate, Bool.and_eq_true, decide_eq_true_iff, decide_eq_true_iff]
  rfl

/-- A second with a date is dated. -/
lemma dated_of_hasDate {n : Int} (date : hasDate n = true) : dated n = .ok n := by
  rw [dated, if_pos date]

/-- An instant without a date cannot be told, which is nobody's fault but the calendar's. -/
lemma dated_of_undated {n : Int} (undated : hasDate n = false) :
    ∃ d, dated n = .error (.foreign d) := by
  rw [dated, if_neg (by rw [undated]; exact Bool.false_ne_true)]
  split
  · exact ⟨.undated, rfl⟩
  · split
    · exact ⟨.beyondCalendar, rfl⟩
    · exact ⟨.overflow, rfl⟩

/-- An instant that can be told is told as it is. -/
lemma dated_inv {n m : Int} (h : dated n = .ok m) : m = n := by
  cases date : hasDate n with
  | true =>
    rw [dated_of_hasDate date] at h
    exact (Except.ok.inj h).symm
  | false =>
    obtain ⟨d, undated⟩ := dated_of_undated date
    rw [undated] at h
    cases h

/-- The lengths of bans of tokens with a date are no trouble for any clock. -/
lemma fits_of_dates {expiry now : Int} (date : hasDate expiry = true) (date' : hasDate now = true) :
    (Seconds.whole (max 1 (max 0 (expiry - now)))).fits = true := by
  have large : 1000000000000 < Seconds.limit := by decide
  rw [hasDate_iff] at date date'
  exact decide_eq_true (by omega)

/-! ## Taking a token apart -/

/-- The first point is where a text is cut that has none before it. -/
lemma cutFirst_append {a : List Char} (h : '.' ∉ a) (b : List Char) :
    cutFirst (a ++ '.' :: b) = some (a, b) := by
  induction a with
  | nil => rfl
  | cons c a ih =>
    simp only [List.mem_cons, not_or] at h
    rw [List.cons_append, cutFirst, if_neg fun e => h.1 e.symm, ih h.2]
    rfl

/-- The last point is where a text is cut that has none after it. -/
lemma cutLast_append {b : List Char} (h : '.' ∉ b) (a : List Char) :
    cutLast (a ++ '.' :: b) = some (a, b) := by
  have reversed : (a ++ '.' :: b).reverse = b.reverse ++ '.' :: a.reverse := by
    rw [List.reverse_append, List.reverse_cons, List.append_assoc, List.singleton_append]
  rw [cutLast, reversed, cutFirst_append fun m => h (List.mem_reverse.1 m)]
  simp only [Option.map_some, List.reverse_reverse]

/-- A part that was written reads back as its octets. -/
lemma partOctets_encode (bs : List UInt8) : partOctets (Base64.encode bs) = .ok bs := by
  rw [partOctets, Base64.decode?_encode]

/-- An object that was written reads back as its members. -/
lemma objectOf_print {ms : List (String × Json)} (told : Json.Exact Json.nestingLimit (.obj ms)) :
    objectOf (Utf8.encode (Json.print .compact (.obj ms))) = .ok ms := by
  rw [objectOf, Utf8.decode?_encode]
  simp only [Json.read_print Json.Layout.compact_tidy told]

/-- The header of a token is exact wherever there is room for an object. -/
lemma exact_issuedHeader (room : Nat) : Json.Exact (room + 1) (.obj issuedHeader) := by
  refine .obj (by decide) ?_
  intro m h
  simp only [issuedHeader, List.mem_cons, List.not_mem_nil, or_false] at h
  obtain rfl | rfl := h
  · exact .str
  · exact .str

/-- A token is taken apart into what it was assembled from. -/
lemma Envelope.ofText_assemble (ms : List (String × Json)) (signature : List UInt8) :
    Envelope.ofText (assemble (signedText ms) signature) =
      .ok ⟨signedText ms, issuedHeader, Utf8.encode (Json.print .compact (.obj ms)),
        signature⟩ := by
  have last := cutLast_append (Base64.point_notMem_encode signature) (signedText ms)
  have first := cutFirst_append (a := part issuedHeader) (Base64.point_notMem_encode _) (part ms)
  have header : partOctets (part issuedHeader) =
      .ok (Utf8.encode (Json.print .compact (.obj issuedHeader))) := partOctets_encode _
  have payload : partOctets (part ms) = .ok (Utf8.encode (Json.print .compact (.obj ms))) :=
    partOctets_encode _
  rw [assemble, Envelope.ofText, String.toList_ofList, last]
  simp only
  rw [signedText, first]
  simp only [header, payload, partOctets_encode, objectOf_print (exact_issuedHeader _), bind,
    Except.bind]
  rfl

/-! ## Plain secrets -/

/-- A secret that stands for itself: its text is no JSON text and looks like no asymmetric key. -/
structure Key.IsPlain (secret : String) : Prop where
  noJson : ∃ f, Json.readWith .asTexts secret.toList = .error f
  accepted : Key.isRefused secret = false

/-- Exactly the signature that a plain secret makes is verified with it. -/
lemma Key.verifies_plain {secret : String} (plain : Key.IsPlain secret)
    (message signature : List UInt8) : Key.verifies secret message signature =
      .ok (decide (Hmac.sign (Key.octets secret) message = signature)) := by
  obtain ⟨f, noJson⟩ := plain.noJson
  have candidates : Key.candidates secret = .ok [.str secret] := by
    rw [Key.candidates, noJson]
  have key : Key.candidateOctets (.str secret) = .ok (Key.octets secret) := by
    rw [Key.candidateOctets, plain.accepted, if_neg Bool.false_ne_true]
  simp only [Key.verifies, candidates, Key.anyMatches, key, bind, Except.bind]
  split
  · next same => rw [decide_eq_true same]; rfl
  · next other => rw [decide_eq_false other]

/-- What a plain secret signs, it verifies. -/
lemma Key.verifies_sign {secret : String} (plain : Key.IsPlain secret)
    {message signature : List UInt8} (h : Key.sign secret message = .ok signature) :
    Key.verifies secret message signature = .ok true := by
  rw [Key.sign, plain.accepted, if_neg Bool.false_ne_true] at h
  rw [Key.verifies_plain plain, Except.ok.inj h, decide_eq_true rfl]

/-- A plain secret signs every message. -/
lemma Key.exists_sign {secret : String} (plain : Key.IsPlain secret) (message : List UInt8) :
    ∃ signature, Key.sign secret message = .ok signature := by
  rw [Key.sign, plain.accepted, if_neg Bool.false_ne_true]
  exact ⟨_, rfl⟩

end SignIn.Token

namespace SignIn.Authority

open Token

/-! ## Minting -/

/-- A token that the service mints for an address, with its expiry. -/
def Mints (a : Authority) (t : String) (e : Email) (expiry : Int) : Prop :=
  hasDate expiry = true ∧ ∃ id, a.mint (claims e expiry id) = .ok t

/-- The claims of a session are exact wherever there is room for an object. -/
lemma exact_claims (e : Email) {expiry : Int} (date : hasDate expiry = true) (id : BitVec 128)
    (room : Nat) : Json.Exact (room + 1) (.obj (claims e expiry id)) := by
  have short : (Nat.toDigits 10 expiry.natAbs).length ≤ Numeral.digitLimit := by
    have bound : expiry.natAbs < 10 ^ 12 := by
      rw [hasDate_iff] at date
      omega
    have le := (Nat.length_toDigits_le_iff (b := 10) (k := 12) (by decide) (by decide)).2 bound
    exact Nat.le_trans le (by decide)
  have distinct : ((claims e expiry id).map (·.1)).Nodup :=
    show ["sub", "exp", "jti"].Nodup by decide
  refine .obj distinct ?_
  intro m h
  simp only [claims, List.mem_cons, List.not_mem_nil, or_false] at h
  obtain rfl | rfl | rfl := h
  · exact .str
  · exact .int short
  · exact .str

/-- A minted token is the signed text and its signature. -/
lemma mint_eq_ok {a : Authority} {ms : Claims.Members} {t : String} (h : a.mint ms = .ok t) :
    ∃ signature, Key.sign a.secret (Text.Utf8.encode (signedText ms)) = .ok signature ∧
      t = assemble (signedText ms) signature := by
  rw [mint] at h
  cases e : Key.sign a.secret (Text.Utf8.encode (signedText ms)) with
  | error f =>
    simp only [e, bind, Except.bind] at h
    cases h
  | ok signature =>
    simp only [e, bind, Except.bind] at h
    exact ⟨signature, rfl, (Except.ok.inj h).symm⟩

/-- No token is empty. -/
lemma ne_empty_of_mint {a : Authority} {ms : Claims.Members} {t : String} (h : a.mint ms = .ok t) :
    t ≠ "" := by
  rintro rfl
  obtain ⟨signature, _, assembled⟩ := mint_eq_ok h
  have taken := Envelope.ofText_assemble ms signature
  rw [← assembled] at taken
  cases taken

/-- With a secret that is not refused a token is minted for any claims. -/
lemma exists_mint_of_accepted {a : Authority} (accepted : Key.isRefused a.secret = false)
    (ms : Claims.Members) : ∃ t, a.mint ms = .ok t := by
  rw [mint, Key.sign, accepted, if_neg Bool.false_ne_true]
  exact ⟨_, rfl⟩

/-- A plain secret mints every claim. -/
lemma exists_mint {a : Authority} (plain : Key.IsPlain a.secret) (ms : Claims.Members) :
    ∃ t, a.mint ms = .ok t :=
  exists_mint_of_accepted plain.accepted ms

/-- A value has no error to rename. -/
lemma mapError_ok {ε δ α : Type} (f : ε → δ) (u : α) :
    (.ok u : Except ε α).mapError f = .ok u := rfl

/-- What it takes that the seal of a token holds. -/
lemma sealedClaims_eq_ok {a : Authority} {t : String} {ms : Claims.Members}
    (h : a.sealedClaims t = .ok ms) :
    ∃ v, Envelope.ofText t = .ok v ∧
      (Keyed.find? "alg" v.header).bind Json.text? = some algorithm ∧
      Key.verifies a.secret (Text.Utf8.encode v.signed) v.signature = .ok true ∧
      objectOf v.payload = .ok ms := by
  rw [sealedClaims] at h
  cases envelope : Envelope.ofText t with
  | error f =>
    rw [envelope] at h
    cases h
  | ok v =>
    rw [envelope, mapError_ok] at h
    simp only [bind, Except.bind] at h
    refine ⟨v, rfl, ?_⟩
    split at h
    · next alg =>
      cases verified : Key.verifies a.secret (Text.Utf8.encode v.signed) v.signature with
      | error f =>
        simp only [verified] at h
        cases h
      | ok b =>
        simp only [verified] at h
        cases b with
        | false => cases h
        | true =>
          simp only [if_true] at h
          cases payload : objectOf v.payload with
          | error f =>
            simp only [payload] at h
            cases h
          | ok ms' =>
            simp only [payload] at h
            obtain rfl := Except.ok.inj h
            exact ⟨alg, rfl, rfl⟩
    · cases h

/-- The claims in a minted token are those it was minted with. -/
lemma Mints.claims_eq {a : Authority} {t : String} {e : Email} {expiry : Int}
    (minted : a.Mints t e expiry) {ms : Claims.Members} (h : a.sealedClaims t = .ok ms) :
    ∃ id, ms = claims e expiry id := by
  obtain ⟨date, id, mint⟩ := minted
  obtain ⟨signature, _, rfl⟩ := mint_eq_ok mint
  obtain ⟨v, envelope, _, _, payload⟩ := sealedClaims_eq_ok h
  rw [Envelope.ofText_assemble] at envelope
  obtain rfl := Except.ok.inj envelope
  rw [objectOf_print (exact_claims e date id _)] at payload
  exact ⟨id, (Except.ok.inj payload).symm⟩

/-- The seal of a token minted with a plain secret holds, whatever it claims. -/
lemma sealedClaims_of_mint {a : Authority} (plain : Key.IsPlain a.secret) {ms : Claims.Members}
    (told : Json.Exact Json.nestingLimit (.obj ms)) {t : String} (h : a.mint ms = .ok t) :
    a.sealedClaims t = .ok ms := by
  obtain ⟨signature, sign, rfl⟩ := mint_eq_ok h
  have alg : (Keyed.find? "alg" issuedHeader).bind Json.text? = some algorithm := by
    simp only [issuedHeader, Keyed.find?, if_true, Option.bind_some, Json.text?]
  have verified := Key.verifies_sign plain sign
  rw [Authority.sealedClaims, Envelope.ofText_assemble]
  simp only [mapError_ok, bind, Except.bind, alg, if_true, verified, objectOf_print told]

/-- The seal of a minted token holds and shows its claims. -/
lemma Mints.sealedClaims {a : Authority} (plain : Key.IsPlain a.secret) {t : String} {e : Email}
    {expiry : Int} (minted : a.Mints t e expiry) :
    ∃ id, a.sealedClaims t = .ok (claims e expiry id) := by
  obtain ⟨date, id, mint⟩ := minted
  exact ⟨id, sealedClaims_of_mint plain (exact_claims e date id _) mint⟩

/-! ## Opening -/

/-- A new token has three claims and no others. -/
lemma find?_claims (e : Email) (expiry : Int) (id : BitVec 128) :
    Keyed.find? "sub" (claims e expiry id) = some (.str e.text) ∧
      Keyed.find? "exp" (claims e expiry id) = some (.int expiry) ∧
      Keyed.find? "jti" (claims e expiry id) =
        some (.str (String.ofList (Text.toHex 32 id.toNat))) ∧
      ∀ name, name ∉ ["sub", "exp", "jti"] → Keyed.find? name (claims e expiry id) = none := by
  refine ⟨?_, ?_, ?_, ?_⟩
  · simp [claims, Keyed.find?]
  · simp [claims, Keyed.find?]
  · simp [claims, Keyed.find?]
  · intro name other
    simp only [List.mem_cons, List.not_mem_nil, or_false, not_or] at other
    obtain ⟨sub, exp, jti⟩ := other
    simp [claims, Keyed.find?, Ne.symm sub, Ne.symm exp, Ne.symm jti]

/-- The subject of new claims is their address. -/
lemma subject_claims (e : Email) (expiry : Int) (id : BitVec 128) :
    Claims.subject (claims e expiry id) = .ok e := by
  obtain ⟨sub, exp, _, _⟩ := find?_claims e expiry id
  have read : Email.read (some e.text) = .ok e := by
    rw [Email.read, Field.read, Option.bind_some, Email.ofText?_text]
  simp only [Claims.subject, exp, sub, Option.isNone_some, Bool.false_eq_true, if_false,
    Option.bind_some, Json.text?, read]

/-- The claims of a minted token hold up to its expiry. -/
lemma checkAll_claims (e : Email) (expiry : Int) (id : BitVec 128) (now : Int) :
    Claims.checkAll now (claims e expiry id) =
      (dated now).bind fun now => if now ≤ expiry then .ok () else .error Claims.expired := by
  obtain ⟨sub, exp, jti, others⟩ := find?_claims e expiry id
  -- the checks of the claims that a new token does not have pass
  have iat := others "iat" (by decide)
  have nbf := others "nbf" (by decide)
  have aud := others "aud" (by decide)
  have hash := others "at_hash" (by decide)
  simp only [Claims.checkAll, Claims.check, iat, nbf, exp, aud, sub, jti, hash, Claims.instant,
    integerOf, Claims.demand, Json.text?, Option.isSome_some, if_true, bind, Except.bind]
  cases dated now with
  | error f => rfl
  | ok now =>
    by_cases h : now ≤ expiry
    · simp only [h, decide_true, if_true]
    · simp only [h, decide_false, Bool.false_eq_true, if_false]

/-- A sealed token with the claims of a minted one opens exactly up to its expiry. -/
lemma openAt_of_sealed {a : Authority} {t : String} {e : Email} {expiry : Int} {id : BitVec 128}
    (h : a.sealedClaims t = .ok (claims e expiry id)) (now : Int) :
    a.openAt now t =
      (dated now).bind fun now => if now ≤ expiry then .ok e else .error Claims.expired := by
  rw [openAt, h]
  show ((Claims.checkAll now (claims e expiry id)).bind fun _ =>
    Claims.subject (claims e expiry id)) = _
  rw [checkAll_claims, subject_claims]
  cases dated now with
  | error f => rfl
  | ok now =>
    show ((if now ≤ expiry then .ok () else .error Claims.expired : Except Fault Unit).bind
      fun _ => .ok e) = if now ≤ expiry then .ok e else .error Claims.expired
    split
    · rfl
    · rfl

/-- The seal of a minted token that ever opens holds. -/
lemma Mints.sealed_of_openAt {a : Authority} {t : String} {e f : Email} {expiry now : Int}
    (minted : a.Mints t e expiry) (opened : a.openAt now t = .ok f) :
    ∃ id, a.sealedClaims t = .ok (claims e expiry id) := by
  rw [openAt] at opened
  cases told : a.sealedClaims t with
  | error g =>
    rw [told] at opened
    cases opened
  | ok ms =>
    obtain ⟨id, rfl⟩ := minted.claims_eq told
    exact ⟨id, rfl⟩

/-- A minted token opens only at instants that have a date. -/
lemma Mints.hasDate_of_openAt {a : Authority} {t : String} {e f : Email} {expiry now : Int}
    (minted : a.Mints t e expiry) (opened : a.openAt now t = .ok f) : hasDate now = true := by
  obtain ⟨id, told⟩ := minted.sealed_of_openAt opened
  cases date : hasDate now with
  | true => rfl
  | false =>
    obtain ⟨d, undated⟩ := dated_of_undated date
    rw [openAt_of_sealed told, undated] at opened
    cases opened

/-- A minted token opens for its own address, and not after its expiry. -/
lemma Mints.openAt_inv {a : Authority} {t : String} {e f : Email} {expiry now : Int}
    (minted : a.Mints t e expiry) (opened : a.openAt now t = .ok f) : f = e ∧ now ≤ expiry := by
  obtain ⟨id, told⟩ := minted.sealed_of_openAt opened
  have date := minted.hasDate_of_openAt opened
  rw [openAt_of_sealed told, dated_of_hasDate date, Except.bind] at opened
  split at opened
  · next live => exact ⟨(Except.ok.inj opened).symm, live⟩
  · cases opened

/-- A sealed token with the claims of a minted one is good for the seconds up to its expiry. -/
lemma remainingAt_of_sealed {a : Authority} {t : String} {e : Email} {expiry : Int}
    {id : BitVec 128} (h : a.sealedClaims t = .ok (claims e expiry id)) (now : Int) :
    a.remainingAt now t = .ok (max 0 (expiry - now)) := by
  obtain ⟨v, envelope, _, _, payload⟩ := sealedClaims_eq_ok h
  obtain ⟨_, exp, _⟩ := find?_claims e expiry id
  rw [remainingAt, envelope]
  simp only [payload, exp, integerOf]

end SignIn.Authority
