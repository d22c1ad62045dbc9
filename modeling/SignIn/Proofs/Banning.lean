import Mathlib
import SignIn.Proofs.Containment
import SignIn.Proofs.Seals

/-!
# Banning any text

Which texts can be banned as tokens, whatever they are, and for how long. The seal is not checked;
what counts is the payload that a text discloses (`Discloses`). If it claims an end that is an
integer, the ban lasts until then, and otherwise for the length of a session. There are three
exceptions, in which nothing is banned: an end that is infinite, a payload that is nested too deeply
for the reader, and an end so late that the store in memory cannot hold the ban.
-/

namespace SignIn

open World Token

namespace Token

variable {t : String}

/-- A text has an object for its header and Base64 for its signature, and this is what reading its
payload as JSON comes to. -/
def Discloses (t : String) (told : Except Json.ReadFault Json) : Prop :=
  ∃ header payload signature ms bs, Parts t header payload signature ∧
    jsonOf? header = some (.ok (.obj ms)) ∧ Base64.decode? signature = some bs ∧
    jsonOf? payload = some told

/-- The payload of a text claims this end. -/
def ClaimsEnd (t : String) (v : Json) : Prop :=
  ∃ ms, Discloses t (.ok (.obj ms)) ∧ Keyed.find? "exp" ms = some v

/-- The payload of a text is nested more deeply than JSON is read. -/
def HasDeepPayload (t : String) : Prop :=
  Discloses t (.error .depth)

/-- The octets of an object read as it, and octets that are nested too deeply as that. -/
lemma objectOf_inv {bs : List UInt8} :
    (∀ ms, objectOf bs = .ok ms →
      ∃ cs, Text.Utf8.decode? bs = some cs ∧ Json.read cs = .ok (.obj ms)) ∧
    (objectOf bs = .error .tooDeep →
      ∃ cs, Text.Utf8.decode? bs = some cs ∧ Json.read cs = .error .depth) := by
  rw [objectOf]
  cases Text.Utf8.decode? bs with
  | none => simp
  | some cs =>
    simp only
    split
    · next ms read =>
      refine ⟨fun _ same => ⟨cs, rfl, ?_⟩, by simp⟩
      rw [read, Except.ok.inj same]
    · simp
    · next deep => exact ⟨by simp, fun _ => ⟨cs, rfl, deep⟩⟩
    · simp

/-- What a text discloses is what its payload reads as when it is taken apart. -/
lemma discloses_iff {told : Except Json.ReadFault Json} :
    Discloses t told ↔ ∃ e cs, Envelope.ofText t = .ok e ∧
      Text.Utf8.decode? e.payload = some cs ∧ Json.read cs = told := by
  constructor
  · rintro ⟨header, payload, signature, ms, bs, parts, object, sealing, told⟩
    obtain ⟨p, octets, told⟩ := Option.bind_eq_some_iff.1 told
    obtain ⟨cs, text, told⟩ := Option.bind_eq_some_iff.1 told
    refine ⟨⟨header ++ '.' :: payload, ms, p, bs⟩, cs, ?_, text, Option.some.inj told⟩
    have opened : (partOctets header).bind objectOf = .ok ms := by
      rw [objectOf_partOctets, object]
    rw [parts.ofText_eq, opened, partOctets_eq_ok_iff.2 octets, partOctets_eq_ok_iff.2 sealing]
    rfl
  · rintro ⟨e, cs, envelope, text, rfl⟩
    obtain ⟨header, payload, signature, parts⟩ := exists_parts envelope
    obtain ⟨_, object, octets, sealing⟩ := parts.ofText_inv envelope
    refine ⟨header, payload, signature, _, _, parts, object, partOctets_eq_ok_iff.1 sealing, ?_⟩
    rw [jsonOf?, partOctets_eq_ok_iff.1 octets]
    simp only [Option.bind_eq_bind, Option.bind_some, text, Option.pure_def]

/-- Of all values, the infinite numbers have no integer for being too large. -/
lemma integerOf_infinite_iff {v : Json} :
    integerOf v = .error .infinite ↔ ∃ negative, v = .real (.infinite negative) := by
  constructor
  · intro told
    cases v with
    | real x =>
      cases x with
      | nan => cases told
      | infinite negative => exact ⟨negative, rfl⟩
      | finite negative m e => cases told
    | str s =>
      rw [integerOf] at told
      split at told
      · cases told
      · cases told
    | null | bool | int | arr | obj | torn => cases told
  · rintro ⟨negative, rfl⟩
    rfl

end Token

namespace Authority

variable {a : Authority} {t : String} {w w' : World} {now : Int}

/-- A token that claims an end lasts until then, and no less than no time. -/
lemma remainingAt_of_end {v : Json} {n : Int} (claimed : ClaimsEnd t v)
    (integer : integerOf v = .ok n) : a.remainingAt now t = .ok (max 0 (n - now)) := by
  obtain ⟨ms, told, found⟩ := claimed
  obtain ⟨e, cs, envelope, text, read⟩ := discloses_iff.1 told
  simp only [remainingAt, envelope, objectOf, text, read, found, integer]

/-- A token that claims an infinite end lasts too long to be told. -/
lemma remainingAt_of_endless {negative : Bool}
    (claimed : ClaimsEnd t (.real (.infinite negative))) :
    a.remainingAt now t = .error .overflow := by
  obtain ⟨ms, told, found⟩ := claimed
  obtain ⟨e, cs, envelope, text, read⟩ := discloses_iff.1 told
  have infinite := integerOf_infinite_iff.2 ⟨negative, rfl⟩
  simp only [remainingAt, envelope, objectOf, text, read, found, infinite]

/-- A token whose payload is too deep cannot be told to last. -/
lemma remainingAt_of_deep (deep : HasDeepPayload t) : a.remainingAt now t = .error .tooDeep := by
  obtain ⟨e, cs, envelope, text, read⟩ := discloses_iff.1 deep
  simp only [remainingAt, envelope, objectOf, text, read]

/-- A text is good for the length of a session if it claims no end, or one that is no integer. -/
lemma remainingAt_of_other (shallow : ¬HasDeepPayload t)
    (other : ∀ v, ClaimsEnd t v →
      (∀ n, integerOf v ≠ .ok n) ∧ ∀ negative, v ≠ .real (.infinite negative)) :
    a.remainingAt now t = .ok a.seconds := by
  rw [remainingAt]
  split
  case h_1 => rfl
  case h_2 e envelope =>
    split
    case h_1 => rfl
    case h_2 deep =>
      obtain ⟨cs, text, read⟩ := objectOf_inv.2 deep
      exact absurd (discloses_iff.2 ⟨e, cs, envelope, text, read⟩) shallow
    case h_3 ms object =>
      split
      case h_1 => rfl
      case h_2 v found =>
        obtain ⟨cs, text, read⟩ := objectOf_inv.1 ms object
        obtain ⟨fraction, finite⟩ :=
          other v ⟨ms, discloses_iff.2 ⟨e, cs, envelope, text, read⟩, found⟩
        split
        case h_1 n integer => exact absurd integer (fraction n)
        case h_2 infinite =>
          obtain ⟨negative, same⟩ := integerOf_infinite_iff.1 infinite
          exact absurd same (finite negative)
        case h_3 => rfl

/-- What is left of a token is told without a change to the world. -/
lemma remaining_ends {r : Except Fault Int} (told : a.remainingAt w.wallSeconds t = r) :
    Ends (a.remaining t) w r w := by
  obtain ⟨s, v, run⟩ := Ends.total (a.remaining t) w
  obtain ⟨rfl, rfl⟩ := Service.remaining_inv run
  rw [← told]
  exact run

end Authority

/-- A ban that the store can hold is set if the server works. -/
lemma Bans.exists_revoke {w : World} {n : Int} (served : w.keyspace.outages = [])
    (room : w.bans = .keyspace ∨ (Seconds.whole (max 1 n)).fits = true) (t : String) :
    ∃ v, Ends (revoke t (.whole n)) w (.ok ()) v ∧ v.keyspace.outages = [] ∧
      v.uptime = w.uptime ∧ w.BanSet v t (w.uptime + 1000 * max 1 n) := by
  obtain ⟨r, v, run⟩ := Ends.total (revoke t (.whole n)) w
  obtain ⟨same, ⟨rfl, set⟩ | ⟨⟨f, rfl⟩, _, fails⟩⟩ := Bans.revoke_inv run
  · exact ⟨v, run, same.served.trans served, same.uptime, set⟩
  · obtain store | fits := room
    · rw [revoke, Ends.get_bind, store] at run
      simp only [Seconds.truncate?, command_eq] at run
      obtain ⟨_, told, _⟩ | ⟨g, broken, _⟩ := reported_bind_inv run
      · cases told
      · have lasting : 0 < max 1 n := by omega
        rw [Keyspace.fault?_eq_none served lasting] at broken
        cases broken
    · exact absurd ⟨served, fits⟩ fails

namespace Authority

/-- How long a text is still good as a token. -/
structure Remains (a : Authority) (w : World) (t : String) : Prop where
  /-- A text that claims an integer for its end is good until then. -/
  ending : ∀ v n, ClaimsEnd t v → integerOf v = .ok n →
    Ends (a.remaining t) w (.ok (max 0 (n - w.wallSeconds))) w
  endless : ∀ negative, ClaimsEnd t (.real (.infinite negative)) →
    Ends (a.remaining t) w (.error .overflow) w
  deep : HasDeepPayload t → Ends (a.remaining t) w (.error .tooDeep) w
  /-- Any other text is good for the length of a session. -/
  other : ¬HasDeepPayload t →
    (∀ v, ClaimsEnd t v →
      (∀ n, integerOf v ≠ .ok n) ∧ ∀ negative, v ≠ .real (.infinite negative)) →
    Ends (a.remaining t) w (.ok a.seconds) w

/-- What comes of banning a text. -/
structure Revokes (a : Authority) (w : World) (t : String) : Prop where
  remains : a.Remains w t
  /-- The text is banned for as long as it is good, but at least for a second, if the store can hold
  that. -/
  banned : ∀ n, Ends (a.remaining t) w (.ok n) w →
    w.bans = .keyspace ∨ (Seconds.whole (max 1 n)).fits = true →
    ∃ v, Ends (a.revoke t) w (.ok ()) v ∧ ∀ (wall : Int) (ms : Nat), ms < 1000 * max 1 n →
      ∃ u, Ends (Bans.contains t) (v.advance wall ms) (.ok true) u
  overlong : ∀ n, Ends (a.remaining t) w (.ok n) w → w.bans ≠ .keyspace →
    (Seconds.whole (max 1 n)).fits = false → Ends (a.revoke t) w (.error .overflow) w
  /-- If it cannot be told how long the text is good, nothing changes. -/
  untold : ∀ f, Ends (a.remaining t) w (.error f) w → Ends (a.revoke t) w (.error f) w

/-- A text is good for as long as its payload says. -/
lemma remains (a : Authority) (w : World) (t : String) : a.Remains w t where
  ending _ _ claimed integer := remaining_ends (remainingAt_of_end claimed integer)
  endless _ claimed := remaining_ends (remainingAt_of_endless claimed)
  deep deep := remaining_ends (remainingAt_of_deep deep)
  other shallow other := remaining_ends (remainingAt_of_other shallow other)

/-- How long any text is banned that has no unpaired surrogates. The ban lasts until the end that
its payload claims, if that is an integer, and else for the length of a session, but always a
second. Only an infinite end, a payload that is too deep, and an end that the store in memory cannot
hold are faults, and then nothing changes. -/
theorem revoke_any (a : Authority) (t : String) {w : World} (calm : w.outages .revoke = none)
    (served : w.keyspace.outages = []) : a.Revokes w t := by
  refine ⟨a.remains w t, fun n told room => ?_, fun n told inMemory long => ?_,
    fun f told => told.bind_error _⟩
  · obtain ⟨v, run, served', uptime, set⟩ := Bans.exists_revoke served room t
    refine ⟨v, told.bind (World.guarded_of_none calm run), fun wall ms early => ?_⟩
    obtain ⟨r, u, asked⟩ := Ends.total (Bans.contains t) (v.advance wall ms)
    have still : (v.advance wall ms).bannedAt (v.uptime + ms) t = true := by
      refine set.before _ ?_ ?_
      · omega
      · omega
    obtain ⟨_, rfl | ⟨_, broken⟩⟩ := Bans.contains_inv asked
    · rw [show (v.advance wall ms).uptime = v.uptime + ms from rfl, still] at asked
      exact ⟨u, asked⟩
    · exact absurd served' broken
  · cases store : w.bans with
    | register r => exact told.bind (World.guarded_of_none calm (Bans.revoke_overlong store long))
    | keyspace => exact absurd store inMemory

/-- An unsigned token that claims an end. -/
def ending (v : Json) : String :=
  assemble (signedText [("exp", v)]) []

/-- The token that was made to claim an end claims it. -/
lemma claimsEnd_ending {v : Json} (read : Json.read (Json.print .compact (.obj [("exp", v)])) =
    .ok (.obj [("exp", v)])) : ClaimsEnd (ending v) v :=
  ⟨_, discloses_iff.2 ⟨_, _, Envelope.ofText_assemble _ _, Text.Utf8.decode?_encode _, read⟩, rfl⟩

/-- The claim of an end reads back if its number is not too long. -/
lemma read_ending {n : Int} (short : (Nat.toDigits 10 n.natAbs).length ≤ Numeral.digitLimit) :
    Json.read (Json.print .compact (.obj [("exp", .int n)])) = .ok (.obj [("exp", .int n)]) := by
  have told (room : Nat) : Json.Exact (room + 1) (.obj [("exp", .int n)]) := by
    refine .obj (List.pairwise_singleton _ _) fun m mem => ?_
    rw [List.mem_singleton.1 mem]
    exact .int short
  exact Json.read_print Json.Layout.compact_tidy (told _)

/-- A token whose end is past is banned, and so is a text that is no token. -/
theorem revoke_any_sample : World.sample.outages .revoke = none ∧
    World.sample.keyspace.outages = [] ∧
    (Ends (sample.remaining (ending (.int 1600000000))) World.sample (.ok 0) World.sample ∧
      ∃ v, Ends (sample.revoke (ending (.int 1600000000))) World.sample (.ok ()) v ∧
        ∃ u, Ends (Bans.contains (ending (.int 1600000000))) (v.advance 0 999) (.ok true) u) ∧
    Ends (sample.remaining "no token") World.sample (.ok 600) World.sample ∧
      ∃ v, Ends (sample.revoke "no token") World.sample (.ok ()) v ∧
        ∃ u, Ends (Bans.contains "no token") (v.advance 0 599999) (.ok true) u := by
  have undisclosed (told : Except Json.ReadFault Json) : ¬Discloses "no token" told := by
    intro h
    obtain ⟨e, _, envelope, _⟩ := discloses_iff.1 h
    cases envelope
  refine ⟨rfl, rfl, ?_, ?_⟩
  · have revokes := revoke_any sample (ending (.int 1600000000)) (w := World.sample) rfl rfl
    have remains := revokes.remains.ending _ _ (claimsEnd_ending (read_ending (by decide))) rfl
    obtain ⟨v, run, later⟩ := revokes.banned _ remains (.inr (by decide))
    exact ⟨remains, v, run, later 0 999 (by decide)⟩
  · have revokes := revoke_any sample "no token" (w := World.sample) rfl rfl
    have endless (v : Json) : ¬ClaimsEnd "no token" v := by
      rintro ⟨ms, told, _⟩
      exact undisclosed _ told
    have remains := revokes.remains.other (undisclosed _)
      fun v claimed => absurd claimed (endless v)
    obtain ⟨v, run, later⟩ := revokes.banned _ remains (.inr (by decide))
    exact ⟨remains, v, run, later 0 599999 (by decide)⟩

/-- A text with a header like that of a token and a payload of nothing but opened brackets. -/
def deepPayload : String :=
  String.ofList ((part issuedHeader ++ '.' ::
    Base64.encode (Text.Utf8.encode (List.replicate 3000 '['))) ++ ['.'])

/-- The payload of nothing but brackets is too deep. -/
lemma hasDeepPayload : HasDeepPayload deepPayload := by
  refine ⟨part issuedHeader, Base64.encode (Text.Utf8.encode (List.replicate 3000 '[')), [],
    issuedHeader, [], ⟨?_, Base64.point_notMem_encode _, List.not_mem_nil⟩, ?_, rfl, ?_⟩
  · rw [deepPayload, String.toList_ofList]
  · rw [part, jsonOf?_encode, Json.read_print Json.Layout.compact_tidy (exact_issuedHeader _)]
  · rw [jsonOf?_encode, Json.read_replicate (by decide)]

/-- Texts that are not banned, each for another of the three reasons: its payload claims an infinite
end, or is too deep, or claims an end that the store in memory cannot hold. -/
theorem revoke_refused :
    (Ends (sample.remaining (ending (.real (.infinite false)))) World.sample (.error .overflow)
        World.sample ∧
      Ends (sample.revoke (ending (.real (.infinite false)))) World.sample (.error .overflow)
        World.sample) ∧
    (Ends (sample.remaining deepPayload) World.sample (.error .tooDeep) World.sample ∧
      Ends (sample.revoke deepPayload) World.sample (.error .tooDeep) World.sample) ∧
    Ends (sample.revoke (ending (.int (Seconds.limit + 1700000000)))) World.sample
      (.error .overflow) World.sample := by
  have endless : Ends (sample.remaining (ending (.real (.infinite false)))) World.sample
      (.error .overflow) World.sample :=
    remaining_ends (remainingAt_of_endless (claimsEnd_ending (by cbv)))
  have deep : Ends (sample.remaining deepPayload) World.sample (.error .tooDeep) World.sample :=
    remaining_ends (remainingAt_of_deep hasDeepPayload)
  have late : Ends (sample.remaining (ending (.int (Seconds.limit + 1700000000)))) World.sample
      (.ok (max 0 (Seconds.limit + 1700000000 - 1700000000))) World.sample :=
    remaining_ends (remainingAt_of_end (claimsEnd_ending (read_ending (by decide +kernel))) rfl)
  have long : (Seconds.whole (max 1 (max 0 (Seconds.limit + 1700000000 - 1700000000)))).fits =
      false := by decide
  exact ⟨⟨endless, endless.bind_error _⟩, ⟨deep, deep.bind_error _⟩,
    late.bind (World.guarded_of_none rfl (Bans.revoke_overlong rfl long))⟩

end Authority

end SignIn
