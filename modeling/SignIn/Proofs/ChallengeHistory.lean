import SignIn.Proofs.Lifetime
import SignIn.Proofs.Stores
import SignIn.Proofs.Turns

/-!
# Histories of challenges

What a challenge store tells after any calls, in terms of its history: the live challenge of an
address is the one that was issued last, if its lifetime is not over and it was neither consumed nor
taken since. Each call is first put in terms of what the world tells, the same for the store in
memory and the one on the server; the history follows from that. So the two stores answer alike,
unless the lifetime is more than a clock in memory can hold.
-/

namespace SignIn

open World

/-- A call of a challenge store. -/
inductive ChallengeCall
  | issue (e : Email) (c : Challenge)
  | consume (e : Email)
  | peek (e : Email)
  | take (e : Email) (c : Challenge)
  deriving DecidableEq

/-- What a challenge store answers. -/
inductive ChallengeReply
  | done
  | found (c : Challenge)
  | taken (yes : Bool)
  deriving DecidableEq

/-- Makes a call. -/
def ChallengeCall.perform : ChallengeCall → Call ChallengeReply
  | issue e c => (fun _ => .done) <$> Challenges.issue e c
  | consume e => (fun _ => .done) <$> Challenges.consume e
  | peek e => .found <$> Challenges.peek e
  | take e c => .taken <$> Challenges.take e c

abbrev ChallengeRecord := Record ChallengeCall ChallengeReply

/-- Where calls of a challenge store lead from a world. -/
abbrev World.challenging (w : World) (turns : List (Turn ChallengeCall)) :
    Play ChallengeCall ChallengeReply :=
  w.play ChallengeCall.perform turns

namespace Record

/-- A challenge was issued for an address, and its lifetime is not over. -/
def Opens (lifetime now : Int) (e : Email) (c : Challenge) (x : ChallengeRecord) : Prop :=
  x.call = .issue e c ∧ x.answer = .ok .done ∧ now < x.instant + 1000 * lifetime

/-- What puts an end to the challenge of an address: another one, or its being consumed or
taken. -/
def Closes (e : Email) (x : ChallengeRecord) : Prop :=
  (∃ c, x.call = .issue e c) ∧ x.answer = .ok .done ∨
    x.call = .consume e ∧ x.answer = .ok .done ∨
      (∃ c, x.call = .take e c) ∧ x.answer = .ok (.taken true)

/-- A challenge that is issued puts an end to the one before it. -/
lemma Opens.closes {lifetime now : Int} {e : Email} {c : Challenge} {x : ChallengeRecord}
    (h : x.Opens lifetime now e c) : x.Closes e :=
  .inl ⟨⟨c, h.1⟩, h.2.1⟩

end Record

/-- The challenge that was issued last for an address is not over, and it was neither consumed nor
taken since. -/
def Live (h : List ChallengeRecord) (lifetime now : Int) (e : Email) (c : Challenge) : Prop :=
  InForce (Record.Opens lifetime now e c) (Record.Closes e) h

section History

variable {h : List ChallengeRecord} {x : ChallengeRecord} {lifetime now s : Int} {e f : Email}
  {c d : Challenge}

/-- An address has one live challenge at most. -/
lemma Live.unique (live : Live h lifetime now e c) (live' : Live h lifetime now e d) : c = d := by
  obtain ⟨x, _, opened, opened'⟩ := InForce.unique (fun _ => Record.Opens.closes)
    (fun _ => Record.Opens.closes) live live'
  have same := opened.1.symm.trans opened'.1
  cases same
  rfl

/-- After an issue the new challenge is the live one of its address, for its lifetime. -/
lemma live_snoc_issue :
    Live (h ++ [⟨.issue e c, s, .ok .done⟩]) lifetime now f d ↔
      if e = f then c = d ∧ now < s + 1000 * lifetime else Live h lifetime now f d := by
  rw [Live, inForce_snoc]
  by_cases same : e = f
  · subst same
    rw [if_pos rfl]
    constructor
    · rintro (⟨call, _, early⟩ | ⟨_, lasts⟩)
      · cases call
        exact ⟨rfl, early⟩
      · exact absurd (.inl ⟨⟨c, rfl⟩, rfl⟩) lasts
    · rintro ⟨rfl, early⟩
      exact .inl ⟨rfl, rfl, early⟩
  · rw [if_neg same]
    have apart : ¬ Record.Closes f ⟨.issue e c, s, .ok .done⟩ := by
      rintro (⟨⟨_, call⟩, _⟩ | ⟨call, _⟩ | ⟨⟨_, call⟩, _⟩)
      · cases call
        exact same rfl
      · cases call
      · cases call
    rw [or_iff_right fun opened => apart opened.closes, and_iff_left apart]
    rfl

/-- What puts an end to one challenge and starts none. -/
lemma live_snoc_closes (ended : ∀ f, x.Closes f ↔ e = f) (idle : ∀ f d, x.call ≠ .issue f d) :
    Live (h ++ [x]) lifetime now f d ↔ if e = f then False else Live h lifetime now f d := by
  rw [Live, inForce_snoc, ended, or_iff_right fun opened => idle f d opened.1]
  by_cases same : e = f
  · rw [if_pos same]
    exact iff_of_false (fun both => both.2 same) id
  · rw [if_neg same, and_iff_left same]
    rfl

/-- A record that closes nothing leaves the live challenges as they were. -/
lemma live_snoc_idle (idle : ∀ f, ¬ x.Closes f) :
    Live (h ++ [x]) lifetime now f d ↔ Live h lifetime now f d := by
  rw [Live, inForce_snoc, or_iff_right fun opened => idle f opened.closes, and_iff_left (idle f)]
  rfl

/-- Consuming closes the challenge of its address and no other. -/
lemma closes_consume : Record.Closes f ⟨.consume e, s, .ok .done⟩ ↔ e = f := by
  constructor
  · rintro (⟨⟨_, call⟩, _⟩ | ⟨call, _⟩ | ⟨⟨_, call⟩, _⟩)
    · cases call
    · cases call
      rfl
    · cases call
  · rintro rfl
    exact .inr (.inl ⟨rfl, rfl⟩)

/-- Taking closes the challenge of its address and no other. -/
lemma closes_taken : Record.Closes f ⟨.take e c, s, .ok (.taken true)⟩ ↔ e = f := by
  constructor
  · rintro (⟨⟨_, call⟩, _⟩ | ⟨call, _⟩ | ⟨⟨_, call⟩, _⟩)
    · cases call
    · cases call
    · cases call
      rfl
  · rintro rfl
    exact .inr (.inr ⟨⟨c, rfl⟩, rfl⟩)

/-- A call ends no challenge if it is not told to be done or to have taken one. -/
lemma not_closes {c : ChallengeCall} {r : Except Fault ChallengeReply} (undone : r ≠ .ok .done)
    (untaken : r ≠ .ok (.taken true)) : ¬ Record.Closes f ⟨c, s, r⟩ := by
  rintro (⟨_, told⟩ | ⟨_, told⟩ | ⟨_, told⟩)
  · exact undone told
  · exact undone told
  · exact untaken told

end History

/-! ## What a call does and tells -/

/-- What a call does in terms of what the world tells, if challenges live for `lifetime` seconds and
`able` says whether the store can hold that. -/
def ChallengeCall.Does (able : Bool) (lifetime : Int) (w : World)
    (r : Except Fault ChallengeReply) (v : World) : ChallengeCall → Prop
  | .issue e c =>
    able = true ∧ r = .ok .done ∧ w.ChallengeSet v e c (w.uptime + 1000 * lifetime) ∨
      able = false ∧ r = .error .overflow ∧ SameBut [] w v
  | .consume e => r = .ok .done ∧ w.ChallengeTaken v e
  | .peek e =>
    ((∃ c, r = .ok (.found c) ∧ w.pendingAt w.uptime e c = true) ∨
      r = .error (.challenge .noChallenge) ∧ ∀ c, w.pendingAt w.uptime e c = false) ∧
        SameBut [] w v
  | .take e c =>
    r = .ok (.taken true) ∧ w.pendingAt w.uptime e c = true ∧ w.ChallengeTaken v e ∨
      r = .ok (.taken false) ∧ w.pendingAt w.uptime e c = false ∧ SameBut [] w v

/-- A call does what it should, and leads to another world of a kind without taking time. -/
def ChallengeCall.Serves (kind : World → Prop) (able : Bool) (lifetime : Int) (w : World)
    (r : Except Fault ChallengeReply) (v : World) (c : ChallengeCall) : Prop :=
  kind v ∧ v.uptime = w.uptime ∧ c.Does able lifetime w r v

/-- What the history tells of a call: its only answer. -/
def ChallengeCall.Told (able : Bool) (lifetime : Int) (h : List ChallengeRecord) (now : Int) :
    ChallengeCall → Except Fault ChallengeReply → Prop
  | .issue _ _, r => r = if able then .ok .done else .error .overflow
  | .consume _, r => r = .ok .done
  | .peek e, r =>
    (∃ c, r = .ok (.found c) ∧ Live h lifetime now e c) ∨
      r = .error (.challenge .noChallenge) ∧ ∀ c, ¬ Live h lifetime now e c
  | .take e c, r => ∃ b, r = .ok (.taken b) ∧ (b = true ↔ Live h lifetime now e c)

/-- What the world tells is what its history tells, now and later on. -/
def Play.Mirrors (lifetime : Int) (p : Play ChallengeCall ChallengeReply) : Prop :=
  ∀ now, p.world.uptime ≤ now → ∀ e c,
    p.world.pendingAt now e c = true ↔ Live p.history lifetime now e c

namespace ChallengeCall

variable {able : Bool} {lifetime now : Int} {h : List ChallengeRecord} {c : ChallengeCall}
  {r s : Except Fault ChallengeReply} {p : Play ChallengeCall ChallengeReply} {v : World}

/-- What is told of a history is told in one way. -/
lemma Told.unique (told : c.Told able lifetime h now r) (told' : c.Told able lifetime h now s) :
    r = s := by
  cases c with
  | issue e d => exact told.trans told'.symm
  | consume e => exact told.trans told'.symm
  | peek e =>
    obtain ⟨d, rfl, live⟩ | ⟨rfl, none⟩ := told
    · obtain ⟨d', rfl, live'⟩ | ⟨rfl, none'⟩ := told'
      · rw [live.unique live']
      · exact absurd live (none' d)
    · obtain ⟨d', rfl, live'⟩ | ⟨rfl, none'⟩ := told'
      · exact absurd live' (none d')
      · rfl
  | take e d =>
    obtain ⟨b, rfl, tells⟩ := told
    obtain ⟨b', rfl, tells'⟩ := told'
    rw [Bool.eq_iff_iff.2 (tells.trans tells'.symm)]

/-- What a call does is what the history tells of it. -/
lemma Does.told (does : c.Does able lifetime p.world r v) (mirrors : p.Mirrors lifetime) :
    c.Told able lifetime p.history p.world.uptime r := by
  have now := mirrors p.world.uptime (Int.le_refl _)
  cases c with
  | issue e d =>
    obtain ⟨rfl, rfl, _⟩ | ⟨rfl, rfl, _⟩ := does
    · rfl
    · rfl
  | consume e => exact does.1
  | peek e =>
    obtain ⟨⟨d, rfl, there⟩ | ⟨rfl, none⟩, _⟩ := does
    · exact .inl ⟨d, rfl, (now e d).1 there⟩
    · refine .inr ⟨rfl, fun d live => ?_⟩
      have there := (now e d).2 live
      rw [none] at there
      cases there
  | take e d =>
    obtain ⟨rfl, there, _⟩ | ⟨rfl, gone, _⟩ := does
    · exact ⟨true, rfl, iff_of_true rfl ((now e d).1 there)⟩
    · refine ⟨false, rfl, iff_of_false Bool.false_ne_true fun live => ?_⟩
      rw [(now e d).2 live] at gone
      cases gone

/-- What a call does keeps the world and its history together. -/
lemma Does.mirrors (does : c.Does able lifetime p.world r v) (mirrors : p.Mirrors lifetime)
    (prompt : v.uptime = p.world.uptime) :
    Play.Mirrors lifetime ⟨v, p.history ++ [⟨c, p.world.uptime, r⟩]⟩ := by
  intro now reached f g
  have le : p.world.uptime ≤ now := by rw [← prompt]; exact reached
  -- a call other than issuing leaves every challenge, or puts an end to one
  have idle (same : SameBut [] p.world v)
      (unended : ∀ f, ¬ Record.Closes f ⟨c, p.world.uptime, r⟩) :
      v.pendingAt now f g = true ↔
        Live (p.history ++ [⟨c, p.world.uptime, r⟩]) lifetime now f g := by
    rw [live_snoc_idle unended, same.challenges List.not_mem_nil now le]
    exact mirrors now le f g
  have ended {e : Email} (taken : p.world.ChallengeTaken v e)
      (closed : ∀ f, Record.Closes f ⟨c, p.world.uptime, r⟩ ↔ e = f)
      (other : ∀ f d, c ≠ .issue f d) :
      v.pendingAt now f g = true ↔
        Live (p.history ++ [⟨c, p.world.uptime, r⟩]) lifetime now f g := by
    rw [live_snoc_closes closed other, taken now le]
    split
    · exact iff_of_false Bool.false_ne_true id
    · exact mirrors now le f g
  cases c with
  | issue e d =>
    obtain ⟨_, rfl, set⟩ | ⟨_, rfl, same⟩ := does
    · show v.pendingAt now f g = true ↔ _
      rw [live_snoc_issue, set now le]
      split
      · exact decide_eq_true_iff
      · exact mirrors now le f g
    · exact idle same fun _ => not_closes nofun nofun
  | consume e =>
    obtain ⟨rfl, taken⟩ := does
    exact ended taken (fun _ => closes_consume) nofun
  | peek e =>
    obtain ⟨⟨d, rfl, _⟩ | ⟨rfl, _⟩, same⟩ := does
    · exact idle same fun _ => not_closes nofun nofun
    · exact idle same fun _ => not_closes nofun nofun
  | take e d =>
    obtain ⟨rfl, _, taken⟩ | ⟨rfl, _, same⟩ := does
    · exact ended taken (fun _ => closes_taken) nofun
    · exact idle same fun _ => not_closes nofun nofun

end ChallengeCall

/-! ## In memory -/

/-- Looking for the live challenge of an address tells it if there is one, and changes nothing that
a book tells from then on. -/
lemma Book.peek_spec (b : Book) (now : Int) (e : Email) :
    (∃ c, b.peek now e = (some c, b) ∧ (b.take now e c).1 = true) ∨
      ∃ b', b.peek now e = (none, b') ∧ b'.seconds = b.seconds ∧
        (∀ c, (b.take now e c).1 = false) ∧
          ∀ now', now ≤ now' → ∀ f d, (b'.take now' f d).1 = (b.take now' f d).1 := by
  simp only [take_eq]
  rw [peek]
  cases found : Keyed.find? e b.pending with
  | none => exact .inr ⟨b, rfl, rfl, fun _ => rfl, fun _ _ _ _ => rfl⟩
  | some p =>
    dsimp only
    by_cases come : p.deadline.hasCome now = true
    · have past : p.deadline.ends ≤ now := of_decide_eq_true come
      have swept : b.sweep now e = b.consume e := by
        rw [sweep, found]
        simp only [come, if_true]
      rw [if_pos come, swept]
      refine .inr ⟨b.consume e, rfl, rfl, fun c => decide_eq_false fun both => by omega,
        fun now' le f d => ?_⟩
      rw [← take_eq, ← take_eq, take_consume]
      by_cases same : e = f
      · rw [if_pos same, ← same, take_eq, found]
        exact (decide_eq_false fun both => by omega).symm
      · rw [if_neg same]
    · rw [if_neg come]
      rw [Deadline.hasCome, decide_eq_true_iff] at come
      exact .inl ⟨p.challenge, rfl, decide_eq_true ⟨rfl, by omega⟩⟩

/-- Challenges are kept in memory, for a number of seconds. -/
def World.Books (w : World) (lifetime : Int) : Prop :=
  ∃ b, w.challenges = .book b ∧ b.seconds = lifetime

namespace World.Books

variable {w v : World} {lifetime : Int} {e : Email} {d : Challenge}
  {r : Except Fault ChallengeReply}

/-- Issuing a challenge in memory sets it, unless its lifetime is more than a clock can hold. -/
lemma issue (h : w.Books lifetime) (ended : Ends (ChallengeCall.issue e d).perform w r v) :
    (ChallengeCall.issue e d).Serves (·.Books lifetime) (Seconds.whole lifetime).fits lifetime
      w r v := by
  obtain ⟨b, store, rfl⟩ := h
  obtain ⟨s, run, rfl⟩ := Ends.map_inv ended
  obtain ⟨same, effect⟩ := Challenges.issue_inv run
  rw [Challenges.issue, Ends.get_bind, store] at run
  by_cases fits : (Seconds.whole b.seconds).fits = true
  · simp only [if_pos fits] at run
    obtain ⟨rfl, rfl⟩ := Ends.set_inv run
    obtain ⟨_, set⟩ | ⟨⟨_, told⟩, _⟩ := effect
    · rw [store] at set
      exact ⟨⟨_, rfl, rfl⟩, rfl, .inl ⟨fits, rfl, set⟩⟩
    · cases told
  · simp only [if_neg fits] at run
    obtain ⟨rfl, rfl⟩ := Ends.throw_inv run
    exact ⟨⟨b, store, rfl⟩, rfl, .inr ⟨Bool.eq_false_iff.2 fits, rfl, .refl _ _⟩⟩

/-- Consuming the challenge of an address in memory drops it. -/
lemma consume (h : w.Books lifetime) (ended : Ends (ChallengeCall.consume e).perform w r v)
    (able : Bool) :
    (ChallengeCall.consume e).Serves (·.Books lifetime) able lifetime w r v := by
  obtain ⟨b, store, rfl⟩ := h
  obtain ⟨s, run, rfl⟩ := Ends.map_inv ended
  rw [Challenges.consume, Ends.get_bind, store] at run
  obtain ⟨rfl, rfl⟩ := Ends.set_inv run
  refine ⟨⟨_, rfl, rfl⟩, rfl, rfl, fun now _ f d => ?_⟩
  simp only [pendingAt, store, b.take_consume]

/-- A book in the place of another that tells the same from now on. -/
lemma sameBut_book {b b' : Book} (store : w.challenges = .book b) (seconds : b'.seconds = b.seconds)
    (same : ∀ now, w.uptime ≤ now → ∀ f d, (b'.take now f d).1 = (b.take now f d).1) :
    SameBut [] w { w with challenges := .book b' } := by
  refine { SameBut.refl [] w with lifetime := ?_, challenges := fun _ now le f d => ?_ }
  · rw [store]
    exact seconds
  · simp only [pendingAt, store]
    exact same now le f d

/-- Looking for the challenge of an address in memory tells it if it is live. -/
lemma peek (h : w.Books lifetime) (ended : Ends (ChallengeCall.peek e).perform w r v)
    (able : Bool) : (ChallengeCall.peek e).Serves (·.Books lifetime) able lifetime w r v := by
  obtain ⟨b, store, rfl⟩ := h
  obtain ⟨s, run, rfl⟩ := Ends.map_inv ended
  rw [Challenges.peek, Ends.get_bind, store] at run
  simp only [Ends.set_bind] at run
  obtain ⟨d, told, there⟩ | ⟨b', told, seconds, none, same⟩ := b.peek_spec w.uptime e
  · rw [told] at run
    obtain ⟨rfl, rfl⟩ := Ends.pure_inv run
    refine ⟨⟨b, rfl, rfl⟩, rfl, .inl ⟨d, rfl, ?_⟩, sameBut_book store rfl fun _ _ _ _ => rfl⟩
    rw [pendingAt, store]
    exact there
  · rw [told] at run
    obtain ⟨rfl, rfl⟩ := Ends.throw_inv run
    refine ⟨⟨b', rfl, seconds⟩, rfl, .inr ⟨rfl, fun d => ?_⟩, sameBut_book store seconds same⟩
    rw [pendingAt, store]
    exact none d

/-- Taking a challenge in memory drops it if it is the live one of the address. -/
lemma take (h : w.Books lifetime) (ended : Ends (ChallengeCall.take e d).perform w r v)
    (able : Bool) : (ChallengeCall.take e d).Serves (·.Books lifetime) able lifetime w r v := by
  obtain ⟨b, store, rfl⟩ := h
  obtain ⟨s, run, rfl⟩ := Ends.map_inv ended
  have effect := Challenges.take_inv run
  rw [Challenges.take, Ends.get_bind, store] at run
  simp only [Ends.set_bind] at run
  obtain ⟨rfl, rfl⟩ := Ends.pure_inv run
  have seconds : (b.take w.uptime e d).2.seconds = b.seconds := by
    obtain told | ⟨b', told, seconds, _⟩ := b.take_spec w.uptime e d
    · rw [told]
      rfl
    · rw [told]
      exact seconds
  refine ⟨⟨_, rfl, seconds⟩, rfl, ?_⟩
  obtain ⟨told, there, _, taken⟩ | ⟨same, ⟨told, gone⟩ | ⟨⟨_, told⟩, _⟩⟩ := effect
  · rw [told]
    exact .inl ⟨rfl, there, taken⟩
  · rw [told]
    exact .inr ⟨rfl, gone, same⟩
  · cases told

/-- What a call does in memory. -/
lemma call (h : w.Books lifetime) {c : ChallengeCall} (ended : Ends c.perform w r v) :
    c.Serves (·.Books lifetime) (Seconds.whole lifetime).fits lifetime w r v := by
  cases c with
  | issue e d => exact h.issue ended
  | consume e => exact h.consume ended _
  | peek e => exact h.peek ended _
  | take e d => exact h.take ended _

end World.Books

/-! ## On the server -/

/-- After a removal its key shows nothing, and every other key shows what it did. -/
lemma Keyspace.find?_remove (k : Keyspace) (now now' : Int) (key key' : String) :
    (k.carriedOut now (.remove key)).find? now' key' =
      if key = key' then none else k.find? now' key' := by
  simp only [carriedOut, apply, find?, Keyed.find?_drop]
  by_cases same : key = key'
  · simp only [same, if_true]
  · simp only [same, if_false]

/-- Challenges are kept on a server in order, for a positive number of seconds, and nobody else has
put texts there. -/
structure World.Hosts (w : World) (lifetime : Int) : Prop where
  store : w.challenges = .keyspace lifetime
  lasting : 0 < lifetime
  served : w.keyspace.outages = []
  legible : ∀ now e text, w.keyspace.find? now (Challenges.key e) = some text →
    ∃ c : Challenge, text = c.payload

namespace World.Hosts

variable {w v : World} {lifetime : Int} {e : Email} {d : Challenge}
  {r : Except Fault ChallengeReply}

/-- A command that leaves only challenges under the keys of challenges. -/
lemma sent (h : w.Hosts lifetime) {c : Command}
    (legible : ∀ now e text,
      (w.keyspace.carriedOut w.uptime c).find? now (Challenges.key e) = some text →
        ∃ d : Challenge, text = d.payload) :
    Hosts { w with keyspace := w.keyspace.carriedOut w.uptime c } lifetime where
  store := h.store
  lasting := h.lasting
  served := (w.keyspace.outages_carriedOut w.uptime c).trans h.served
  legible := legible

/-- The server carries out every command that does not put a value for no time. -/
lemma unbroken (h : w.Hosts lifetime) {c : Command} {f : ServerFault}
    (lasting : match c with | .put _ _ n => 0 < n | _ => True) :
    w.keyspace.fault? c ≠ some f := by
  rw [Keyspace.fault?_eq_none h.served lasting]
  exact (Option.some_ne_none f).symm

/-- Issuing a challenge on the server sets it. -/
lemma issue (h : w.Hosts lifetime) (ended : Ends (ChallengeCall.issue e d).perform w r v) :
    (ChallengeCall.issue e d).Serves (·.Hosts lifetime) true lifetime w r v := by
  obtain ⟨s, run, rfl⟩ := Ends.map_inv ended
  obtain ⟨_, effect⟩ := Challenges.issue_inv run
  rw [Challenges.issue, Ends.get_bind, h.store] at run
  simp only [Challenges.command_eq] at run
  obtain ⟨_, rfl, rfl⟩ | ⟨g, broken, _⟩ := reported_bind_inv run
  · obtain ⟨_, set⟩ | ⟨⟨_, told⟩, _⟩ := effect
    · have lives : w.challenges.lifetime = lifetime := by
        rw [h.store]
        rfl
      rw [lives] at set
      refine ⟨h.sent fun now f text found => ?_, rfl, .inl ⟨rfl, rfl, set⟩⟩
      rw [Keyspace.find?_put] at found
      split at found
      · split at found
        · exact ⟨d, (Option.some.inj found).symm⟩
        · cases found
      · exact h.legible now f text found
    · cases told
  · exact absurd broken (h.unbroken h.lasting)

/-- Consuming the challenge of an address on the server removes it. -/
lemma consume (h : w.Hosts lifetime) (ended : Ends (ChallengeCall.consume e).perform w r v) :
    (ChallengeCall.consume e).Serves (·.Hosts lifetime) true lifetime w r v := by
  obtain ⟨s, run, rfl⟩ := Ends.map_inv ended
  rw [Challenges.consume, Ends.get_bind, h.store] at run
  simp only [Challenges.command_eq] at run
  obtain ⟨_, rfl, rfl⟩ | ⟨g, broken, _⟩ := reported_bind_inv run
  · refine ⟨h.sent fun now f text found => ?_, rfl, rfl, fun now _ f d => ?_⟩
    · rw [Keyspace.find?_remove] at found
      split at found
      · cases found
      · exact h.legible now f text found
    · simp only [pendingAt, h.store, Keyspace.find?_remove, Challenges.key_inj]
      split
      · rfl
      · rfl
  · exact absurd broken (h.unbroken trivial)

/-- Looking for the challenge of an address on the server tells it if it is live. -/
lemma peek (h : w.Hosts lifetime) (ended : Ends (ChallengeCall.peek e).perform w r v) :
    (ChallengeCall.peek e).Serves (·.Hosts lifetime) true lifetime w r v := by
  obtain ⟨s, run, rfl⟩ := Ends.map_inv ended
  rw [Challenges.peek, Ends.get_bind, h.store] at run
  simp only [Challenges.command_eq] at run
  obtain ⟨k, w₁, asked, rest⟩ | ⟨g, asked, rfl⟩ := run.bind_inv
  · obtain ⟨_, told, rfl⟩ | ⟨_, broken, _⟩ := reported_inv asked
    · obtain rfl := Except.ok.inj told
      have same : SameBut [] w
          { w with keyspace := w.keyspace.carriedOut w.uptime (.read (Challenges.key e)) } :=
        .of_keyspace rfl (fun _ _ _ => rfl) fun _ _ _ => rfl
      have hosts := h.sent (c := .read (Challenges.key e)) h.legible
      cases found : w.keyspace.find? w.uptime (Challenges.key e) with
      | none =>
        rw [found] at rest
        obtain ⟨rfl, rfl⟩ := Ends.throw_inv rest
        refine ⟨hosts, rfl, .inr ⟨rfl, fun d => ?_⟩, same⟩
        rw [pendingAt, h.store]
        simp only [found]
        rfl
      | some text =>
        obtain ⟨d, rfl⟩ := h.legible _ _ _ found
        simp only [found, Challenge.ofPayload_payload] at rest
        obtain ⟨rfl, rfl⟩ := Ends.pure_inv rest
        refine ⟨hosts, rfl, .inl ⟨d, rfl, ?_⟩, same⟩
        rw [pendingAt, h.store]
        simp only [found, beq_self_eq_true]
    · exact absurd broken (h.unbroken trivial)
  · obtain ⟨_, told, _⟩ | ⟨_, broken, _⟩ := reported_inv asked
    · cases told
    · exact absurd broken (h.unbroken trivial)

/-- Taking a challenge on the server removes it if it is the live one of the address. -/
lemma take (h : w.Hosts lifetime) (ended : Ends (ChallengeCall.take e d).perform w r v) :
    (ChallengeCall.take e d).Serves (·.Hosts lifetime) true lifetime w r v := by
  obtain ⟨s, run, rfl⟩ := Ends.map_inv ended
  have effect := Challenges.take_inv run
  rw [Challenges.take, Ends.get_bind, h.store] at run
  simp only [Challenges.command_eq] at run
  obtain ⟨_, rfl, rfl⟩ | ⟨g, broken, _⟩ := reported_bind_inv run
  · refine ⟨h.sent fun now f text found => ?_, rfl, ?_⟩
    · rw [Keyspace.find?_removeIf] at found
      split at found
      · cases found
      · exact h.legible now f text found
    · obtain ⟨told, there, _, taken⟩ | ⟨same, ⟨told, gone⟩ | ⟨⟨_, told⟩, _⟩⟩ := effect
      · rw [told]
        exact .inl ⟨rfl, there, taken⟩
      · rw [told]
        exact .inr ⟨rfl, gone, same⟩
      · cases told
  · exact absurd broken (h.unbroken trivial)

/-- What a call does on the server. -/
lemma call (h : w.Hosts lifetime) {c : ChallengeCall} (ended : Ends c.perform w r v) :
    c.Serves (·.Hosts lifetime) true lifetime w r v := by
  cases c with
  | issue e d => exact h.issue ended
  | consume e => exact h.consume ended
  | peek e => exact h.peek ended
  | take e d => exact h.take ended

end World.Hosts

/-! ## Both -/

/-- A kind of worlds in which a challenge store works: each call does what it should and leads to
another such world, and so does waiting. -/
structure Faithful (kind : World → Prop) (able : Bool) (lifetime : Int) : Prop where
  call : ∀ {w c r v}, kind w → Ends (ChallengeCall.perform c) w r v →
    c.Serves kind able lifetime w r v
  wait : ∀ {w}, kind w → ∀ ms : Nat, kind (w.advance 0 ms)

namespace Faithful

variable {kind : World → Prop} {able : Bool} {lifetime : Int} {w : World}

/-- The world stays of its kind and in step with its history, and only waiting takes time. -/
lemma play (faithful : Faithful kind able lifetime) (start : kind w)
    (unchallenged : ∀ now e c, w.pendingAt now e c = false) (turns : List (Turn ChallengeCall)) :
    kind (w.challenging turns).world ∧ (w.challenging turns).Mirrors lifetime := by
  refine World.play_induction (P := fun p => kind p.world ∧ p.Mirrors lifetime) ?_ ?_ ?_ turns
  · refine ⟨start, fun now _ e c => ?_⟩
    rw [unchallenged]
    exact iff_of_false Bool.false_ne_true not_inForce_nil
  · intro p ⟨h, mirrors⟩ c r v run
    obtain ⟨h', prompt, does⟩ := faithful.call h run
    exact ⟨h', does.mirrors mirrors prompt⟩
  · intro p ⟨h, mirrors⟩ ms
    refine ⟨faithful.wait h ms, fun now reached e c => ?_⟩
    have reached : p.world.uptime + ms ≤ now := reached
    exact mirrors now (by omega) e c

/-- The clock of a run shows the time that was waited. -/
lemma clock (faithful : Faithful kind able lifetime) (start : kind w)
    (unchallenged : ∀ now e c, w.pendingAt now e c = false) (turns : List (Turn ChallengeCall)) :
    (w.challenging turns).world.uptime = Turn.clock w.uptime turns := by
  induction turns using List.reverseRecOn with
  | nil => rfl
  | append_singleton turns turn ih =>
    have h := (faithful.play start unchallenged turns).1
    rw [Turn.clock_append, ← ih]
    cases turn with
    | call c =>
      obtain ⟨r, v, run⟩ := Ends.total c.perform (w.challenging turns).world
      have next : w.challenging (turns ++ [.call c]) = _ := play_snoc_call run
      rw [next]
      exact (faithful.call h run).2.1
    | wait ms =>
      have next : w.challenging (turns ++ [.wait ms]) = _ := play_snoc ..
      rw [next]
      rfl

/-- A call is answered as the history tells. -/
lemma told (faithful : Faithful kind able lifetime) (start : kind w)
    (unchallenged : ∀ now e c, w.pendingAt now e c = false) (turns : List (Turn ChallengeCall))
    (c : ChallengeCall) (r : Except Fault ChallengeReply) (v : World)
    (run : Ends c.perform (w.challenging turns).world r v) :
    c.Told able lifetime (w.challenging turns).history (w.challenging turns).world.uptime r := by
  obtain ⟨h, mirrors⟩ := faithful.play start unchallenged turns
  exact (faithful.call h run).2.2.told mirrors

end Faithful

end SignIn
