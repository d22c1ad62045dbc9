import SignIn.Proofs.Lifetime
import SignIn.Proofs.Stores
import SignIn.Proofs.Turns

/-!
# Histories of bans

What a ban store tells after any calls, in terms of its history. In memory a token is banned as long
as some earlier ban of it is not over. On the server only the last ban counts, so a shorter one that
follows ends the earlier, and the two stores part at a question between the two ends.
-/

namespace SignIn

open World

/-- A call of a ban store, with a length in whole seconds. -/
inductive BanCall
  | revoke (token : String) (seconds : Int)
  | contains (token : String)
  deriving DecidableEq

namespace BanCall

/-- Makes a call. There is an answer to a question only. -/
def perform : BanCall → Call (Option Bool)
  | revoke t n => (fun _ => none) <$> Bans.revoke t (.whole n)
  | contains t => some <$> Bans.contains t

/-- Whether a call bans a token. -/
def revokes (t : String) : BanCall → Bool
  | revoke u _ => u == t
  | contains _ => false

end BanCall

abbrev BanRecord := Record BanCall (Option Bool)

/-- Where calls of a ban store lead from a world. -/
abbrev World.banning (w : World) (turns : List (Turn BanCall)) : Play BanCall (Option Bool) :=
  w.play BanCall.perform turns

namespace Record

/-- A token was banned for a number of seconds, and no fault was reported. -/
def Revokes (t : String) (x : BanRecord) : Prop :=
  ∃ n, x.call = .revoke t n ∧ x.answer = .ok none

/-- A token was banned for a time that is not over, a second if it is less. -/
def Covers (now : Int) (t : String) (x : BanRecord) : Prop :=
  ∃ n, x.call = .revoke t n ∧ x.answer = .ok none ∧ now < x.instant + 1000 * max 1 n

/-- A ban that is not over is a ban. -/
lemma Covers.revokes {now : Int} {t : String} {x : BanRecord} (h : x.Covers now t) :
    x.Revokes t := by
  obtain ⟨n, call, answer, _⟩ := h
  exact ⟨n, call, answer⟩

end Record

/-- Some earlier ban of a token is not over. -/
def Banned (h : List BanRecord) (now : Int) (t : String) : Prop :=
  ∃ x ∈ h, x.Covers now t

/-- The last ban of a token is not over. -/
def LastlyBanned (h : List BanRecord) (now : Int) (t : String) : Prop :=
  InForce (Record.Covers now t) (Record.Revokes t) h

section History

variable {h : List BanRecord} {x : BanRecord} {now s : Int} {t u : String} {n : Int}

/-- A ban that went through covers its token for its seconds, and no other token. -/
lemma covers_revoke :
    Record.Covers now u ⟨.revoke t n, s, .ok none⟩ ↔ t = u ∧ now < s + 1000 * max 1 n := by
  constructor
  · rintro ⟨m, call, _, live⟩
    cases call
    exact ⟨rfl, live⟩
  · rintro ⟨rfl, live⟩
    exact ⟨n, rfl, rfl, live⟩

/-- A ban that went through is one of its token only. -/
lemma revokes_revoke : Record.Revokes u ⟨.revoke t n, s, .ok none⟩ ↔ t = u := by
  constructor
  · rintro ⟨m, call, _⟩
    cases call
    rfl
  · rintro rfl
    exact ⟨n, rfl, rfl⟩

/-- A call that failed bans nothing. -/
lemma not_revokes_error {c : BanCall} {f : Fault} : ¬ Record.Revokes u ⟨c, s, .error f⟩ := by
  rintro ⟨_, _, told⟩
  cases told

/-- A question bans nothing. -/
lemma not_revokes_contains {r : Except Fault (Option Bool)} :
    ¬ Record.Revokes u ⟨.contains t, s, r⟩ := by
  rintro ⟨_, call, _⟩
  cases call

/-- With one more record a token is banned if it was or if the record covers it. -/
lemma banned_snoc : Banned (h ++ [x]) now t ↔ Banned h now t ∨ x.Covers now t := by
  constructor
  · rintro ⟨y, mem, covers⟩
    obtain old | new := List.mem_append.1 mem
    · exact .inl ⟨y, old, covers⟩
    · rw [List.mem_singleton.1 new] at covers
      exact .inr covers
  · rintro (⟨y, mem, covers⟩ | covers)
    · exact ⟨y, List.mem_append_left _ mem, covers⟩
    · exact ⟨x, List.mem_append_right _ List.mem_cons_self, covers⟩

/-- What does not ban a token leaves its bans as they are. -/
lemma banned_snoc_of_not_revokes (other : ¬ x.Revokes t) :
    Banned (h ++ [x]) now t ↔ Banned h now t := by
  rw [banned_snoc, or_iff_left fun covers => other covers.revokes]

/-- A record that does not ban a token leaves its last ban as it was. -/
lemma lastlyBanned_snoc_of_not_revokes (other : ¬ x.Revokes t) :
    LastlyBanned (h ++ [x]) now t ↔ LastlyBanned h now t := by
  rw [LastlyBanned, inForce_snoc, or_iff_right fun covers => other covers.revokes,
    and_iff_left other]
  rfl

/-- A new ban is the last one of its token. -/
lemma lastlyBanned_snoc_revoke :
    LastlyBanned (h ++ [⟨.revoke t n, s, .ok none⟩]) now u ↔
      if t = u then now < s + 1000 * max 1 n else LastlyBanned h now u := by
  rw [LastlyBanned, inForce_snoc, covers_revoke, revokes_revoke]
  by_cases same : t = u
  · simp only [same, true_and, not_true, and_false, or_false, if_true]
  · simp only [same, false_and, false_or, not_false_eq_true, and_true, if_false]
    rfl

/-- The last ban is one of the bans. -/
lemma LastlyBanned.banned (last : LastlyBanned h now t) : Banned h now t := by
  obtain ⟨before, x, after, rfl, covers, _⟩ := last
  exact ⟨x, List.mem_append_right _ List.mem_cons_self, covers⟩

/-- A ban that is not over at some instant was not over before. -/
lemma Banned.mono {now' : Int} (banned : Banned h now t) (le : now' ≤ now) : Banned h now' t := by
  obtain ⟨x, mem, n, call, answer, live⟩ := banned
  exact ⟨x, mem, n, call, answer, by omega⟩

/-- If a ban is recorded without a fault exactly when its length is admitted, the bans of a history
are the admitted ones among its calls. -/
lemma banned_iff_calls {admitted : Int → Prop}
    (answered : ∀ x ∈ h, ∀ t n, x.call = .revoke t n → (x.answer = .ok none ↔ admitted n)) :
    Banned h now t ↔ ∃ n s, (.revoke t n, s) ∈ h.map (fun x => (x.call, x.instant)) ∧
      admitted n ∧ now < s + 1000 * max 1 n := by
  constructor
  · rintro ⟨x, mem, n, call, answer, live⟩
    refine ⟨n, x.instant, List.mem_map.2 ⟨x, mem, ?_⟩, (answered x mem t n call).1 answer, live⟩
    rw [call]
  · rintro ⟨n, s, mem, admits, live⟩
    obtain ⟨x, there, same⟩ := List.mem_map.1 mem
    obtain ⟨call, rfl⟩ := Prod.mk.inj same
    exact ⟨x, there, n, call, (answered x there t n call).2 admits, live⟩

end History

/-! ## The calls -/

/-- In memory the ban is what the register contains. -/
lemma World.bannedAt_register {w : World} {b : Register} (store : w.bans = .register b) (now : Int)
    (t : String) : w.bannedAt now t = (b.contains now t).1 := by
  rw [bannedAt, store]

/-- On a server the ban is a value under the token's key. -/
lemma World.bannedAt_keyspace {w : World} (store : w.bans = .keyspace) (now : Int) (t : String) :
    w.bannedAt now t = (w.keyspace.find? now (Bans.key t)).isSome := by
  rw [bannedAt, store]

namespace BanCall

variable {w v : World} {r : Except Fault (Option Bool)}

/-- Calls of a ban store take no time. -/
lemma prompt_perform : Prompt perform := by
  intro c w r v run
  cases c with
  | revoke t n =>
    obtain ⟨s, run, _⟩ := Ends.map_inv run
    exact (Bans.revoke_inv run).1.uptime
  | contains t =>
    obtain ⟨s, run, _⟩ := Ends.map_inv run
    exact (Bans.contains_inv run).1.uptime

/-- In memory a ban is entered, or its length is more than a clock can hold; a question is
answered. -/
lemma register_inv {b : Register} (store : w.bans = .register b) {c : BanCall}
    (h : Ends c.perform w r v) :
    (∃ t n, c = revoke t n ∧ (Seconds.whole (max 1 n)).fits = true ∧ r = .ok none ∧
        v = { w with bans := .register (b.revoke w.uptime t (.whole n)) }) ∨
      (∃ t n, c = revoke t n ∧ (Seconds.whole (max 1 n)).fits ≠ true ∧ r = .error .overflow ∧
        v = w) ∨
      ∃ t, c = contains t ∧ r = .ok (some (w.bannedAt w.uptime t)) ∧
        v = { w with bans := .register (b.contains w.uptime t).2 } := by
  cases c with
  | revoke t n =>
    obtain ⟨s, run, rfl⟩ := Ends.map_inv h
    rw [Bans.revoke, Ends.get_bind, store] at run
    by_cases fits : (Seconds.whole n).atLeastOne.fits = true
    · simp only [if_pos fits] at run
      obtain ⟨rfl, rfl⟩ := Ends.set_inv run
      exact .inl ⟨t, n, rfl, fits, rfl, rfl⟩
    · simp only [if_neg fits] at run
      obtain ⟨rfl, rfl⟩ := Ends.throw_inv run
      exact .inr (.inl ⟨t, n, rfl, fits, rfl, rfl⟩)
  | contains t =>
    obtain ⟨s, run, rfl⟩ := Ends.map_inv h
    rw [Bans.contains, Ends.get_bind, store, Ends.set_bind] at run
    obtain ⟨rfl, rfl⟩ := Ends.pure_inv run
    refine .inr (.inr ⟨t, rfl, ?_, rfl⟩)
    rw [bannedAt_register store]
    rfl

/-- A server in order takes every ban and answers every question. -/
lemma keyspace_inv (store : w.bans = .keyspace) (served : w.keyspace.outages = []) {c : BanCall}
    (h : Ends c.perform w r v) :
    (∃ t n, c = revoke t n ∧ r = .ok none ∧
        v = { w with
          keyspace := w.keyspace.carriedOut w.uptime (.put (Bans.key t) "1" (max 1 n)) }) ∨
      ∃ t, c = contains t ∧ r = .ok (some (w.bannedAt w.uptime t)) ∧
        v = { w with keyspace := w.keyspace.carriedOut w.uptime (.probe (Bans.key t)) } := by
  cases c with
  | revoke t n =>
    obtain ⟨s, run, rfl⟩ := Ends.map_inv h
    rw [Bans.revoke, Ends.get_bind, store] at run
    simp only [Seconds.truncate?, Bans.command_eq] at run
    obtain ⟨_, rfl, rfl⟩ | ⟨g, broken, _⟩ := reported_bind_inv run
    · exact .inl ⟨t, n, rfl, rfl, rfl⟩
    · have lasting : 0 < max 1 n := by omega
      rw [Keyspace.fault?_eq_none served lasting] at broken
      cases broken
  | contains t =>
    obtain ⟨s, run, rfl⟩ := Ends.map_inv h
    rw [Bans.contains, Ends.get_bind, store] at run
    simp only [Bans.command_eq] at run
    obtain ⟨_, rfl, rfl⟩ | ⟨g, broken, _⟩ := reported_bind_inv run
    · refine .inr ⟨t, rfl, ?_, rfl⟩
      rw [bannedAt_keyspace store]
      rfl
    · rw [Keyspace.fault?_eq_none served trivial] at broken
      cases broken

end BanCall

/-! ## In memory -/

/-- After a ban a token is banned if it was, or as long as the ban lasts. The instants are those of
a clock that starts at zero, for which a missing entry counts as an end. -/
lemma Register.contains_revoke (b : Register) {now : Int} (started : 0 ≤ now) (s : Int)
    (t u : String) (n : Int) :
    ((b.revoke s t (.whole n)).contains now u).1 = true ↔
      (b.contains now u).1 = true ∨ t = u ∧ now < s + 1000 * max 1 n := by
  have found : Keyed.find? u (b.revoke s t (.whole n)).ends =
      if t = u then some ((Register.endOf s (.whole n)).later
        ((Keyed.find? t b.ends).getD .zero)) else Keyed.find? u b.ends :=
    Keyed.find?_put ..
  have till : (Register.endOf s (.whole n)).ends = s + 1000 * max 1 n := rfl
  rw [contains_eq, contains_eq, found]
  by_cases same : t = u
  · subst same
    simp only [if_true, true_and, decide_eq_true_eq, Deadline.later, till]
    cases Keyed.find? t b.ends with
    | none =>
      simp only [Option.getD_none, Deadline.zero, Bool.false_eq_true, false_or]
      omega
    | some d =>
      simp only [Option.getD_some, decide_eq_true_eq]
      omega
  · simp only [same, if_false, false_and, or_false]

/-- A ban store in memory, and the history that it has been through. -/
structure Remembers (p : Play BanCall (Option Bool)) : Prop where
  kept : ∃ b, p.world.bans = .register b
  started : 0 ≤ p.world.uptime
  answered : ∀ x ∈ p.history, ∀ t n, x.call = .revoke t n →
    (x.answer = .ok none ↔ (Seconds.whole (max 1 n)).fits = true)
  tells : ∀ now, p.world.uptime ≤ now → ∀ t,
    p.world.bannedAt now t = true ↔ Banned p.history now t

namespace Remembers

variable {p : Play BanCall (Option Bool)} {r : Except Fault (Option Bool)} {v : World}

/-- A history in which every ban went through that could is one still with such a ban more. -/
lemma answered_snoc {s : Int} {c : BanCall} (h : Remembers p)
    (new : ∀ t n, c = .revoke t n → (r = .ok none ↔ (Seconds.whole (max 1 n)).fits = true)) :
    ∀ x ∈ p.history ++ [⟨c, s, r⟩], ∀ t n, x.call = .revoke t n →
      (x.answer = .ok none ↔ (Seconds.whole (max 1 n)).fits = true) := by
  intro x mem t n call
  obtain old | last := List.mem_append.1 mem
  · exact h.answered x old t n call
  · cases List.mem_singleton.1 last
    exact new t n call

/-- A call keeps the store in step with its history. -/
lemma call (h : Remembers p) {c : BanCall} (run : Ends c.perform p.world r v) :
    Remembers ⟨v, p.history ++ [⟨c, p.world.uptime, r⟩]⟩ := by
  obtain ⟨b, store⟩ := h.kept
  obtain ⟨t, n, rfl, fits, rfl, rfl⟩ | ⟨t, n, rfl, unfit, rfl, rfl⟩ | ⟨t, rfl, rfl, rfl⟩ :=
    BanCall.register_inv store run
  · refine ⟨⟨_, rfl⟩, h.started, h.answered_snoc ?_, fun now le u => ?_⟩
    · rintro _ _ ⟨⟩
      exact iff_of_true rfl fits
    · rw [banned_snoc, covers_revoke, ← h.tells now le u, bannedAt_register store,
        bannedAt_register rfl]
      exact b.contains_revoke (Int.le_trans h.started le) ..
  · refine ⟨h.kept, h.started, h.answered_snoc ?_, fun now le u => ?_⟩
    · rintro _ _ ⟨⟩
      exact iff_of_false nofun unfit
    · rw [banned_snoc_of_not_revokes not_revokes_error]
      exact h.tells now le u
  -- the look-up drops an entry only if its end has passed, which no later question can tell
  · refine ⟨⟨_, rfl⟩, h.started, h.answered_snoc nofun, fun now le u => ?_⟩
    have told := h.tells now le u
    rw [bannedAt_register store] at told
    rw [banned_snoc_of_not_revokes not_revokes_contains, ← told, bannedAt_register rfl,
      b.contains_contains le]

/-- Waiting keeps the store in step with its history. -/
lemma wait (h : Remembers p) (ms : Nat) : Remembers ⟨p.world.advance 0 ms, p.history⟩ where
  kept := h.kept
  started := by
    have started := h.started
    show 0 ≤ p.world.uptime + ms
    omega
  answered := h.answered
  tells now le t := by
    have le : p.world.uptime + ms ≤ now := le
    exact h.tells now (by omega) t

/-- A store that starts empty stays in step with its history. -/
lemma play {w : World} (empty : w.bans = .register .empty) (started : 0 ≤ w.uptime)
    (turns : List (Turn BanCall)) : Remembers (w.banning turns) := by
  refine World.play_induction ?_ (fun _ h _ _ _ run => h.call run) (fun _ h ms => h.wait ms) turns
  refine ⟨⟨_, empty⟩, started, fun _ mem => absurd mem List.not_mem_nil, fun now _ t => ?_⟩
  rw [bannedAt_register empty]
  exact iff_of_false Bool.false_ne_true fun ⟨_, mem, _⟩ => absurd mem List.not_mem_nil

/-- What is asked next is answered as the history tells. -/
lemma contains_inv (h : Remembers p) {t : String} {s : Except Fault Bool}
    (run : Ends (Bans.contains t) p.world s v) :
    ∃ b, s = .ok b ∧ (b = true ↔ Banned p.history p.world.uptime t) := by
  obtain ⟨b, store⟩ := h.kept
  obtain ⟨_, _, call, _⟩ | ⟨_, _, call, _⟩ | ⟨_, same, told, _⟩ :=
    BanCall.register_inv (c := .contains t) store (run.map some)
  · cases call
  · cases call
  · cases same
    cases s with
    | error f => cases told
    | ok b =>
      cases told
      exact ⟨_, rfl, h.tells _ (Int.le_refl _) t⟩

/-- A token is banned from now on if its length can be held by a clock. -/
lemma revoke_ok_iff (h : Remembers p) {t : String} {n : Int} :
    (∃ v, Ends (Bans.revoke t (.whole n)) p.world (.ok ()) v) ↔
      (Seconds.whole (max 1 n)).fits = true := by
  obtain ⟨b, store⟩ := h.kept
  obtain ⟨s, v, run⟩ := Ends.total (Bans.revoke t (.whole n)) p.world
  obtain ⟨_, _, same, fits, told, _⟩ | ⟨_, _, same, unfit, told, _⟩ | ⟨_, call, _⟩ :=
    BanCall.register_inv (c := .revoke t n) store (run.map fun _ => none)
  · cases same
    cases s with
    | error f => cases told
    | ok u => exact iff_of_true ⟨v, run⟩ fits
  · cases same
    refine iff_of_false ?_ unfit
    rintro ⟨v', run'⟩
    obtain ⟨rfl, _⟩ := run.unique run'
    cases told
  · cases call

/-- The bans are those among the calls whose lengths a clock can hold. -/
lemma banned_iff {w : World} (empty : w.bans = .register .empty) (started : 0 ≤ w.uptime)
    (turns : List (Turn BanCall)) (now : Int) (t : String) :
    Banned (w.banning turns).history now t ↔ ∃ n s, (.revoke t n, s) ∈ Turn.calls w.uptime turns ∧
      (Seconds.whole (max 1 n)).fits = true ∧ now < s + 1000 * max 1 n := by
  rw [← (calls_play BanCall.prompt_perform turns).1]
  exact banned_iff_calls (play empty started turns).answered

/-- Questions, and what is called for other tokens, leave the bans of a token as they are. -/
lemma banned_only {w : World} (empty : w.bans = .register .empty) (started : 0 ≤ w.uptime)
    (turns : List (Turn BanCall)) (now : Int) (t : String) :
    Banned (w.banning (Turn.only (BanCall.revokes t) turns)).history now t ↔
      Banned (w.banning turns).history now t := by
  rw [banned_iff empty started, banned_iff empty started, Turn.calls_only]
  have counts (n s : Int) : ((BanCall.revoke t n, s) ∈ (Turn.calls w.uptime turns).filter
      fun c => c.1.revokes t) ↔ (BanCall.revoke t n, s) ∈ Turn.calls w.uptime turns := by
    have kind : (BanCall.revoke t n).revokes t = true := beq_self_eq_true t
    rw [List.mem_filter, and_iff_left kind]
  simp only [counts]

end Remembers

/-- A ban store in memory tells exactly whether some earlier ban, whose call returned, is not over.
So further calls never shorten a ban, and of all calls only the bans of a token count for it. -/
theorem register_tells_bans {w : World} (empty : w.bans = .register .empty) (started : 0 ≤ w.uptime)
    (turns : List (Turn BanCall)) (t : String) :
    (∃ b v, Ends (Bans.contains t) (w.banning turns).world (.ok b) v ∧
        (b = true ↔ Banned (w.banning turns).history (w.banning turns).world.uptime t)) ∧
      (∀ n, (∃ v, Ends (Bans.revoke t (.whole n)) (w.banning turns).world (.ok ()) v) ↔
        (Seconds.whole (max 1 n)).fits = true) ∧
      (∀ now, Banned (w.banning turns).history now t → ∀ more,
        (w.banning (turns ++ more)).world.uptime ≤ now →
          ∃ v, Ends (Bans.contains t) (w.banning (turns ++ more)).world (.ok true) v) ∧
      ∃ b v v', Ends (Bans.contains t) (w.banning turns).world (.ok b) v ∧
        Ends (Bans.contains t) (w.banning (Turn.only (BanCall.revokes t) turns)).world (.ok b)
          v' := by
  have told (turns : List (Turn BanCall)) :
      ∃ b v, Ends (Bans.contains t) (w.banning turns).world (.ok b) v ∧
        (b = true ↔ Banned (w.banning turns).history (w.banning turns).world.uptime t) := by
    obtain ⟨r, v, run⟩ := Ends.total (Bans.contains t) (w.banning turns).world
    obtain ⟨b, rfl, tells⟩ := (Remembers.play empty started turns).contains_inv run
    exact ⟨b, v, run, tells⟩
  refine ⟨told turns, fun n => (Remembers.play empty started turns).revoke_ok_iff, ?_, ?_⟩
  · intro now banned more early
    obtain ⟨b, v, run, tells⟩ := told (turns ++ more)
    have still : Banned (w.banning (turns ++ more)).history now t := by
      obtain ⟨x, mem, covers⟩ := banned
      exact ⟨x, (World.history_play_append turns more).subset mem, covers⟩
    obtain rfl := tells.2 (still.mono early)
    exact ⟨v, run⟩
  · obtain ⟨b, v, run, tells⟩ := told turns
    obtain ⟨b', v', run', tells'⟩ := told (Turn.only (BanCall.revokes t) turns)
    have clocks : (w.banning (Turn.only (BanCall.revokes t) turns)).world.uptime =
        (w.banning turns).world.uptime := by
      rw [(World.calls_play BanCall.prompt_perform _).2,
        (World.calls_play BanCall.prompt_perform _).2, Turn.clock_only]
    rw [clocks, Remembers.banned_only empty started, ← tells] at tells'
    obtain rfl : b' = b := Bool.eq_iff_iff.2 tells'
    exact ⟨b', v, v', run, run'⟩

/-- A token that is banned for a hundred seconds and then for ten is banned after fifty. -/
theorem register_tells_bans_sample :
    World.sample.bans = .register .empty ∧ 0 ≤ World.sample.uptime ∧
      ∃ v, Ends (Bans.contains "t") (World.sample.banning
        ([.call (.revoke "t" 100)] ++
          [.call (.contains "t"), .call (.revoke "t" 10), .wait 50000])).world (.ok true) v := by
  have started : 0 ≤ World.sample.uptime := by decide
  obtain ⟨_, _, lasts, _⟩ :=
    register_tells_bans (w := World.sample) rfl started [.call (.revoke "t" 100)] "t"
  exact ⟨rfl, started, lasts 1099999 ⟨_, List.mem_singleton_self _, 100, rfl, rfl, by decide⟩ _
    (by decide)⟩

/-! ## On the server -/

/-- A ban that is put on the server replaces the token's last one. -/
lemma World.bannedAt_put {w : World} (store : w.bans = .keyspace) (now seconds : Int)
    (t u : String) :
    ({ w with
      keyspace := w.keyspace.carriedOut w.uptime (.put (Bans.key t) "1" seconds) } : World).bannedAt
        now u = if t = u then decide (now < w.uptime + 1000 * seconds) else w.bannedAt now u := by
  simp only [bannedAt, store, Keyspace.find?_put, Bans.key_inj]
  by_cases same : t = u
  · rw [if_pos same, if_pos same]
    split
    · next live => exact (decide_eq_true live).symm
    · next lapsed => exact (decide_eq_false lapsed).symm
  · rw [if_neg same, if_neg same]

/-- A ban store on a server in order, and the history that it has been through. -/
structure Overwrites (p : Play BanCall (Option Bool)) : Prop where
  kept : p.world.bans = .keyspace
  served : p.world.keyspace.outages = []
  tells : ∀ now t, p.world.bannedAt now t = true ↔ LastlyBanned p.history now t

namespace Overwrites

variable {p : Play BanCall (Option Bool)} {r : Except Fault (Option Bool)} {v : World}

/-- A call keeps the store in step with its history. -/
lemma call (h : Overwrites p) {c : BanCall} (run : Ends c.perform p.world r v) :
    Overwrites ⟨v, p.history ++ [⟨c, p.world.uptime, r⟩]⟩ := by
  have served (c : Command) := (p.world.keyspace.outages_carriedOut p.world.uptime c).trans h.served
  obtain ⟨t, n, rfl, rfl, rfl⟩ | ⟨t, rfl, rfl, rfl⟩ := BanCall.keyspace_inv h.kept h.served run
  · refine ⟨h.kept, served _, fun now u => ?_⟩
    rw [lastlyBanned_snoc_revoke, ← h.tells, bannedAt_put h.kept]
    split
    · exact decide_eq_true_iff
    · rfl
  · refine ⟨h.kept, served _, fun now u => ?_⟩
    rw [lastlyBanned_snoc_of_not_revokes not_revokes_contains, ← h.tells]
    rfl

/-- A server without bans stays in step with its history. -/
lemma play {w : World} (remote : w.bans = .keyspace) (served : w.keyspace.outages = [])
    (unbanned : ∀ now t, w.bannedAt now t = false) (turns : List (Turn BanCall)) :
    Overwrites (w.banning turns) := by
  refine World.play_induction ?_ (fun _ h _ _ _ run => h.call run)
    (fun _ h _ => ⟨h.kept, h.served, h.tells⟩) turns
  refine ⟨remote, served, fun now t => ?_⟩
  rw [unbanned]
  exact iff_of_false Bool.false_ne_true not_inForce_nil

/-- What is asked next is answered by the last ban alone. -/
lemma contains_inv (h : Overwrites p) {t : String} {s : Except Fault Bool}
    (run : Ends (Bans.contains t) p.world s v) :
    ∃ b, s = .ok b ∧ (b = true ↔ LastlyBanned p.history p.world.uptime t) := by
  obtain ⟨_, rfl | ⟨_, broken⟩⟩ := Bans.contains_inv run
  · exact ⟨_, rfl, h.tells ..⟩
  · exact absurd h.served broken

/-- What is banned next is banned. -/
lemma revoke_inv (h : Overwrites p) {t : String} {n : Int} {s : Except Fault Unit}
    (run : Ends (Bans.revoke t (.whole n)) p.world s v) : s = .ok () := by
  obtain ⟨_, _, _, told, _⟩ | ⟨_, call, _⟩ :=
    BanCall.keyspace_inv (c := .revoke t n) h.kept h.served (run.map fun _ => none)
  · cases s with
    | error f => cases told
    | ok u => rfl
  · cases call

end Overwrites

/-- What it takes for the two stores to answer a call alike: a length that a clock can hold, and at
a question that the last ban is not over if any earlier one is not. -/
def Play.Undivided (p : Play BanCall (Option Bool)) : BanCall → Prop
  | .revoke _ n => (Seconds.whole (max 1 n)).fits = true
  | .contains t => Banned p.history p.world.uptime t → LastlyBanned p.history p.world.uptime t

/-- After the same history, the two stores answer a call alike if they are not divided over it. -/
lemma answer_eq_iff {p p' : Play BanCall (Option Bool)} (remote : Overwrites p)
    (near : Remembers p') (same : p.history = p'.history)
    (together : p'.world.uptime = p.world.uptime) {c : BanCall}
    {r r' : Except Fault (Option Bool)} {v v' : World} (run : Ends c.perform p.world r v)
    (run' : Ends c.perform p'.world r' v') : r = r' ↔ p.Undivided c := by
  obtain ⟨b, store⟩ := near.kept
  obtain ⟨t, n, rfl, rfl, _⟩ | ⟨t, rfl, rfl, _⟩ :=
    BanCall.keyspace_inv remote.kept remote.served run
  · obtain ⟨_, _, call, fits, rfl, _⟩ | ⟨_, _, call, unfit, rfl, _⟩ | ⟨_, call, _⟩ :=
      BanCall.register_inv store run'
    · cases call
      exact iff_of_true rfl fits
    · cases call
      exact iff_of_false nofun unfit
    · cases call
  · obtain ⟨_, _, call, _⟩ | ⟨_, _, call, _⟩ | ⟨_, call, rfl, _⟩ :=
      BanCall.register_inv store run'
    · cases call
    · cases call
    · cases call
      have last := remote.tells p.world.uptime t
      have some := near.tells p'.world.uptime (Int.le_refl _) t
      rw [← same, together] at some
      rw [together]
      constructor
      · intro alike banned
        have told := Option.some.inj (Except.ok.inj alike)
        exact last.1 (told.trans (some.2 banned))
      · intro undivided
        have told : p.world.bannedAt p.world.uptime t = p'.world.bannedAt p.world.uptime t :=
          Bool.eq_iff_iff.2 (last.trans ⟨fun banned => some.2 banned.banned,
            fun told => undivided (some.1 told)⟩)
        rw [told]

/-- Two stores that start together answer turns alike if they are divided over no call of them. -/
lemma history_eq_iff {w w' : World} (far : ∀ turns, Overwrites (w.banning turns))
    (near : ∀ turns, Remembers (w'.banning turns)) (together : w'.uptime = w.uptime)
    (turns : List (Turn BanCall)) :
    (w.banning turns).history = (w'.banning turns).history ↔
      ∀ before c, before ++ [.call c] <+: turns → (w.banning before).Undivided c := by
  induction turns using List.reverseRecOn with
  | nil =>
    refine iff_of_true rfl fun before c leads => ?_
    exact absurd (List.prefix_nil.1 leads) (List.append_ne_nil_of_right_ne_nil _ nofun)
  | append_singleton turns turn ih =>
    have clocks : (w'.banning turns).world.uptime = (w.banning turns).world.uptime := by
      rw [(calls_play BanCall.prompt_perform _).2, (calls_play BanCall.prompt_perform _).2,
        together]
    simp only [Turn.call_prefix_snoc]
    cases turn with
    | call c =>
      obtain ⟨r, v, run⟩ := Ends.total c.perform (w.banning turns).world
      obtain ⟨r', v', run'⟩ := Ends.total c.perform (w'.banning turns).world
      have alike := fun same => answer_eq_iff (far turns) (near turns) same clocks run run'
      have next : w.banning (turns ++ [.call c]) = _ := play_snoc_call run
      have next' : w'.banning (turns ++ [.call c]) = _ := play_snoc_call run'
      rw [next, next']
      constructor
      · intro same before d leads
        obtain ⟨same, last⟩ := List.append_inj' same rfl
        obtain ⟨rfl, call⟩ | earlier := leads
        · cases call
          have answers := congrArg Record.answer (List.cons.inj last).1
          exact (alike same).1 answers
        · exact ih.1 same before d earlier
      · intro undivided
        have same := ih.2 fun before d leads => undivided before d (.inr leads)
        show (w.banning turns).history ++ [⟨c, (w.banning turns).world.uptime, r⟩] =
          (w'.banning turns).history ++ [⟨c, (w'.banning turns).world.uptime, r'⟩]
        rw [(alike same).2 (undivided turns c (.inl ⟨rfl, rfl⟩)), same, clocks]
    | wait ms =>
      have next : w.banning (turns ++ [.wait ms]) = _ := play_snoc ..
      have next' : w'.banning (turns ++ [.wait ms]) = _ := play_snoc ..
      rw [next, next']
      refine ih.trans (forall₂_congr fun before c => imp_congr_left ?_)
      exact (or_iff_right fun both => nomatch both.2).symm

/-- A ban store on a server in order tells exactly whether the last ban of a token is not over. It
answers turns as the one in memory does exactly if each length can be held by a clock and, at each
question, the last ban of the token is not over if any earlier one is not. -/
theorem keyspace_tells_last_ban {w w' : World} (remote : w.bans = .keyspace)
    (served : w.keyspace.outages = []) (unbanned : ∀ now t, w.bannedAt now t = false)
    (empty : w'.bans = .register .empty) (together : w'.uptime = w.uptime) (started : 0 ≤ w.uptime)
    (turns : List (Turn BanCall)) :
    (∀ t, (∃ b v, Ends (Bans.contains t) (w.banning turns).world (.ok b) v ∧
        (b = true ↔ LastlyBanned (w.banning turns).history (w.banning turns).world.uptime t)) ∧
      ∀ n, ∃ v, Ends (Bans.revoke t (.whole n)) (w.banning turns).world (.ok ()) v) ∧
    ((w.banning turns).history = (w'.banning turns).history ↔
      ∀ before c, before ++ [.call c] <+: turns → (w.banning before).Undivided c) := by
  have far := Overwrites.play remote served unbanned
  have near := Remembers.play empty (by rw [together]; exact started)
  refine ⟨fun t => ⟨?_, fun n => ?_⟩, history_eq_iff far near together turns⟩
  · obtain ⟨r, v, run⟩ := Ends.total (Bans.contains t) (w.banning turns).world
    obtain ⟨b, rfl, tells⟩ := (far turns).contains_inv run
    exact ⟨b, v, run, tells⟩
  · obtain ⟨r, v, run⟩ := Ends.total (Bans.revoke t (.whole n)) (w.banning turns).world
    obtain rfl := (far turns).revoke_inv run
    exact ⟨v, run⟩

/-- A second ban that is longer is told by both stores, and so it is not over at the question. -/
theorem keyspace_tells_last_ban_sample :
    (World.remote.bans = .keyspace ∧ World.remote.keyspace.outages = [] ∧
      (∀ now t, World.remote.bannedAt now t = false) ∧ World.sample.bans = .register .empty ∧
      World.sample.uptime = World.remote.uptime ∧ 0 ≤ World.remote.uptime) ∧
    (World.remote.banning [.call (.revoke "t" 10), .call (.revoke "t" 100), .wait 50000,
        .call (.contains "t")]).history =
      (World.sample.banning [.call (.revoke "t" 10), .call (.revoke "t" 100), .wait 50000,
        .call (.contains "t")]).history ∧
    LastlyBanned (World.remote.banning [.call (.revoke "t" 10), .call (.revoke "t" 100),
      .wait 50000]).history 1050000 "t" := by
  have started : 0 ≤ World.remote.uptime := by decide
  have alike := (@keyspace_tells_last_ban .remote .sample rfl rfl (fun _ _ => rfl) rfl rfl started
    [.call (.revoke "t" 10), .call (.revoke "t" 100), .wait 50000, .call (.contains "t")]).2
  refine ⟨⟨rfl, rfl, fun _ _ => rfl, rfl, rfl, started⟩, rfl, ?_⟩
  refine alike.1 rfl [.call (.revoke "t" 10), .call (.revoke "t" 100), .wait 50000]
    (.contains "t") List.prefix_rfl ⟨⟨.revoke "t" 100, 1000000, .ok none⟩, ?_, 100, rfl, rfl, ?_⟩
  · exact List.mem_cons_of_mem _ List.mem_cons_self
  · decide

/-- A second ban that is shorter ends the first on the server: the token is not banned after fifty
seconds of a hundred, while it is in memory. -/
theorem shorter_ban_forgets :
    Banned (World.remote.banning [.call (.revoke "t" 100), .call (.revoke "t" 10),
        .wait 50000]).history 1050000 "t" ∧
      (World.remote.banning [.call (.revoke "t" 100), .call (.revoke "t" 10),
        .wait 50000]).world.uptime = 1050000 ∧
      (∃ v, Ends (Bans.contains "t") (World.remote.banning [.call (.revoke "t" 100),
        .call (.revoke "t" 10), .wait 50000]).world (.ok false) v) ∧
      ∃ v, Ends (Bans.contains "t") (World.sample.banning [.call (.revoke "t" 100),
        .call (.revoke "t" 10), .wait 50000]).world (.ok true) v := by
  refine ⟨⟨⟨.revoke "t" 100, 1000000, .ok none⟩, ?_, 100, rfl, rfl, by decide⟩, rfl, ⟨_, rfl⟩,
    ⟨_, rfl⟩⟩
  exact List.mem_cons_self

end SignIn
