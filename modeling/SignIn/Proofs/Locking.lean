import Mathlib.Data.List.Nodup
import Mathlib.Logic.Relation
import Mathlib.Tactic.Lemma
import SignIn.Lock

/-!
# The lock under any schedule

Threads ask for the lock, leave it and check again after they were woken, in any order. In every
state that this leads to (`Reachable`) the lock is `Sound`: its counters tell how many threads hold
it and wait for it, a writer holds it alone, and a thread is blocked only while somebody holds the
lock or a woken writer has yet to check. The last part is what keeps wake-ups from being lost: when
nobody is left to check, whoever is blocked is blocked behind a holder.
-/

namespace SignIn

def Thread.holds (t : Thread) : Bool := t.standing = .holding

namespace Lock

variable {l l' : Lock} {name n : String} {mode m : LockMode}

/-- How many threads hold the lock in a mode. -/
def holding (l : Lock) (mode : LockMode) : Nat :=
  l.threads.countP fun t => t.mode = mode && t.holds

/-- How many threads wait for the lock in a mode, be they blocked or woken. -/
def waiting (l : Lock) (mode : LockMode) : Nat :=
  l.threads.countP fun t => t.mode = mode && !t.holds

/-- A thread holds the lock in a mode. -/
def Holds (l : Lock) (name : String) (mode : LockMode) : Prop :=
  ⟨name, mode, .holding⟩ ∈ l.threads

instance : Decidable (l.Holds name mode) :=
  inferInstanceAs (Decidable (_ ∈ l.threads))

/-- What can happen to a lock: a thread that is neither holding it nor waiting for it asks for it,
a holder leaves it, normally or by an exception, or a woken thread checks again. -/
inductive Step (l : Lock) : Lock → Prop
  | request (name : String) (mode : LockMode) (new : l.thread? name = none) :
    Step l (l.request name mode)
  | leave (name : String) : Step l (l.leave name)
  | recheck (name : String) : Step l (l.recheck name)

/-- A state that steps lead to from a lock that nobody has asked for. -/
abbrev Reachable (l : Lock) : Prop :=
  Relation.ReflTransGen Step free l

/-- The counters of a lock tell how many threads hold it and wait for it, and a writer holds it
alone. -/
structure Counted (l : Lock) : Prop where
  distinct : (l.threads.map (·.name)).Nodup
  readers : l.readers = l.holding .read
  writer : l.writer.toNat = l.holding .write
  writersWaiting : l.writersWaiting = l.waiting .write
  alone : l.writer = true → l.readers = 0

/-- Somebody holds a lock, or a woken writer has yet to check. -/
def Busy (l : Lock) : Prop :=
  l.writer = true ∨ 0 < l.readers ∨ ∃ t ∈ l.threads, t.mode = .write ∧ t.standing = .woken

/-- What holds of a lock in every state. -/
structure Sound (l : Lock) : Prop extends Counted l where
  behind : ∀ t ∈ l.threads, t.standing = .blocked → l.Busy

/-! ## One thread among the others -/

/-- A thread stands once among the threads, and the others have other names. -/
structure Among (l : Lock) (t : Thread) (before after : List Thread) : Prop where
  threads : l.threads = before ++ t :: after
  others : ∀ u ∈ before ++ after, u.name ≠ t.name

/-- A thread of a lock whose names are distinct stands among the others. -/
lemma among_of_mem (distinct : (l.threads.map (·.name)).Nodup) {t : Thread}
    (mem : t ∈ l.threads) : ∃ before after, l.Among t before after := by
  obtain ⟨before, after, split⟩ := List.append_of_mem mem
  refine ⟨before, after, split, fun u mem same => ?_⟩
  rw [split, List.map_append, List.map_cons, List.nodup_middle, List.nodup_cons,
    ← List.map_append] at distinct
  exact distinct.1 (List.mem_map.2 ⟨u, mem, same⟩)

/-- A thread that is found by its name stands among the others. -/
lemma exists_among (distinct : (l.threads.map (·.name)).Nodup) {t : Thread}
    (there : l.thread? name = some t) :
    t.name = name ∧ ∃ before after, l.Among t before after := by
  rw [thread?] at there
  have named := List.find?_some there
  exact ⟨of_decide_eq_true named, among_of_mem distinct (List.mem_of_find?_eq_some there)⟩

/-- Counting an entry moves no thread. -/
lemma threads_countEntry (l : Lock) (mode : LockMode) :
    (l.countEntry mode).threads = l.threads := by
  cases mode with
  | read => rfl
  | write => rfl

namespace Among

variable {t : Thread} {before after : List Thread}

/-- The holders are those among the other threads, and the thread itself if it holds. -/
lemma holding_eq (among : l.Among t before after) (m : LockMode) :
    l.holding m = (before ++ after).countP (fun u => u.mode = m && u.holds) +
      if t.mode = m ∧ t.holds = true then 1 else 0 := by
  rw [holding, among.threads, List.countP_append, List.countP_cons, List.countP_append]
  simp only [Bool.and_eq_true, decide_eq_true_eq]
  omega

/-- The waiting are those among the other threads, and the thread itself if it waits. -/
lemma waiting_eq (among : l.Among t before after) (m : LockMode) :
    l.waiting m = (before ++ after).countP (fun u => u.mode = m && !u.holds) +
      if t.mode = m ∧ t.holds = false then 1 else 0 := by
  rw [waiting, among.threads, List.countP_append, List.countP_cons, List.countP_append]
  simp only [Bool.and_eq_true, Bool.not_eq_true', decide_eq_true_eq]
  omega

/-- Only the thread itself is placed elsewhere. -/
lemma place (among : l.Among t before after) (s : Standing) :
    (l.place t.name s).Among { t with standing := s } before after := by
  have kept (us : List Thread) (sub : us ⊆ before ++ after) :
      us.map (fun u => if u.name = t.name then { u with standing := s } else u) = us := by
    refine (List.map_congr_left fun u mem => ?_).trans us.map_id
    rw [if_neg (among.others u (sub mem)), id]
  refine ⟨?_, among.others⟩
  rw [Lock.place, among.threads, List.map_append, List.map_cons, if_pos rfl,
    kept _ (List.subset_append_left ..), kept _ (List.subset_append_right ..)]

/-- Counting an entry leaves the thread among the others. -/
lemma countEntry (among : l.Among t before after) (mode : LockMode) :
    (l.countEntry mode).Among t before after :=
  ⟨(l.threads_countEntry mode).trans among.threads, among.others⟩

/-- The threads are the one thread and the others. -/
lemma mem_iff (among : l.Among t before after) {u : Thread} :
    u ∈ l.threads ↔ u = t ∨ u ∈ before ++ after := by
  rw [among.threads, List.mem_append, List.mem_cons, List.mem_append, or_left_comm]

/-- Without its name, the others are left. -/
lemma filter (among : l.Among t before after) :
    l.threads.filter (fun u => u.name ≠ t.name) = before ++ after := by
  have kept (us : List Thread) (sub : us ⊆ before ++ after) :
      us.filter (fun u => u.name ≠ t.name) = us :=
    List.filter_eq_self.2 fun u mem => decide_eq_true (among.others u (sub mem))
  rw [among.threads, List.filter_append, List.filter_cons, if_neg (by simp),
    kept _ (List.subset_append_left ..), kept _ (List.subset_append_right ..)]

end Among

/-! ## Steps -/

/-- A change that keeps names keeps the list of names. -/
lemma names_map {change : Thread → Thread} (same : ∀ t, (change t).name = t.name)
    (ts : List Thread) : (ts.map change).map (·.name) = ts.map (·.name) := by
  rw [List.map_map]
  exact List.map_congr_left fun t _ => same t

/-- Placing a thread keeps the list of names. -/
lemma names_place (l : Lock) (name : String) (s : Standing) :
    (l.place name s).threads.map (·.name) = l.threads.map (·.name) := by
  refine names_map (fun t => ?_) l.threads
  split
  · rfl
  · rfl

/-- Where a writer waits, the lock is busy. -/
lemma Sound.busy_of_waiting (h : l.Sound) (waits : l.writersWaiting ≠ 0) : l.Busy := by
  rw [h.writersWaiting] at waits
  obtain ⟨t, mem, waits⟩ := List.countP_pos_iff.1 (Nat.pos_of_ne_zero waits)
  obtain ⟨writes, idle⟩ := Bool.and_eq_true_iff.1 waits
  have writes := of_decide_eq_true writes
  cases standing : t.standing with
  | holding =>
    rw [Thread.holds, standing] at idle
    cases idle
  | blocked => exact h.behind t mem standing
  | woken => exact .inr (.inr ⟨t, mem, writes, standing⟩)

section Checking

variable {t : Thread} {before after : List Thread}

/-- A thread that may not enter is blocked behind somebody. -/
lemma Sound.block (h : l.Sound) (among : l.Among t before after) (woken : t.standing = .woken)
    (refused : l.admits t.mode = false) : (l.place t.name .blocked).Sound := by
  have placed := among.place .blocked
  have held (m : LockMode) : (l.place t.name .blocked).holding m = l.holding m := by
    rw [placed.holding_eq, among.holding_eq]
    simp [Thread.holds, woken]
  have waits (m : LockMode) : (l.place t.name .blocked).waiting m = l.waiting m := by
    rw [placed.waiting_eq, among.waiting_eq]
    simp [Thread.holds, woken]
  refine ⟨⟨?_, h.readers.trans (held _).symm, h.writer.trans (held _).symm,
    h.writersWaiting.trans (waits _).symm, h.alone⟩, fun _ _ _ => ?_⟩
  · rw [names_place]
    exact h.distinct
  · cases mode : t.mode with
    | write =>
      rw [mode, admits, Bool.and_eq_false_iff, Bool.not_eq_false', beq_eq_false_iff_ne] at refused
      obtain writer | readers := refused
      · exact .inl writer
      · exact .inr (.inl (Nat.pos_of_ne_zero readers))
    | read =>
      rw [mode, admits, Bool.and_eq_false_iff, Bool.not_eq_false', beq_eq_false_iff_ne] at refused
      obtain writer | waits := refused
      · exact .inl writer
      · obtain writer | readers | ⟨u, mem, writes, woken⟩ := h.busy_of_waiting waits
        · exact .inl writer
        · exact .inr (.inl readers)
        -- the woken writer is not the reader that blocks
        · refine .inr (.inr ⟨u, ?_, writes, woken⟩)
          obtain rfl | other := among.mem_iff.1 mem
          · rw [mode] at writes
            cases writes
          · exact placed.mem_iff.2 (.inr other)

/-- A thread that may enter is counted among the holders. -/
lemma Sound.enter (h : l.Sound) (among : l.Among t before after) (woken : t.standing = .woken)
    (admitted : l.admits t.mode = true) :
    ((l.countEntry t.mode).place t.name .holding).Sound := by
  have placed := (among.countEntry t.mode).place .holding
  have held (m : LockMode) : ((l.countEntry t.mode).place t.name .holding).holding m =
      l.holding m + if t.mode = m then 1 else 0 := by
    rw [placed.holding_eq, among.holding_eq]
    simp [Thread.holds, woken]
  have waits (m : LockMode) : l.waiting m =
      ((l.countEntry t.mode).place t.name .holding).waiting m + if t.mode = m then 1 else 0 := by
    rw [placed.waiting_eq, among.waiting_eq]
    simp [Thread.holds, woken]
  have distinct : (((l.countEntry t.mode).place t.name .holding).threads.map (·.name)).Nodup := by
    rw [names_place, threads_countEntry]
    exact h.distinct
  cases mode : t.mode with
  | read =>
    rw [mode, admits, Bool.and_eq_true, Bool.not_eq_true'] at admitted
    rw [mode] at held waits distinct
    refine ⟨⟨distinct, ?_, ?_, ?_, fun writer => ?_⟩, fun _ _ _ => .inr (.inl (Nat.succ_pos _))⟩
    · rw [held, if_pos rfl, ← h.readers]
      rfl
    · rw [held, if_neg nofun]
      exact h.writer
    · have writers := waits .write
      rw [if_neg nofun] at writers
      exact h.writersWaiting.trans writers
    · exact absurd (admitted.1.symm.trans writer) Bool.false_ne_true
  | write =>
    rw [mode, admits, Bool.and_eq_true, Bool.not_eq_true', beq_iff_eq] at admitted
    rw [mode] at held waits distinct
    obtain ⟨free, none⟩ := admitted
    refine ⟨⟨distinct, ?_, ?_, ?_, fun _ => none⟩, fun _ _ _ => .inl rfl⟩
    · rw [held, if_neg nofun]
      exact h.readers
    · rw [held, if_pos rfl, ← h.writer, free]
      rfl
    · have writers := waits .write
      rw [if_pos rfl, ← h.writersWaiting] at writers
      show l.writersWaiting - 1 = _
      omega

/-- A woken thread that checks keeps a lock sound. -/
lemma Sound.check (h : l.Sound) (among : l.Among t before after) (woken : t.standing = .woken) :
    (l.check t.name t.mode).Sound := by
  rw [Lock.check]
  cases admitted : l.admits t.mode with
  | true => exact h.enter among woken admitted
  | false => exact h.block among woken admitted

end Checking

/-- A thread that checks again keeps a lock sound. -/
lemma Sound.recheck (h : l.Sound) (name : String) : (l.recheck name).Sound := by
  rw [Lock.recheck]
  split
  · next mode there =>
    obtain ⟨rfl, before, after, among⟩ := exists_among h.distinct there
    exact h.check among rfl
  · exact h

/-- A lock with one more thread, which has yet to check. -/
def arrive (l : Lock) (name : String) (mode : LockMode) : Lock :=
  { l with
    writersWaiting := l.writersWaiting + if mode = .write then 1 else 0
    threads := l.threads ++ [⟨name, mode, .woken⟩] }

/-- A request is an arrival that checks at once. -/
lemma request_eq (l : Lock) (name : String) (mode : LockMode) :
    l.request name mode = (l.arrive name mode).check name mode := by
  cases mode with
  | read => rfl
  | write => rfl

/-- A thread that arrives stands behind the others. -/
lemma among_arrive (new : l.thread? name = none) (mode : LockMode) :
    (l.arrive name mode).Among ⟨name, mode, .woken⟩ l.threads [] := by
  refine ⟨rfl, fun u mem same => ?_⟩
  rw [List.append_nil] at mem
  have other := List.find?_eq_none.1 new u mem
  exact other (decide_eq_true same)

/-- An arrival keeps a lock sound. -/
lemma Sound.arrive (h : l.Sound) (new : l.thread? name = none) (mode : LockMode) :
    (l.arrive name mode).Sound := by
  have among := among_arrive new mode
  have held (m : LockMode) : (l.arrive name mode).holding m = l.holding m := by
    rw [among.holding_eq, List.append_nil, if_neg fun both => nomatch both.2]
    rfl
  have waits (m : LockMode) :
      (l.arrive name mode).waiting m = l.waiting m + if mode = m then 1 else 0 := by
    rw [among.waiting_eq, List.append_nil, waiting]
    simp [Thread.holds]
  refine ⟨⟨?_, h.readers.trans (held _).symm, h.writer.trans (held _).symm, ?_, h.alone⟩,
    fun t mem blocked => ?_⟩
  · rw [among.threads, List.map_append, List.map_cons, List.nodup_middle, List.nodup_cons,
      ← List.map_append, List.append_nil]
    refine ⟨fun mem => ?_, h.distinct⟩
    obtain ⟨u, mem, same⟩ := List.mem_map.1 mem
    exact among.others u (List.mem_append_left _ mem) same
  · rw [waits, ← h.writersWaiting]
    rfl
  · obtain old | new := List.mem_append.1 mem
    · obtain writer | readers | ⟨u, mem, writes⟩ := h.behind t old blocked
      · exact .inl writer
      · exact .inr (.inl readers)
      · exact .inr (.inr ⟨u, List.mem_append_left _ mem, writes⟩)
    · rw [List.mem_singleton.1 new] at blocked
      cases blocked

/-- A request keeps a lock sound. -/
lemma Sound.request (h : l.Sound) (new : l.thread? name = none) (mode : LockMode) :
    (l.request name mode).Sound := by
  rw [request_eq]
  exact (h.arrive new mode).check (among_arrive new mode) rfl

/-! ## Leaving -/

/-- Waking all changes no count of modes and holders. -/
lemma countP_wakeAll (l : Lock) (p : LockMode → Bool → Bool) :
    l.wakeAll.threads.countP (fun t => p t.mode t.holds) =
      l.threads.countP fun t => p t.mode t.holds := by
  rw [wakeAll, List.countP_map]
  refine List.countP_congr fun t _ => ?_
  rw [Function.comp_apply]
  split
  · next blocked =>
    rw [Thread.holds, Thread.holds, blocked]
    exact Iff.rfl
  · rfl

/-- Waking all keeps the list of names. -/
lemma names_wakeAll (l : Lock) : l.wakeAll.threads.map (·.name) = l.threads.map (·.name) := by
  refine names_map (fun t => ?_) l.threads
  split
  · rfl
  · rfl

/-- When all have been woken, nobody is blocked. -/
lemma Counted.wakeAll (h : l.Counted) : l.wakeAll.Sound := by
  have held (m : LockMode) : l.wakeAll.holding m = l.holding m :=
    countP_wakeAll l fun mode holds => mode = m && holds
  have waits (m : LockMode) : l.wakeAll.waiting m = l.waiting m :=
    countP_wakeAll l fun mode holds => mode = m && !holds
  refine ⟨⟨?_, h.readers.trans (held _).symm, h.writer.trans (held _).symm,
    h.writersWaiting.trans (waits _).symm, h.alone⟩, fun t mem blocked => ?_⟩
  · rw [names_wakeAll]
    exact h.distinct
  · obtain ⟨u, _, rfl⟩ := List.mem_map.1 mem
    split at blocked
    · cases blocked
    · next other => exact absurd blocked other

/-- A lock that a holder has left before anybody is woken. -/
def depart (l : Lock) (name : String) (mode : LockMode) : Lock :=
  { l with
    readers := if mode = .read then l.readers - 1 else l.readers
    writer := if mode = .write then false else l.writer
    threads := l.threads.filter fun t => t.name ≠ name }

/-- A lock that is left wakes all, unless readers are still there. -/
lemma leave_inv (l : Lock) (name : String) :
    l.leave name = l ∨ ∃ n mode, l.thread? name = some ⟨n, mode, .holding⟩ ∧
      (l.leave name = (l.depart name mode).wakeAll ∨
        l.leave name = l.depart name mode ∧ (l.depart name mode).readers ≠ 0) := by
  rw [leave]
  split
  · next n mode there =>
    refine .inr ⟨n, mode, there, ?_⟩
    cases mode with
    | read =>
      dsimp only
      split
      · next last => exact .inl rfl
      · next others => exact .inr ⟨rfl, others⟩
    | write => exact .inl rfl
  · exact .inl rfl

/-- When a holder departs, the counters are right for those that stay. -/
lemma Sound.depart (h : l.Sound) (there : l.thread? name = some ⟨n, mode, .holding⟩) :
    (l.depart name mode).Counted := by
  obtain ⟨rfl, before, after, among⟩ := exists_among h.distinct there
  have rest : (l.depart n mode).threads = before ++ after := among.filter
  have held (m : LockMode) :
      l.holding m = (l.depart n mode).holding m + if mode = m then 1 else 0 := by
    rw [among.holding_eq, holding, rest]
    simp [Thread.holds]
  have waits (m : LockMode) : l.waiting m = (l.depart n mode).waiting m := by
    rw [among.waiting_eq, waiting, rest]
    simp [Thread.holds]
  have distinct := h.distinct
  rw [among.threads, List.map_append, List.map_cons, List.nodup_middle, List.nodup_cons,
    ← List.map_append, ← rest] at distinct
  have readers := h.readers
  have writer := h.writer
  have alone := h.alone
  rw [held] at readers writer
  cases mode with
  | read =>
    rw [if_pos rfl] at readers
    rw [if_neg nofun] at writer
    refine ⟨distinct.2, ?_, writer, h.writersWaiting.trans (waits _), fun writer => ?_⟩
    · exact Nat.sub_eq_of_eq_add readers
    · show l.readers - 1 = 0
      rw [alone writer]
  | write =>
    have one := l.writer.toNat_le
    rw [if_neg nofun] at readers
    rw [if_pos rfl] at writer
    have none : (l.depart n .write).holding .write = 0 := by omega
    exact ⟨distinct.2, readers, none.symm, h.writersWaiting.trans (waits _), nofun⟩

/-- Leaving keeps a lock sound. -/
lemma Sound.leave (h : l.Sound) (name : String) : (l.leave name).Sound := by
  obtain same | ⟨n, mode, there, woken | ⟨same, others⟩⟩ := l.leave_inv name
  · rw [same]
    exact h
  · rw [woken]
    exact (h.depart there).wakeAll
  · rw [same]
    exact ⟨h.depart there, fun _ _ _ => .inr (.inl (Nat.pos_of_ne_zero others))⟩

/-! ## Coming to hold the lock -/

/-- Beside a writer that holds a lock nobody else holds it. -/
lemma Counted.holds_alone (h : l.Counted) {n : String} (writes : l.Holds n .write)
    (holds : l.Holds name mode) : name = n ∧ mode = .write := by
  obtain ⟨before, after, among⟩ := among_of_mem h.distinct writes
  have writer := h.writer
  have readers := h.readers
  have one := l.writer.toNat_le
  rw [among.holding_eq, if_pos ⟨rfl, rfl⟩] at writer
  rw [among.holding_eq, if_neg (fun both => nomatch both.1),
    h.alone (Bool.toNat_eq_one.1 (by omega))] at readers
  obtain same | other := among.mem_iff.1 holds
  · cases same
    exact ⟨rfl, rfl⟩
  -- another holder would be counted among the rest
  · have counted : 0 < (before ++ after).countP fun u => u.mode = mode && u.holds :=
      List.countP_pos_iff.2 ⟨_, other, Bool.and_eq_true_iff.2 ⟨decide_eq_true rfl, rfl⟩⟩
    cases mode with
    | read => omega
    | write => omega

/-- Who holds the lock after a check held it before or was admitted. -/
lemma holds_check {t : Thread} {before after : List Thread} (among : l.Among t before after)
    (holds : (l.check t.name t.mode).Holds name mode) :
    l.Holds name mode ∨ mode = t.mode ∧ l.admits mode = true := by
  rw [check] at holds
  split at holds
  · next admitted =>
    obtain same | other := ((among.countEntry _).place .holding).mem_iff.1 holds
    · cases same
      exact .inr ⟨rfl, admitted⟩
    · exact .inl (among.mem_iff.2 (.inr other))
  · obtain same | other := (among.place .blocked).mem_iff.1 holds
    · cases same
    · exact .inl (among.mem_iff.2 (.inr other))

/-- Waking all makes no holder. -/
lemma holds_wakeAll (holds : l.wakeAll.Holds name mode) : l.Holds name mode := by
  obtain ⟨u, mem, same⟩ := List.mem_map.1 holds
  split at same
  · cases same
  · rw [same] at mem
    exact mem

/-- Leaving makes no holder. -/
lemma holds_leave (holds : (l.leave n).Holds name mode) : l.Holds name mode := by
  obtain same | ⟨_, m, _, woken | ⟨same, _⟩⟩ := l.leave_inv n
  · rwa [same] at holds
  · rw [woken] at holds
    exact List.mem_of_mem_filter (holds_wakeAll holds)
  · rw [same] at holds
    exact List.mem_of_mem_filter holds

/-! ## Runs -/

/-- Every step keeps a lock sound. -/
lemma Sound.step (h : l.Sound) (step : l.Step l') : l'.Sound := by
  cases step with
  | request name mode new => exact h.request new mode
  | leave name => exact h.leave name
  | recheck name => exact h.recheck name

/-- A lock that nobody has asked for is sound. -/
lemma sound_free : free.Sound := by
  refine ⟨⟨List.nodup_nil, rfl, rfl, rfl, fun _ => rfl⟩, fun t mem => ?_⟩
  cases mem

/-- Every reachable lock is sound. -/
lemma Reachable.sound (reachable : l.Reachable) : l.Sound := by
  induction reachable with
  | refl => exact sound_free
  | tail _ step ih => exact ih.step step

/-- A reader that comes to hold the lock does so while no writer holds it or waits for it. -/
lemma Sound.granted (h : l.Sound) (step : l.Step l') (holds : l'.Holds name .read) :
    l.Holds name .read ∨ l.holding .write = 0 ∧ l.waiting .write = 0 := by
  have quiet (admitted : l.admits .read = true) :
      l.holding .write = 0 ∧ l.waiting .write = 0 := by
    rw [admits, Bool.and_eq_true, Bool.not_eq_true', beq_iff_eq] at admitted
    rw [← h.writer, ← h.writersWaiting, admitted.1]
    exact ⟨rfl, admitted.2⟩
  cases step with
  | request n m new =>
    rw [request_eq] at holds
    obtain before | ⟨rfl, admitted⟩ := holds_check (among_arrive new m) holds
    · obtain before | same := List.mem_append.1 before
      · exact .inl before
      · cases List.mem_singleton.1 same
    · exact .inr (quiet admitted)
  | leave n => exact .inl (holds_leave holds)
  | recheck n =>
    rw [Lock.recheck] at holds
    split at holds
    · next there =>
      obtain ⟨rfl, before, after, among⟩ := exists_among h.distinct there
      obtain before | ⟨rfl, admitted⟩ := holds_check among holds
      · exact .inl before
      · exact .inr (quiet admitted)
    · exact .inl holds

/-- Once every thread that was woken has checked again, whoever is blocked waits for a holder. -/
lemma Sound.exists_holder (h : l.Sound) (checked : ∀ t ∈ l.threads, t.standing ≠ .woken)
    (stuck : ∃ t ∈ l.threads, t.standing = .blocked) : ∃ name mode, l.Holds name mode := by
  have counted {mode : LockMode} (some : 0 < l.holding mode) : ∃ name mode, l.Holds name mode := by
    obtain ⟨⟨name, mode, standing⟩, mem, holds⟩ := List.countP_pos_iff.1 some
    cases of_decide_eq_true (Bool.and_eq_true_iff.1 holds).2
    exact ⟨name, mode, mem⟩
  obtain ⟨t, mem, blocked⟩ := stuck
  obtain writer | readers | ⟨u, mem, _, woken⟩ := h.behind t mem blocked
  · have writers := h.writer
    rw [writer] at writers
    exact counted (Nat.lt_of_lt_of_eq Nat.one_pos writers)
  · exact counted (h.readers ▸ readers)
  · exact absurd woken (checked u mem)

/-! ## Letting every woken thread check -/

/-- Whoever is woken after a thread checked again was woken before, and is another thread. -/
lemma woken_recheck (h : l.Counted) {t : Thread} (mem : t ∈ (l.recheck name).threads)
    (woken : t.standing = .woken) : t ∈ l.threads ∧ t.name ≠ name := by
  rw [recheck] at mem
  split at mem
  · next mode there =>
    obtain ⟨rfl, before, after, among⟩ := exists_among h.distinct there
    rw [check] at mem
    split at mem
    · obtain rfl | other := ((among.countEntry mode).place .holding).mem_iff.1 mem
      · cases woken
      · exact ⟨among.mem_iff.2 (.inr other), among.others t other⟩
    · obtain rfl | other := (among.place .blocked).mem_iff.1 mem
      · cases woken
      · exact ⟨among.mem_iff.2 (.inr other), among.others t other⟩
  · next idle =>
    refine ⟨mem, fun named => ?_⟩
    have there : (l.thread? name).isSome :=
      List.find?_isSome.2 ⟨t, mem, decide_eq_true named⟩
    obtain ⟨u, found⟩ := Option.isSome_iff_exists.1 there
    obtain ⟨same, before, after, among⟩ := exists_among h.distinct found
    obtain rfl | other := among.mem_iff.1 mem
    · exact idle t.name t.mode (woken ▸ found)
    · exact among.others t other (named.trans same.symm)

/-- Letting threads check again leads to reachable locks. -/
lemma reachable_settling (reachable : l.Reachable) (ts : List Thread) :
    (ts.foldl (fun l t => l.recheck t.name) l).Reachable := by
  induction ts generalizing l with
  | nil => exact reachable
  | cons t ts ih => exact ih (reachable.tail (.recheck t.name))

/-- When all that were woken have checked again, none is left woken. -/
lemma checked_settling (reachable : l.Reachable) {ts : List Thread}
    (covered : ∀ t ∈ l.threads, t.standing = .woken → t ∈ ts) :
    ∀ t ∈ (ts.foldl (fun l t => l.recheck t.name) l).threads, t.standing ≠ .woken := by
  induction ts generalizing l with
  | nil => exact fun t mem woken => nomatch covered t mem woken
  | cons u ts ih =>
    refine ih (reachable.tail (.recheck u.name)) fun t mem woken => ?_
    obtain ⟨mem, other⟩ := woken_recheck reachable.sound.toCounted mem woken
    obtain rfl | later := List.mem_cons.1 (covered t mem woken)
    · exact absurd rfl other
    · exact later

/-- Settling is a run in which every woken thread checks; it leaves none behind. -/
theorem settle_checked (reachable : l.Reachable) :
    l.settle.Reachable ∧ ∀ t ∈ l.settle.threads, t.standing ≠ .woken :=
  ⟨reachable_settling reachable _, checked_settling reachable fun _ mem woken =>
    List.mem_filter.2 ⟨mem, decide_eq_true woken⟩⟩

/-! ## Every schedule -/

/-- Whatever any number of threads do, the counters of the lock are right, a writer holds it alone,
a reader is let in only while no writer holds it or waits, and no wake-up is lost. -/
theorem safe_of_reachable (reachable : l.Reachable) :
    (l.readers = l.holding .read ∧ l.writer.toNat = l.holding .write ∧
      l.writersWaiting = l.waiting .write) ∧
    (∀ writer name mode, l.Holds writer .write → l.Holds name mode →
      name = writer ∧ mode = .write) ∧
    (∀ l' name, l.Step l' → l'.Holds name .read →
      l.Holds name .read ∨ l.holding .write = 0 ∧ l.waiting .write = 0) ∧
    ((∀ t ∈ l.threads, t.standing ≠ .woken) → (∃ t ∈ l.threads, t.standing = .blocked) →
      ∃ name mode, l.Holds name mode) := by
  have h := reachable.sound
  refine ⟨⟨h.readers, h.writer, h.writersWaiting⟩, fun _ _ _ writes holds => ?_,
    fun _ _ step holds => ?_, fun checked stuck => ?_⟩
  · exact h.holds_alone writes holds
  · exact h.granted step holds
  · exact h.exists_holder checked stuck

/-- A reader holds the lock, a writer waits for it and keeps a second reader out. -/
def crowded : Lock :=
  ((free.request "first" .read).request "writer" .write).request "second" .read

/-- Behind a waiting writer no second reader is let in, though a reader still holds the lock. -/
theorem crowded_safe : crowded.Reachable ∧
    (crowded.readers = 1 ∧ crowded.writersWaiting = 1) ∧ crowded.Holds "first" .read ∧
    (∀ l', crowded.Step l' → ¬ l'.Holds "second" .read) ∧
    ∃ name mode, crowded.Holds name mode := by
  have asked : (free.request "first" .read).Reachable := .single (.request _ _ rfl)
  have waited : ((free.request "first" .read).request "writer" .write).Reachable :=
    asked.tail (.request _ _ rfl)
  have reachable : crowded.Reachable := waited.tail (.request _ _ rfl)
  obtain ⟨⟨readers, _, waiting⟩, _, granted, awake⟩ := safe_of_reachable reachable
  refine ⟨reachable, ⟨readers, waiting⟩, by decide, fun l' step holds => ?_, awake ?_ ?_⟩
  · obtain before | ⟨_, none⟩ := granted l' "second" step holds
    · revert before
      decide
    · cases none
  · decide
  · decide

end Lock

end SignIn
