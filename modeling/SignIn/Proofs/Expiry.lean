import SignIn.Proofs.Lifetime
import SignIn.Proofs.Stores

/-!
# Lazy expiry under any schedule

The stores in memory drop an entry whose deadline has come when somebody asks for it. The question
reads the clock, then looks the entry up, and only then, with the lock taken anew, drops it; in
between other calls enter, renew and remove entries. Here calls proceed by one of these steps at a
time, in any order, and the clock moves on between them.

A step may only remove what is over or what the call is meant to remove (`ban_kept`,
`pending_kept`). What a store has promised stays true until a deadline by an induction over the
moves that is made once (`Promise.Sound.after`); a ban and a challenge are two such promises.
-/

namespace SignIn

section Keyed

variable {κ α : Type} [DecidableEq κ]

/-- Deletes an entry, which fails if there is none. -/
def Keyed.delete? (k : κ) (m : Keyed κ α) : Option (Keyed κ α) :=
  (find? k m).map fun _ => drop k m

end Keyed

/-- The last step of a question about a ban. A token that is not there counts as one whose ban ends
in a second. -/
def Register.sweep? (r : Register) (now : Int) (token : String) : Option Register :=
  if ((Keyed.find? token r.ends).getD ⟨now + 1000, now + 1000⟩).hasCome now then
    (Keyed.delete? token r.ends).map .mk
  else some r

namespace Book

def delete? (b : Book) (e : Email) : Option Book :=
  (Keyed.delete? e b.pending).map fun pending => { b with pending }

/-- The last step of a question about a challenge. -/
def sweep? (b : Book) (now : Int) (e : Email) : Option Book :=
  match Keyed.find? e b.pending with
  | some p => if p.deadline.hasCome now then b.delete? e else some b
  | none => some b

/-- The last step of taking a challenge. -/
def take? (b : Book) (now : Int) (e : Email) (c : Challenge) : Option (Bool × Book) :=
  match Keyed.find? e b.pending with
  | none => some (false, b)
  | some p =>
    if p.deadline.hasCome now then (b.delete? e).map (false, ·)
    else if p.challenge = c then (b.delete? e).map (true, ·)
    else some (false, b)

end Book

/-- The ban store and the challenge store in memory. -/
structure Shelf where
  bans : Register
  book : Book

/-- A call of a store in memory. -/
inductive StoreCall
  | revoke (token : String) (length : Seconds)
  | contains (token : String)
  | issue (e : Email) (c : Challenge)
  | consume (e : Email)
  | peek (e : Email)
  | take (e : Email) (c : Challenge)
  deriving DecidableEq

/-- How a call ends. -/
inductive Outcome
  | done
  | told (answer : Bool)
  | found (c : Challenge)
  | noChallenge
  | overflow
  | missingKey
  deriving DecidableEq

/-- Where a call stands: it has done nothing, has read the clock, has found an entry whose deadline
had come by then, or is over. -/
inductive Phase
  | begun
  | timed (now : Int)
  | expired (now : Int)
  | ended (o : Outcome)
  deriving DecidableEq

/-- What is next for a call. -/
def StoreCall.proceed (clock : Int) (s : Shelf) : StoreCall → Phase → Phase × Shelf
  | revoke _ length, .begun =>
    (if length.atLeastOne.fits then .timed clock else .ended .overflow, s)
  | issue _ _, .begun =>
    (if (Seconds.whole s.book.seconds).fits then .timed clock else .ended .overflow, s)
  | consume e, .begun => (.ended .done, { s with book := s.book.consume e })
  | contains _, .begun | peek _, .begun | take _ _, .begun => (.timed clock, s)
  | revoke t length, .timed now => (.ended .done, { s with bans := s.bans.revoke now t length })
  | issue e c, .timed now => (.ended .done, { s with book := s.book.issue now e c })
  | contains t, .timed now =>
    match Keyed.find? t s.bans.ends with
    | none => (.ended (.told false), s)
    | some d => (if d.hasCome now then .expired now else .ended (.told true), s)
  | peek e, .timed now =>
    match Keyed.find? e s.book.pending with
    | none => (.ended .noChallenge, s)
    | some p => (if p.deadline.hasCome now then .expired now else .ended (.found p.challenge), s)
  | take e c, .timed now =>
    match s.book.take? now e c with
    | some (taken, book) => (.ended (.told taken), { s with book })
    | none => (.ended .missingKey, s)
  | contains t, .expired now =>
    match s.bans.sweep? now t with
    | some bans => (.ended (.told false), { s with bans })
    | none => (.ended .missingKey, s)
  | peek e, .expired now =>
    match s.book.sweep? now e with
    | some book => (.ended .noChallenge, { s with book })
    | none => (.ended .missingKey, s)
  | _, phase => (phase, s)

-- how single phases go on is left to simp; the equations are many, so they are made here once
attribute [simp] StoreCall.proceed

/-- A call that has come in, and where it stands. -/
structure Task where
  call : StoreCall
  phase : Phase

/-- The stores with a clock and the calls that have come in, in the order of their coming. -/
structure Desk where
  clock : Int
  shelf : Shelf
  tasks : List Task

namespace Desk

inductive Move
  | arrive (c : StoreCall)
  /-- The call with this number does what is next for it. -/
  | proceed (i : Nat)
  | wait (ms : Nat)

/-- A desk to which no call has come yet. -/
def opened (clock : Int) (s : Shelf) : Desk := ⟨clock, s, []⟩

def step (f : Desk) : Move → Desk
  | .arrive c => { f with tasks := f.tasks ++ [⟨c, .begun⟩] }
  | .proceed i =>
    match f.tasks[i]? with
    | some ⟨c, p⟩ =>
      { f with
        shelf := (c.proceed f.clock f.shelf p).2
        tasks := f.tasks.set i ⟨c, (c.proceed f.clock f.shelf p).1⟩ }
    | none => f
  | .wait ms => { f with clock := f.clock + ms }

def after (f : Desk) (ms : List Move) : Desk :=
  ms.foldl step f

/-- A desk that moves lead to. -/
def Reached (f : Desk) : Prop :=
  ∃ clock s ms, f = (opened clock s).after ms

end Desk

/-! ## Deleting never fails -/

section Deleting

variable {now : Int} {t : String} {e : Email} {c : Challenge}

/-- A key that is there can be deleted. -/
lemma Keyed.delete?_eq {κ α : Type} [DecidableEq κ] {k : κ} {m : Keyed κ α} {v : α}
    (there : find? k m = some v) : delete? k m = some (drop k m) := by
  rw [delete?, there, Option.map_some]

/-- The sweep of a question about a ban never misses its key. -/
lemma Register.sweep?_eq (r : Register) (now : Int) (t : String) :
    r.sweep? now t = some (r.sweep now t) := by
  rw [sweep?, sweep]
  cases there : Keyed.find? t r.ends with
  | none =>
    rw [Option.getD_none, if_neg]
    rw [Deadline.hasCome, decide_eq_true_eq]
    exact Int.not_le.2 (Int.lt_add_of_pos_right now (by decide))
  | some d =>
    rw [Option.getD_some]
    dsimp only
    split
    · rw [Keyed.delete?_eq there, Option.map_some]
    · rfl

namespace Book

variable (b : Book)

/-- A challenge that is there can be deleted. -/
lemma delete?_eq {p : Pending} (there : Keyed.find? e b.pending = some p) :
    b.delete? e = some (b.consume e) := by
  rw [delete?, Keyed.delete?_eq there, Option.map_some, consume]

/-- The sweep of a question about a challenge never misses its key. -/
lemma sweep?_eq (now : Int) (e : Email) : b.sweep? now e = some (b.sweep now e) := by
  rw [sweep?, sweep]
  cases there : Keyed.find? e b.pending with
  | none => rfl
  | some p =>
    dsimp only
    split
    · exact b.delete?_eq there
    · rfl

/-- Taking a challenge never misses its key. -/
lemma take?_eq (now : Int) (e : Email) (c : Challenge) :
    b.take? now e c = some (b.take now e c) := by
  rw [take?, take]
  cases there : Keyed.find? e b.pending with
  | none => rfl
  | some p =>
    dsimp only
    rw [b.delete?_eq there]
    split
    · rfl
    · split
      · rfl
      · rfl

end Book

end Deleting

/-! ## What the stores keep -/

/-- A ban stays, or is of the same token and only moved to a later end. -/
lemma Register.ban_keeps {r : Register} {t : String} {d : Deadline}
    (there : Keyed.find? t r.ends = some d) (u : String) (d' : Deadline) :
    Keyed.find? t (r.ban u d').ends = some d ∨
      u = t ∧ ∃ d'', Keyed.find? t (r.ban u d').ends = some d'' ∧ d.ends ≤ d''.ends := by
  rw [ban, Keyed.find?_put]
  by_cases same : u = t
  · subst same
    rw [if_pos rfl, there, Option.getD_some]
    exact .inr ⟨rfl, _, rfl, Int.le_max_right ..⟩
  · rw [if_neg same]
    exact .inl there

/-- A sweep keeps every ban that has not ended. -/
lemma Register.sweep_keeps {r : Register} {t : String} {d : Deadline}
    (there : Keyed.find? t r.ends = some d) (now : Int) (u : String) :
    Keyed.find? t (r.sweep now u).ends = some d ∨ d.ends ≤ now := by
  rw [sweep]
  split
  · next d' found =>
    split
    · next come =>
      rw [Keyed.find?_drop]
      by_cases same : u = t
      · subst same
        cases there.symm.trans found
        exact .inr (of_decide_eq_true come)
      · rw [if_neg same]
        exact .inl there
    · exact .inl there
  · exact .inl there

namespace Book

variable {b : Book} {e : Email} {x : Pending}

/-- Consuming a challenge keeps those of other addresses. -/
lemma consume_keeps (there : Keyed.find? e b.pending = some x) (f : Email) :
    Keyed.find? e (b.consume f).pending = some x ∨ f = e := by
  rw [consume, Keyed.find?_drop]
  by_cases same : f = e
  · exact .inr same
  · rw [if_neg same]
    exact .inl there

/-- Issuing a challenge keeps those of other addresses. -/
lemma issue_keeps (there : Keyed.find? e b.pending = some x) (now : Int) (f : Email)
    (c : Challenge) : Keyed.find? e (b.issue now f c).pending = some x ∨ f = e := by
  rw [issue, Keyed.find?_put]
  by_cases same : f = e
  · exact .inr same
  · rw [if_neg same]
    exact .inl there

/-- A sweep keeps every challenge that has not ended. -/
lemma sweep_keeps (there : Keyed.find? e b.pending = some x) (now : Int) (f : Email) :
    Keyed.find? e (b.sweep now f).pending = some x ∨ x.deadline.ends ≤ now := by
  rw [sweep]
  split
  · next p found =>
    split
    · next come =>
      obtain kept | rfl := consume_keeps there f
      · exact .inl kept
      · cases there.symm.trans found
        exact .inr (of_decide_eq_true come)
    · exact .inl there
  · exact .inl there

/-- Taking a challenge keeps the others and those that have not ended. -/
lemma take_keeps (there : Keyed.find? e b.pending = some x) (now : Int) (f : Email)
    (c : Challenge) : Keyed.find? e (b.take now f c).2.pending = some x ∨
      x.deadline.ends ≤ now ∨ f = e ∧ c = x.challenge := by
  rw [take]
  split
  · exact .inl there
  · next p found =>
    split
    · next come =>
      obtain kept | rfl := consume_keeps there f
      · exact .inl kept
      · cases there.symm.trans found
        exact .inr (.inl (of_decide_eq_true come))
    · split
      · next same =>
        obtain kept | rfl := consume_keeps there f
        · exact .inl kept
        · cases there.symm.trans found
          exact .inr (.inr ⟨rfl, same.symm⟩)
      · exact .inl there

end Book

/-! ## One step of a call -/

/-- A reading of the clock is not ahead of it, and no deletion has failed. -/
def Phase.Timely (clock : Int) : Phase → Prop
  | begun => True
  | timed now | expired now => now ≤ clock
  | ended o => o ≠ .missingKey

/-- A reading of the clock stays behind it. -/
lemma Phase.Timely.mono {clock clock' : Int} {p : Phase} (h : p.Timely clock)
    (le : clock ≤ clock') : p.Timely clock' := by
  cases p with
  | begun => exact h
  | timed now => exact Int.le_trans h le
  | expired now => exact Int.le_trans h le
  | ended o => exact h

/-- A call that bans a token. -/
def StoreCall.Renews (t : String) : StoreCall → Prop
  | revoke u _ => u = t
  | contains _ | issue _ _ | consume _ | peek _ | take _ _ => False

/-- A call that removes a challenge of an address or puts another in its place. -/
def StoreCall.Replaces (e : Email) (c : Challenge) : StoreCall → Prop
  | issue f _ => f = e
  | consume f => f = e
  | take f d => f = e ∧ d = c
  | revoke _ _ | contains _ | peek _ => False

namespace StoreCall

variable {clock : Int} {s : Shelf} {p : Phase}

/-- A call that has ended does nothing more. -/
lemma proceed_ended (q : StoreCall) (o : Outcome) :
    q.proceed clock s (.ended o) = (.ended o, s) := by
  cases q with
  | revoke t length => rfl
  | contains t => rfl
  | issue e c => rfl
  | consume e => rfl
  | peek e => rfl
  | take e c => rfl

/-- A question that found its ban over sweeps it and denies it. -/
lemma proceed_contains_expired (t : String) (now : Int) :
    (contains t).proceed clock s (.expired now) =
      (.ended (.told false), { s with bans := s.bans.sweep now t }) := by
  rw [proceed, Register.sweep?_eq]

/-- A question that found its challenge over sweeps it and tells of none. -/
lemma proceed_peek_expired (e : Email) (now : Int) :
    (peek e).proceed clock s (.expired now) =
      (.ended .noChallenge, { s with book := s.book.sweep now e }) := by
  rw [proceed, Book.sweep?_eq]

/-- With a reading of the clock, a question about a ban compares the deadline that it finds. -/
lemma proceed_contains_timed {t : String} {d : Deadline} (now : Int)
    (there : Keyed.find? t s.bans.ends = some d) :
    (contains t).proceed clock s (.timed now) =
      (if d.hasCome now then .expired now else .ended (.told true), s) := by
  simp [there]

/-- With a reading of the clock, a question about a challenge compares the deadline that it finds.
-/
lemma proceed_peek_timed {e : Email} {x : Pending} (now : Int)
    (there : Keyed.find? e s.book.pending = some x) :
    (peek e).proceed clock s (.timed now) =
      (if x.deadline.hasCome now then .expired now else .ended (.found x.challenge), s) := by
  simp [there]

/-- With a reading of the clock, taking a challenge is one step. -/
lemma proceed_take_timed (e : Email) (c : Challenge) (now : Int) :
    (take e c).proceed clock s (.timed now) =
      (.ended (.told (s.book.take now e c).1), { s with book := (s.book.take now e c).2 }) := by
  rw [proceed, Book.take?_eq]

/-- What a step does to the bans: nothing, unless a token is banned or its old ban is dropped. -/
lemma bans_inv (clock : Int) (s : Shelf) (q : StoreCall) (p : Phase) :
    (q.proceed clock s p).2.bans = s.bans ∨
      (∃ t length now, q = revoke t length ∧ p = .timed now ∧
        (q.proceed clock s p).2.bans = s.bans.revoke now t length) ∨
      (∃ t now, q = contains t ∧ p = .expired now ∧
        (q.proceed clock s p).2.bans = s.bans.sweep now t) := by
  cases q with
  | revoke t length =>
    cases p with
    | timed now => exact .inr (.inl ⟨t, length, now, rfl, rfl, rfl⟩)
    | begun | expired _ | ended _ => exact .inl rfl
  | contains t =>
    cases p with
    | expired now =>
      refine .inr (.inr ⟨t, now, rfl, rfl, ?_⟩)
      rw [proceed_contains_expired]
    | timed now =>
      rw [proceed]
      split
      · exact .inl rfl
      · exact .inl rfl
    | begun | ended _ => exact .inl rfl
  | peek e =>
    cases p with
    | expired now =>
      rw [proceed_peek_expired]
      exact .inl rfl
    | timed now =>
      rw [proceed]
      split
      · exact .inl rfl
      · exact .inl rfl
    | begun | ended _ => exact .inl rfl
  | take e c =>
    cases p with
    | timed now =>
      rw [proceed_take_timed]
      exact .inl rfl
    | begun | expired _ | ended _ => exact .inl rfl
  | issue e c =>
    cases p with
    | begun | timed _ | expired _ | ended _ => exact .inl rfl
  | consume e =>
    cases p with
    | begun | timed _ | expired _ | ended _ => exact .inl rfl

/-- What a step does to the challenges: nothing, unless one is issued, consumed or taken, or an old
one is dropped. -/
lemma book_inv (clock : Int) (s : Shelf) (q : StoreCall) (p : Phase) :
    (q.proceed clock s p).2.book = s.book ∨
      (∃ e c now, q = issue e c ∧ p = .timed now ∧
        (q.proceed clock s p).2.book = s.book.issue now e c) ∨
      (∃ e, q = consume e ∧ p = .begun ∧ (q.proceed clock s p).2.book = s.book.consume e) ∨
      (∃ e c now, q = take e c ∧ p = .timed now ∧
        (q.proceed clock s p).2.book = (s.book.take now e c).2) ∨
      (∃ e now, q = peek e ∧ p = .expired now ∧
        (q.proceed clock s p).2.book = s.book.sweep now e) := by
  cases q with
  | issue e c =>
    cases p with
    | timed now => exact .inr (.inl ⟨e, c, now, rfl, rfl, rfl⟩)
    | begun | expired _ | ended _ => exact .inl rfl
  | consume e =>
    cases p with
    | begun => exact .inr (.inr (.inl ⟨e, rfl, rfl, rfl⟩))
    | timed _ | expired _ | ended _ => exact .inl rfl
  | take e c =>
    cases p with
    | timed now =>
      refine .inr (.inr (.inr (.inl ⟨e, c, now, rfl, rfl, ?_⟩)))
      rw [proceed_take_timed]
    | begun | expired _ | ended _ => exact .inl rfl
  | peek e =>
    cases p with
    | expired now =>
      refine .inr (.inr (.inr (.inr ⟨e, now, rfl, rfl, ?_⟩)))
      rw [proceed_peek_expired]
    | timed now =>
      rw [proceed]
      split
      · exact .inl rfl
      · exact .inl rfl
    | begun | ended _ => exact .inl rfl
  | contains t =>
    cases p with
    | expired now =>
      rw [proceed_contains_expired]
      exact .inl rfl
    | timed now =>
      rw [proceed]
      split
      · exact .inl rfl
      · exact .inl rfl
    | begun | ended _ => exact .inl rfl
  | revoke t length =>
    cases p with
    | begun | timed _ | expired _ | ended _ => exact .inl rfl

/-- A step reads the clock as it stands, and deletes nothing that is not there. -/
lemma timely_proceed (timely : p.Timely clock) (s : Shelf) (q : StoreCall) :
    (q.proceed clock s p).1.Timely clock := by
  cases p with
  | ended o =>
    rw [proceed_ended]
    exact timely
  | begun =>
    cases q with
    | contains t | peek e | take e c => exact Int.le_refl clock
    | consume e => exact nofun
    | revoke t length =>
      rw [proceed]
      split
      · exact Int.le_refl clock
      · exact nofun
    | issue e c =>
      rw [proceed]
      split
      · exact Int.le_refl clock
      · exact nofun
  | timed now =>
    cases q with
    | revoke t length | issue e c => exact nofun
    | consume e => exact timely
    | take e c =>
      rw [proceed_take_timed]
      exact nofun
    | contains t =>
      rw [proceed]
      split
      · exact nofun
      · split
        · exact timely
        · exact nofun
    | peek e =>
      rw [proceed]
      split
      · exact nofun
      · split
        · exact timely
        · exact nofun
  | expired now =>
    cases q with
    | contains t =>
      rw [proceed_contains_expired]
      exact nofun
    | peek e =>
      rw [proceed_peek_expired]
      exact nofun
    | revoke t length | issue e c | consume e | take e c => exact timely

/-- A step drops a ban only if its end has come; a ban that it renews ends no earlier. -/
lemma ban_kept (timely : p.Timely clock) (q : StoreCall) {t : String} {d : Deadline}
    (there : Keyed.find? t s.bans.ends = some d) :
    Keyed.find? t (q.proceed clock s p).2.bans.ends = some d ∨ d.ends ≤ clock ∨ q.Renews t ∧
      ∃ d', Keyed.find? t (q.proceed clock s p).2.bans.ends = some d' ∧ d.ends ≤ d'.ends := by
  obtain same | ⟨u, length, now, rfl, rfl, entered⟩ | ⟨u, now, rfl, rfl, swept⟩ :=
    bans_inv clock s q p
  · rw [same]
    exact .inl there
  · rw [entered]
    obtain kept | renewed := Register.ban_keeps there u _
    · exact .inl kept
    · exact .inr (.inr renewed)
  · rw [swept]
    obtain kept | past := Register.sweep_keeps there now u
    · exact .inl kept
    · exact .inr (.inl (Int.le_trans past timely))

/-- A step removes a challenge only if its end has come or the call is meant to replace it. -/
lemma pending_kept (timely : p.Timely clock) (q : StoreCall) {e : Email} {x : Pending}
    (there : Keyed.find? e s.book.pending = some x) :
    Keyed.find? e (q.proceed clock s p).2.book.pending = some x ∨ x.deadline.ends ≤ clock ∨
      q.Replaces e x.challenge := by
  obtain same | ⟨f, c, now, rfl, rfl, issued⟩ | ⟨f, rfl, rfl, consumed⟩ |
    ⟨f, c, now, rfl, rfl, taken⟩ | ⟨f, now, rfl, rfl, swept⟩ := book_inv clock s q p
  · rw [same]
    exact .inl there
  · rw [issued]
    obtain kept | same := Book.issue_keeps there now f c
    · exact .inl kept
    · exact .inr (.inr same)
  · rw [consumed]
    obtain kept | same := Book.consume_keeps there f
    · exact .inl kept
    · exact .inr (.inr same)
  · rw [taken]
    obtain kept | past | same := Book.take_keeps there now f c
    · exact .inl kept
    · exact .inr (.inl (Int.le_trans past timely))
    · exact .inr (.inr same)
  · rw [swept]
    obtain kept | past := Book.sweep_keeps there now f
    · exact .inl kept
    · exact .inr (.inl (Int.le_trans past timely))

end StoreCall

/-! ## One move -/

namespace Desk

variable {f : Desk}

/-- A step of a call does to the shelf what the call does, and moves the call on. -/
lemma step_proceed {i : Nat} {x : Task} (there : f.tasks[i]? = some x) : f.step (.proceed i) =
    { f with
      shelf := (x.call.proceed f.clock f.shelf x.phase).2
      tasks := f.tasks.set i ⟨x.call, (x.call.proceed f.clock f.shelf x.phase).1⟩ } := by
  simp only [step, there]

/-- A call comes in, or one does what is next for it, or the clock moves on, or there is nothing to
do. -/
lemma step_inv (f : Desk) (m : Move) :
    (∃ c, m = .arrive c ∧ f.step m = { f with tasks := f.tasks ++ [⟨c, .begun⟩] }) ∨
      (∃ i x, m = .proceed i ∧ f.tasks[i]? = some x ∧ f.step m =
        { f with
          shelf := (x.call.proceed f.clock f.shelf x.phase).2
          tasks := f.tasks.set i ⟨x.call, (x.call.proceed f.clock f.shelf x.phase).1⟩ }) ∨
      (∃ n : Nat, m = .wait n ∧ f.step m = { f with clock := f.clock + n }) ∨
      f.step m = f := by
  cases m with
  | arrive c => exact .inl ⟨c, rfl, rfl⟩
  | wait n => exact .inr (.inr (.inl ⟨n, rfl, rfl⟩))
  | proceed i =>
    cases there : f.tasks[i]? with
    | none => exact .inr (.inr (.inr (by simp only [step, there])))
    | some x => exact .inr (.inl ⟨i, x, rfl, there, step_proceed there⟩)

/-- Every call has read the clock as it stood, and none has failed on a missing key. -/
def Timely (f : Desk) : Prop := ∀ x ∈ f.tasks, x.phase.Timely f.clock

/-- No move makes a reading run ahead or a deletion fail. -/
lemma Timely.step (timely : f.Timely) (m : Move) : (f.step m).Timely := by
  obtain ⟨c, rfl, moved⟩ | ⟨i, x, rfl, there, moved⟩ | ⟨n, rfl, moved⟩ | moved := f.step_inv m
  · rw [moved]
    intro y mem
    obtain old | new := List.mem_append.1 mem
    · exact timely y old
    · rw [List.mem_singleton.1 new]
      trivial
  · rw [moved]
    intro y mem
    obtain old | rfl := List.mem_or_eq_of_mem_set mem
    · exact timely y old
    · exact StoreCall.timely_proceed (timely x (List.mem_of_getElem? there)) f.shelf x.call
  · rw [moved]
    intro y mem
    exact (timely y mem).mono (Int.le_add_of_nonneg_right (Int.natCast_nonneg n))
  · rw [moved]
    exact timely

/-- No moves make a reading run ahead or a deletion fail. -/
lemma Timely.after (timely : f.Timely) (ms : List Move) : (f.after ms).Timely := by
  induction ms generalizing f with
  | nil => exact timely
  | cons m ms ih => exact ih (timely.step m)

/-- Wherever a desk has come to, readings are behind the clock and no deletion has failed. -/
lemma Reached.timely (reached : f.Reached) : f.Timely := by
  obtain ⟨clock, s, ms, rfl⟩ := reached
  have start : (opened clock s).Timely := fun x mem => nomatch mem
  exact start.after ms

/-- The clock does not go back. -/
lemma clock_le_step (f : Desk) (m : Move) : f.clock ≤ (f.step m).clock := by
  obtain ⟨c, rfl, moved⟩ | ⟨i, x, rfl, there, moved⟩ | ⟨n, rfl, moved⟩ | moved := f.step_inv m
  · exact Int.le_of_eq (by rw [moved])
  · exact Int.le_of_eq (by rw [moved])
  · rw [moved]
    exact Int.le_add_of_nonneg_right (Int.natCast_nonneg n)
  · exact Int.le_of_eq (by rw [moved])

end Desk

/-! ## What a store promises until a deadline -/

/-- Something that a store holds until a deadline, and the answer that a question has by it. Some
calls break the promise. -/
structure Promise where
  ends : Int
  holds : Shelf → Prop
  question : StoreCall
  answer : Outcome
  breaks : StoreCall → Prop

namespace Promise

/-- Where the question may stand while the promise is kept. -/
def Awaits (m : Promise) (p : Phase) : Prop :=
  p = .begun ∨ (∃ now, p = .timed now) ∨ p = .ended m.answer

/-- Before the deadline a promise is kept by every step of a call that does not break it, and the
question comes to its answer. -/
structure Sound (m : Promise) : Prop where
  kept {clock : Int} {s : Shelf} {q : StoreCall} {p : Phase} (early : clock < m.ends)
    (holds : m.holds s) (timely : p.Timely clock) (other : ¬ m.breaks q) :
    m.holds (q.proceed clock s p).2
  answered {clock : Int} {s : Shelf} {p : Phase} (early : clock < m.ends) (holds : m.holds s)
    (timely : p.Timely clock) (awaits : m.Awaits p) :
    m.Awaits (m.question.proceed clock s p).1

/-- The deadline has come, or the promise is kept: what breaks it is over, and the questions from
the `n`-th call on come to the answer. -/
def Stands (m : Promise) (n : Nat) (f : Desk) : Prop :=
  f.clock < m.ends → m.holds f.shelf ∧
    (∀ x ∈ f.tasks, m.breaks x.call → ∃ o, x.phase = .ended o) ∧
    ∀ (j : Nat) x, n ≤ j → f.tasks[j]? = some x → x.call = m.question → m.Awaits x.phase

variable {m : Promise} {n : Nat} {f : Desk}

/-- A move that brings no breaking call keeps what stands of a promise. -/
lemma Sound.step (sound : m.Sound) (timely : f.Timely) (stands : m.Stands n f) {mv : Desk.Move}
    (calm : ∀ c, mv = .arrive c → ¬ m.breaks c) : m.Stands n (f.step mv) := by
  intro early
  obtain ⟨holds, quiet, asked⟩ := stands (Int.lt_of_le_of_lt (f.clock_le_step mv) early)
  obtain ⟨c, rfl, moved⟩ | ⟨i, x, rfl, there, moved⟩ | ⟨k, rfl, moved⟩ | moved := f.step_inv mv
  · rw [moved]
    refine ⟨holds, fun y mem broken => ?_, fun j y le found same => ?_⟩
    · obtain old | new := List.mem_append.1 mem
      · exact quiet y old broken
      · rw [List.mem_singleton.1 new] at broken
        exact absurd broken (calm c rfl)
    · rw [List.getElem?_append] at found
      split at found
      · exact asked j y le found same
      · rw [List.mem_singleton.1 (List.mem_of_getElem? found)]
        exact .inl rfl
  · have mem := List.mem_of_getElem? there
    rw [moved]
    by_cases broken : m.breaks x.call
    -- a call that breaks the promise is over and does nothing
    · obtain ⟨o, ended⟩ := quiet x mem broken
      obtain ⟨bound, here⟩ := List.getElem?_eq_some_iff.1 there
      rw [ended, StoreCall.proceed_ended, ← ended]
      dsimp only
      rw [← here, List.set_getElem_self]
      exact ⟨holds, quiet, asked⟩
    · rw [moved] at early
      refine ⟨sound.kept early holds (timely x mem) broken, fun y mem breaks => ?_,
        fun j y le found same => ?_⟩
      · obtain old | rfl := List.mem_or_eq_of_mem_set mem
        · exact quiet y old breaks
        · exact absurd breaks broken
      · rw [List.getElem?_set] at found
        split at found
        · next here =>
          subst here
          rw [if_pos (List.getElem?_eq_some_iff.1 there).1] at found
          cases found
          have awaits := asked i x le there same
          show m.Awaits (x.call.proceed f.clock f.shelf x.phase).1
          rw [show x.call = m.question from same]
          exact sound.answered early holds (timely x mem) awaits
        · exact asked j y le found same
  · rw [moved]
    exact ⟨holds, quiet, asked⟩
  · rw [moved]
    exact ⟨holds, quiet, asked⟩

/-- Moves that bring no breaking call keep what stands of a promise. -/
lemma Sound.after (sound : m.Sound) (timely : f.Timely) (stands : m.Stands n f)
    {ms : List Desk.Move} (calm : ∀ c, .arrive c ∈ ms → ¬ m.breaks c) :
    m.Stands n (f.after ms) := by
  induction ms generalizing f with
  | nil => exact stands
  | cons mv ms ih =>
    refine ih (timely.step mv) (sound.step timely stands fun c same => ?_) fun c mem => ?_
    · exact calm c (same ▸ List.mem_cons_self)
    · exact calm c (List.mem_cons_of_mem _ mem)

/-- What a move has made a promise of holds until the deadline, and a question that comes in after
it and is over by then has the answer. -/
lemma Sound.answer (sound : m.Sound) (timely : f.Timely) (holds : m.holds f.shelf)
    (quiet : ∀ x ∈ f.tasks, m.breaks x.call → ∃ o, x.phase = .ended o) {ms : List Desk.Move}
    (calm : ∀ c, .arrive c ∈ ms → ¬ m.breaks c) {j : Nat} {o : Outcome}
    (late : f.tasks.length ≤ j)
    (there : (f.after ms).tasks[j]? = some ⟨m.question, .ended o⟩)
    (early : (f.after ms).clock < m.ends) : o = m.answer := by
  have stands : m.Stands f.tasks.length f := by
    refine fun _ => ⟨holds, quiet, fun j x le found => ?_⟩
    rw [List.getElem?_eq_none le] at found
    cases found
  obtain ⟨_, _, asked⟩ := sound.after timely stands calm early
  obtain begun | ⟨now, timed⟩ | ended := asked j _ late there rfl
  · cases begun
  · cases timed
  · exact Phase.ended.inj ended

/-- Until a deadline a token's ban is there and ends no earlier. -/
def ban (t : String) (d : Deadline) : Promise where
  ends := d.ends
  holds s := ∃ d', Keyed.find? t s.bans.ends = some d' ∧ d.ends ≤ d'.ends
  question := .contains t
  answer := .told true
  breaks _ := False

/-- Until its deadline an address's challenge is there. -/
def challenge (e : Email) (c : Challenge) (d : Deadline) : Promise where
  ends := d.ends
  holds s := Keyed.find? e s.book.pending = some ⟨c, d⟩
  question := .peek e
  answer := .found c
  breaks q := q.Replaces e c

/-- A ban is promised until its deadline: the token is told to be banned. -/
lemma sound_ban (t : String) (d : Deadline) : (ban t d).Sound := by
  refine ⟨fun early holds timely _ => ?_, fun early holds timely awaits => ?_⟩
  · obtain ⟨d', there, le⟩ := holds
    obtain kept | past | ⟨_, d'', there', le'⟩ := StoreCall.ban_kept timely _ there
    · exact ⟨d', kept, le⟩
    · exact absurd (Int.le_trans le past) (Int.not_le.2 early)
    · exact ⟨d'', there', Int.le_trans le le'⟩
  · obtain ⟨d', there, le⟩ := holds
    obtain rfl | ⟨now, rfl⟩ | rfl := awaits
    · exact .inr (.inl ⟨_, rfl⟩)
    · have live : ¬ d'.hasCome now = true := fun come =>
        absurd (Int.le_trans le (Int.le_trans (of_decide_eq_true come) timely))
          (Int.not_le.2 early)
      show (ban t d).Awaits ((StoreCall.contains t).proceed _ _ _).1
      rw [StoreCall.proceed_contains_timed _ there, if_neg live]
      exact .inr (.inr rfl)
    · exact .inr (.inr rfl)

/-- A challenge is promised until its deadline: the address is told the challenge. -/
lemma sound_challenge (e : Email) (c : Challenge) (d : Deadline) : (challenge e c d).Sound := by
  refine ⟨fun early there timely other => ?_, fun early there timely awaits => ?_⟩
  · obtain kept | past | replaced := StoreCall.pending_kept timely _ there
    · exact kept
    · exact absurd past (Int.not_le.2 early)
    · exact absurd replaced other
  · obtain rfl | ⟨now, rfl⟩ | rfl := awaits
    · exact .inr (.inl ⟨_, rfl⟩)
    · have live : ¬ d.hasCome now = true := fun come =>
        absurd (Int.le_trans (of_decide_eq_true come) timely) (Int.not_le.2 early)
      show (challenge e c d).Awaits ((StoreCall.peek e).proceed _ _ _).1
      rw [StoreCall.proceed_peek_timed _ there, if_neg live]
      exact .inr (.inr rfl)
    · exact .inr (.inr rfl)

end Promise

/-! ## Calls that are not interrupted -/

/-- What is reported of a call that ended. -/
def Outcome.report : Outcome → Except Fault Outcome
  | overflow => .error .overflow
  | noChallenge => .error (.challenge .noChallenge)
  | o => .ok o

/-- Makes a call of the stores of a world. -/
def StoreCall.perform : StoreCall → Call Outcome
  | revoke t length => (fun _ => .done) <$> Bans.revoke t length
  | contains t => .told <$> Bans.contains t
  | issue e c => (fun _ => .done) <$> Challenges.issue e c
  | consume e => (fun _ => .done) <$> Challenges.consume e
  | peek e => .found <$> Challenges.peek e
  | take e c => .told <$> Challenges.take e c

/-- A world whose stores are in memory. -/
def World.stocked (w : World) (s : Shelf) : World :=
  { w with bans := .register s.bans, challenges := .book s.book }

/-- A call comes in and does all its steps, of which there are at most three. -/
def Desk.serve (f : Desk) (q : StoreCall) : Desk :=
  f.after [.arrive q, .proceed f.tasks.length, .proceed f.tasks.length, .proceed f.tasks.length]

section Alone

variable {f : Desk} {q : StoreCall} {i j k : Phase} {s₁ s₂ s₃ : Shelf}

/-- The call that arrived last is moved on by a step of its own. -/
lemma Desk.step_last (f : Desk) (s : Shelf) (q : StoreCall) (p : Phase) :
    ({ f with shelf := s, tasks := f.tasks ++ [⟨q, p⟩] } : Desk).step (.proceed f.tasks.length) =
      { f with
        shelf := (q.proceed f.clock s p).2
        tasks := f.tasks ++ [⟨q, (q.proceed f.clock s p).1⟩] } := by
  rw [step_proceed (x := ⟨q, p⟩) (by simp)]
  simp

/-- A call that is served alone takes its three steps. -/
lemma Desk.serve_eq (first : q.proceed f.clock f.shelf .begun = (i, s₁))
    (second : q.proceed f.clock s₁ i = (j, s₂)) (third : q.proceed f.clock s₂ j = (k, s₃)) :
    f.serve q = { f with shelf := s₃, tasks := f.tasks ++ [⟨q, k⟩] } := by
  rw [serve, after, List.foldl_cons, List.foldl_cons, List.foldl_cons, List.foldl_cons,
    List.foldl_nil, step, step_last, first, step_last, second, step_last, third]

/-- Asking for a challenge of the shelf is asking its book. -/
lemma World.peek_stocked {w : World} {s : Shelf} {e : Email} {x : Option Challenge} {b : Book}
    (told : s.book.peek w.uptime e = (x, b)) :
    Ends (Challenges.peek e) (w.stocked s)
      (x.elim (.error (Fault.challenge .noChallenge)) .ok) (w.stocked { s with book := b }) := by
  rw [Challenges.peek, Ends.get_bind]
  simp only [World.stocked, told]
  cases x with
  | none => rfl
  | some c => rfl

/-- A call whose steps follow one another comes to an outcome, and does what it does in the model of
the stores. -/
def Desk.ServesAlone (w : World) (xs : List Task) (s : Shelf) (q : StoreCall) : Prop :=
  ∃ o s', (⟨w.uptime, s, xs⟩ : Desk).serve q = ⟨w.uptime, s', xs ++ [⟨q, .ended o⟩]⟩ ∧
    Ends q.perform (w.stocked s) o.report (w.stocked s')

namespace Desk.ServesAlone

variable {w : World} {xs : List Task} {s : Shelf}

/-- A ban is entered, or its length is more than a clock can hold. -/
lemma revoke (t : String) (length : Seconds) : ServesAlone w xs s (.revoke t length) := by
  by_cases fits : length.atLeastOne.fits = true
  · refine ⟨.done, { s with bans := s.bans.revoke w.uptime t length },
      serve_eq (i := .timed w.uptime) ?_ rfl rfl, ?_⟩
    · rw [StoreCall.proceed, if_pos fits]
    · refine Ends.map _ (r := .ok ()) ?_
      rw [Bans.revoke, Ends.get_bind]
      simp only [World.stocked, if_pos fits]
      rfl
  · refine ⟨.overflow, s, serve_eq (i := .ended .overflow) ?_ rfl rfl, ?_⟩
    · rw [StoreCall.proceed, if_neg fits]
    · refine Ends.map _ (r := .error Fault.overflow) ?_
      rw [Bans.revoke, Ends.get_bind]
      simp only [World.stocked, if_neg fits]
      rfl

/-- A challenge is put into the book, or its lifetime is more than a clock can hold. -/
lemma issue (e : Email) (c : Challenge) : ServesAlone w xs s (.issue e c) := by
  by_cases fits : (Seconds.whole s.book.seconds).fits = true
  · refine ⟨.done, { s with book := s.book.issue w.uptime e c },
      serve_eq (i := .timed w.uptime) ?_ rfl rfl, ?_⟩
    · rw [StoreCall.proceed, if_pos fits]
    · refine Ends.map _ (r := .ok ()) ?_
      rw [Challenges.issue, Ends.get_bind]
      simp only [World.stocked, if_pos fits]
      rfl
  · refine ⟨.overflow, s, serve_eq (i := .ended .overflow) ?_ rfl rfl, ?_⟩
    · rw [StoreCall.proceed, if_neg fits]
    · refine Ends.map _ (r := .error Fault.overflow) ?_
      rw [Challenges.issue, Ends.get_bind]
      simp only [World.stocked, if_neg fits]
      rfl

/-- A question about a ban is answered by the register, which drops a ban that is over. -/
lemma contains (t : String) : ServesAlone w xs s (.contains t) := by
  refine ⟨.told (s.bans.contains w.uptime t).1,
    { s with bans := (s.bans.contains w.uptime t).2 }, ?_, rfl⟩
  rw [Register.contains]
  cases there : Keyed.find? t s.bans.ends with
  | none =>
    refine serve_eq rfl (j := .ended (.told false)) ?_ rfl
    rw [StoreCall.proceed, there]
  | some d =>
    dsimp only
    split
    · next come =>
      refine serve_eq rfl (j := .expired w.uptime) ?_ (StoreCall.proceed_contains_expired ..)
      rw [StoreCall.proceed_contains_timed _ there, if_pos come]
    · next live =>
      refine serve_eq rfl (j := .ended (.told true)) ?_ rfl
      rw [StoreCall.proceed_contains_timed _ there, if_neg live]

/-- A question about a challenge is answered by the book, which drops a challenge that is over. -/
lemma peek (e : Email) : ServesAlone w xs s (.peek e) := by
  cases there : Keyed.find? e s.book.pending with
  | none =>
    refine ⟨.noChallenge, s, serve_eq rfl (j := .ended .noChallenge) ?_ rfl,
      (World.peek_stocked (x := none) ?_).map _⟩
    · rw [StoreCall.proceed, there]
    · rw [Book.peek, there]
  | some p =>
    by_cases come : p.deadline.hasCome w.uptime = true
    · refine ⟨.noChallenge, _, serve_eq rfl (j := .expired w.uptime) ?_
        (StoreCall.proceed_peek_expired ..), (World.peek_stocked (x := none) ?_).map _⟩
      · rw [StoreCall.proceed_peek_timed _ there, if_pos come]
      · rw [Book.peek, there]
        dsimp only
        rw [if_pos come]
    · refine ⟨.found p.challenge, s, serve_eq rfl (j := .ended (.found p.challenge)) ?_ rfl,
        (World.peek_stocked (x := some p.challenge) ?_).map _⟩
      · rw [StoreCall.proceed_peek_timed _ there, if_neg come]
      · rw [Book.peek, there]
        dsimp only
        rw [if_neg come]

end Desk.ServesAlone

/-- A call whose steps follow one another does what it does in the model of the stores. -/
theorem Desk.serve_ends (w : World) (xs : List Task) (s : Shelf) (q : StoreCall) :
    ServesAlone w xs s q := by
  cases q with
  | revoke t length => exact .revoke t length
  | issue e c => exact .issue e c
  | consume e =>
    exact ⟨.done, { s with book := s.book.consume e }, serve_eq rfl rfl rfl, rfl⟩
  | take e c =>
    exact ⟨.told (s.book.take w.uptime e c).1, { s with book := (s.book.take w.uptime e c).2 },
      serve_eq rfl (StoreCall.proceed_take_timed ..) rfl, rfl⟩
  | contains t => exact .contains t
  | peek e => exact .peek e

end Alone

/-! ## Every schedule -/

namespace Desk

variable {f : Desk}

/-- What a move does to an entry: nothing, unless the deadline has come, or the call bans the token
and the ban ends no earlier, or the call is meant to replace the challenge. -/
def SparesLive (f : Desk) (m : Move) : Prop :=
  (∀ t d, Keyed.find? t f.shelf.bans.ends = some d →
    Keyed.find? t (f.step m).shelf.bans.ends = some d ∨ d.ends ≤ f.clock ∨
      ∃ i x, m = .proceed i ∧ f.tasks[i]? = some x ∧ x.call.Renews t ∧
        ∃ d', Keyed.find? t (f.step m).shelf.bans.ends = some d' ∧ d.ends ≤ d'.ends) ∧
  ∀ e y, Keyed.find? e f.shelf.book.pending = some y →
    Keyed.find? e (f.step m).shelf.book.pending = some y ∨ y.deadline.ends ≤ f.clock ∨
      ∃ i x, m = .proceed i ∧ f.tasks[i]? = some x ∧ x.call.Replaces e y.challenge

/-- Where readings are behind the clock, a move deletes nothing that is live. -/
lemma Timely.sparesLive (timely : f.Timely) (m : Move) : f.SparesLive m := by
  obtain ⟨c, rfl, moved⟩ | ⟨i, x, rfl, there, moved⟩ | ⟨n, rfl, moved⟩ | moved := f.step_inv m
  · rw [SparesLive, moved]
    exact ⟨fun _ _ found => .inl found, fun _ _ found => .inl found⟩
  · have timely := timely x (List.mem_of_getElem? there)
    rw [SparesLive, moved]
    refine ⟨fun t d found => ?_, fun e y found => ?_⟩
    · obtain kept | past | ⟨renews, later⟩ := StoreCall.ban_kept timely x.call found
      · exact .inl kept
      · exact .inr (.inl past)
      · exact .inr (.inr ⟨i, x, rfl, there, renews, later⟩)
    · obtain kept | past | replaced := StoreCall.pending_kept timely x.call found
      · exact .inl kept
      · exact .inr (.inl past)
      · exact .inr (.inr ⟨i, x, rfl, there, replaced⟩)
  · rw [SparesLive, moved]
    exact ⟨fun _ _ found => .inl found, fun _ _ found => .inl found⟩
  · rw [SparesLive, moved]
    exact ⟨fun _ _ found => .inl found, fun _ _ found => .inl found⟩

/-- A step of a call brings no other call. -/
lemma length_proceed (f : Desk) (i : Nat) :
    (f.step (.proceed i)).tasks.length = f.tasks.length := by
  rw [step]
  split
  · exact List.length_set
  · rfl

/-- However calls are interleaved, only entries that are over are dropped and no call fails on a
missing key; a token whose ban was entered is banned, and an address whose challenge was issued has
it, for every question that comes in later and is over before the deadline. -/
theorem expiry_spares_live (reached : f.Reached) :
    ((∀ m, f.SparesLive m) ∧ ∀ x ∈ f.tasks, x.phase ≠ .ended .missingKey) ∧
    (∀ i t length now, f.tasks[i]? = some ⟨.revoke t length, .timed now⟩ →
      ∀ ms j o, f.tasks.length ≤ j →
        ((f.step (.proceed i)).after ms).tasks[j]? = some ⟨.contains t, .ended o⟩ →
        ((f.step (.proceed i)).after ms).clock < (Register.endOf now length).ends →
        o = .told true) ∧
    ∀ i e c now, f.tasks[i]? = some ⟨.issue e c, .timed now⟩ →
      (∀ k x, k ≠ i → f.tasks[k]? = some x → x.call.Replaces e c → ∃ o, x.phase = .ended o) →
      ∀ ms j o, (∀ q, .arrive q ∈ ms → ¬ q.Replaces e c) → f.tasks.length ≤ j →
        ((f.step (.proceed i)).after ms).tasks[j]? = some ⟨.peek e, .ended o⟩ →
        ((f.step (.proceed i)).after ms).clock <
          (Deadline.after now (.whole f.shelf.book.seconds)).ends →
        o = .found c := by
  have timely := reached.timely
  refine ⟨⟨timely.sparesLive, fun x mem failed => ?_⟩,
    fun i t length now there ms j o late ended early => ?_,
    fun i e c now there alone ms j o calm late ended early => ?_⟩
  · have sound := timely x mem
    rw [failed] at sound
    exact sound rfl
  · have entered :
        (Promise.ban t (Register.endOf now length)).holds (f.step (.proceed i)).shelf := by
      rw [step_proceed there]
      exact ⟨_, Keyed.find?_put_self .., Int.le_max_left ..⟩
    rw [← f.length_proceed i] at late
    exact (Promise.sound_ban t _).answer (timely.step _) entered (fun _ _ => False.elim)
      (fun _ _ => not_false) late ended early
  · have issued : (Promise.challenge e c (.after now (.whole f.shelf.book.seconds))).holds
        (f.step (.proceed i)).shelf := by
      rw [step_proceed there]
      exact Keyed.find?_put_self ..
    have quiet : ∀ x ∈ (f.step (.proceed i)).tasks, x.call.Replaces e c →
        ∃ o, x.phase = .ended o := by
      rw [step_proceed there]
      intro x mem replaces
      obtain ⟨k, found⟩ := List.mem_iff_getElem?.1 mem
      rw [List.getElem?_set] at found
      split at found
      · next here =>
        subst here
        rw [if_pos (List.getElem?_eq_some_iff.1 there).1] at found
        cases found
        exact ⟨.done, rfl⟩
      · next other => exact alone k x (Ne.symm other) found replaces
    rw [← f.length_proceed i] at late
    exact (Promise.sound_challenge e c _).answer (timely.step _) issued quiet calm late ended early

/-- Questions have found an old ban and an old challenge, and have yet to drop them, when others are
about to be entered in their place. -/
def contested : Desk :=
  (opened 2000 ⟨⟨[("t", ⟨1000, 1000⟩)]⟩, ⟨600, [(.sample, ⟨⟨⟨1⟩, ⟨2⟩⟩, ⟨1000, 1000⟩⟩)]⟩⟩).after
    [.arrive (.contains "t"), .arrive (.peek .sample), .proceed 0, .proceed 1, .proceed 0,
      .proceed 1, .arrive (.revoke "t" (.whole 10)), .arrive (.issue .sample ⟨⟨3⟩, ⟨4⟩⟩),
      .proceed 2, .proceed 3]

/-- The desk after the ban has been entered and a new question has been answered at the last
millisecond of the ban. -/
def banned : Desk :=
  (contested.step (.proceed 2)).after
    [.proceed 0, .arrive (.contains "t"), .wait 9999, .proceed 4, .proceed 4]

/-- The desk after the challenge has been issued and a new question has been answered at its last
millisecond. -/
def challenged : Desk :=
  (contested.step (.proceed 3)).after
    [.proceed 1, .arrive (.peek .sample), .wait 599999, .proceed 4, .proceed 4]

/-- Four calls that read the clock before a ban and a challenge were renewed leave both to be found.
-/
theorem contested_spared : contested.Reached ∧
    contested.tasks.map (·.phase) = [.expired 2000, .expired 2000, .timed 2000, .timed 2000] ∧
    ((∃ o, banned.tasks[4]? = some ⟨.contains "t", .ended o⟩) ∧
      ∀ o, banned.tasks[4]? = some ⟨.contains "t", .ended o⟩ → o = .told true) ∧
    (∃ o, challenged.tasks[4]? = some ⟨.peek .sample, .ended o⟩) ∧
      ∀ o, challenged.tasks[4]? = some ⟨.peek .sample, .ended o⟩ → o = .found ⟨⟨3⟩, ⟨4⟩⟩ := by
  have reached : contested.Reached := ⟨_, _, _, rfl⟩
  obtain ⟨_, bans, challenges⟩ := expiry_spares_live reached
  refine ⟨reached, rfl, ⟨⟨_, rfl⟩, fun o there => ?_⟩, ⟨_, rfl⟩, fun o there => ?_⟩
  · exact bans 2 "t" (.whole 10) 2000 rfl _ 4 o (by decide) there (by decide)
  · refine challenges 3 .sample ⟨⟨3⟩, ⟨4⟩⟩ 2000 rfl (fun k x other found replaces => ?_) _ 4 o
      (fun q mem => ?_) (by decide) there (by decide)
    · obtain _ | _ | _ | _ | k := k
      · cases found
        exact replaces.elim
      · cases found
        exact replaces.elim
      · cases found
        exact replaces.elim
      · exact absurd rfl other
      · cases found
    · obtain rfl : q = .peek .sample := by simpa using mem
      exact id

end Desk

end SignIn
