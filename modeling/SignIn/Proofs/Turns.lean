import Mathlib.Data.List.Basic
import Mathlib.Data.List.Induction
import Mathlib.Data.List.Infix
import SignIn.Proofs.Calls

/-!
# Turns

What a store goes through: calls, and a clock that moves on between them. Each call is recorded with
its instant and its answer. The records are the history, and what a store promises is said in terms
of its history. What holds at the start and is kept by every turn holds of the world and the history
that any turns lead to.
-/

namespace SignIn

/-- A call of a store, or a time in which nothing is called. -/
inductive Turn (κ : Type)
  | call (c : κ)
  | wait (ms : Nat)
  deriving DecidableEq

/-- A call that was made, when it was made, and how it ended. -/
structure Record (κ ρ : Type) where
  call : κ
  instant : Int
  answer : Except Fault ρ

abbrev History (κ ρ : Type) := List (Record κ ρ)

/-- Where turns have led to. -/
structure Play (κ ρ : Type) where
  world : World
  history : History κ ρ

variable {κ ρ : Type}

namespace Turn

/-- The calls among turns, each with its instant, if the clock shows `now` before the first. -/
def calls (now : Int) : List (Turn κ) → List (κ × Int)
  | [] => []
  | call c :: rest => (c, now) :: calls now rest
  | wait ms :: rest => calls (now + ms) rest

/-- What the clock shows after turns. -/
def clock (now : Int) : List (Turn κ) → Int
  | [] => now
  | call _ :: rest => clock now rest
  | wait ms :: rest => clock (now + ms) rest

/-- The turns without the calls that are not of some kind. -/
def only (kind : κ → Bool) : List (Turn κ) → List (Turn κ)
  | [] => []
  | call c :: rest => if kind c then call c :: only kind rest else only kind rest
  | wait ms :: rest => wait ms :: only kind rest

/-- The calls of turns one after the other are those of the first and those of the second. -/
lemma calls_append (now : Int) (turns more : List (Turn κ)) :
    calls now (turns ++ more) = calls now turns ++ calls (clock now turns) more := by
  induction turns generalizing now with
  | nil => rfl
  | cons turn rest ih =>
    cases turn with
    | call c => exact congrArg ((c, now) :: ·) (ih now)
    | wait ms => exact ih (now + ms)

/-- The time of turns one after the other is that of both. -/
lemma clock_append (now : Int) (turns more : List (Turn κ)) :
    clock now (turns ++ more) = clock (clock now turns) more := by
  induction turns generalizing now with
  | nil => rfl
  | cons turn rest ih =>
    cases turn with
    | call c => exact ih now
    | wait ms => exact ih (now + ms)

/-- A call among turns is the last turn or among those before it. -/
lemma call_prefix_snoc {before turns : List (Turn κ)} {c : κ} {turn : Turn κ} :
    before ++ [call c] <+: turns ++ [turn] ↔
      before = turns ∧ call c = turn ∨ before ++ [call c] <+: turns := by
  rw [List.prefix_concat_iff]
  refine or_congr_left ⟨fun same => ?_, ?_⟩
  · obtain ⟨rfl, last⟩ := List.append_inj' same rfl
    exact ⟨rfl, (List.cons.inj last).1⟩
  · rintro ⟨rfl, rfl⟩
    rfl

/-- Leaving calls out takes no less time. -/
lemma clock_only (kind : κ → Bool) (now : Int) (turns : List (Turn κ)) :
    clock now (only kind turns) = clock now turns := by
  induction turns generalizing now with
  | nil => rfl
  | cons turn rest ih =>
    cases turn with
    | call c =>
      rw [only]
      split
      · exact ih now
      · exact ih now
    | wait ms => exact ih (now + ms)

/-- Leaving calls out leaves the others at their instants. -/
lemma calls_only (kind : κ → Bool) (now : Int) (turns : List (Turn κ)) :
    calls now (only kind turns) = (calls now turns).filter fun c => kind c.1 := by
  induction turns generalizing now with
  | nil => rfl
  | cons turn rest ih =>
    cases turn with
    | call c =>
      rw [only, calls, List.filter_cons]
      dsimp only
      by_cases counts : kind c = true
      · rw [if_pos counts, if_pos counts]
        exact congrArg ((c, now) :: ·) (ih now)
      · rw [if_neg counts, if_neg counts]
        exact ih now
    | wait ms => exact ih (now + ms)

end Turn

/-! ## What is in force -/

section InForce

variable {α : Type} {starts starts' ends : α → Prop} {h : List α} {x : α}

/-- Some entry starts it, and no later entry ends it. -/
def InForce (starts ends : α → Prop) (h : List α) : Prop :=
  ∃ before x after, h = before ++ x :: after ∧ starts x ∧ ∀ y ∈ after, ¬ ends y

/-- Nothing is in force where nothing has happened. -/
lemma not_inForce_nil : ¬ InForce starts ends ([] : List α) := by
  rintro ⟨before, x, after, split, _⟩
  exact absurd split.symm (List.append_ne_nil_of_right_ne_nil before (List.cons_ne_nil x after))

/-- The last entry starts it, or it was in force and the last entry does not end it. -/
lemma inForce_snoc :
    InForce starts ends (h ++ [x]) ↔ starts x ∨ InForce starts ends h ∧ ¬ ends x := by
  constructor
  · rintro ⟨before, y, after, split, started, lasting⟩
    -- the entry that starts it is the last one if nothing comes after it
    obtain rfl | ⟨after, z, rfl⟩ := List.eq_nil_or_concat' after
    · obtain ⟨_, same⟩ := List.append_inj' split rfl
      obtain rfl := (List.cons.inj same).1
      exact .inl started
    · rw [← List.cons_append, ← List.append_assoc] at split
      obtain ⟨rfl, same⟩ := List.append_inj' split rfl
      obtain rfl := (List.cons.inj same).1
      refine .inr ⟨⟨before, y, after, rfl, started, fun u mem => ?_⟩, ?_⟩
      · exact lasting u (List.mem_append_left _ mem)
      · exact lasting x (List.mem_append_right _ List.mem_cons_self)
  · rintro (started | ⟨⟨before, y, after, rfl, started, lasting⟩, unended⟩)
    · exact ⟨h, x, [], rfl, started, nofun⟩
    · refine ⟨before, y, after ++ [x], by simp only [List.append_assoc, List.cons_append], started,
        fun u mem => ?_⟩
      obtain old | new := List.mem_append.1 mem
      · exact lasting u old
      · rw [List.mem_singleton.1 new]
        exact unended

/-- Of two that are in force and are ended by what starts the other, one entry starts both. -/
lemma InForce.unique (ends_of : ∀ x, starts x → ends x) (ends_of' : ∀ x, starts' x → ends x)
    (lasts : InForce starts ends h) (lasts' : InForce starts' ends h) :
    ∃ x ∈ h, starts x ∧ starts' x := by
  induction h using List.reverseRecOn with
  | nil => exact absurd lasts not_inForce_nil
  | append_singleton h x ih =>
    obtain started | ⟨lasts, unended⟩ := inForce_snoc.1 lasts
    · obtain started' | ⟨_, unended⟩ := inForce_snoc.1 lasts'
      · exact ⟨x, List.mem_append_right _ List.mem_cons_self, started, started'⟩
      · exact absurd (ends_of x started) unended
    · obtain started' | ⟨lasts', _⟩ := inForce_snoc.1 lasts'
      · exact absurd (ends_of' x started') unended
      · obtain ⟨y, mem, both⟩ := ih lasts lasts'
        exact ⟨y, List.mem_append_left _ mem, both⟩

end InForce

/-! ## Plays -/

section Play

variable (perform : κ → Call ρ)

def Play.turn (p : Play κ ρ) : Turn κ → Play κ ρ
  | .call c =>
    let (r, v) := (perform c).run p.world
    ⟨v, p.history ++ [⟨c, p.world.uptime, r⟩]⟩
  | .wait ms => ⟨p.world.advance 0 ms, p.history⟩

/-- Where turns lead from a world. -/
def World.play (w : World) (turns : List (Turn κ)) : Play κ ρ :=
  turns.foldl (Play.turn perform) ⟨w, []⟩

variable {perform} {w : World}

/-- One more turn is taken where the turns before it led. -/
lemma World.play_snoc (turns : List (Turn κ)) (turn : Turn κ) :
    w.play perform (turns ++ [turn]) = (w.play perform turns).turn perform turn :=
  List.foldl_append ..

/-- One more call is recorded with the instant and the answer that it had. -/
lemma World.play_snoc_call {turns : List (Turn κ)} {c : κ} {r : Except Fault ρ} {v : World}
    (h : Ends (perform c) (w.play perform turns).world r v) :
    w.play perform (turns ++ [.call c]) =
      ⟨v, (w.play perform turns).history ++ [⟨c, (w.play perform turns).world.uptime, r⟩]⟩ := by
  rw [play_snoc, Play.turn, show (perform c).run (w.play perform turns).world = (r, v) from h]

/-- What holds at the start and is kept by every turn holds after any turns. -/
theorem World.play_induction {P : Play κ ρ → Prop} (start : P ⟨w, []⟩)
    (call : ∀ p, P p → ∀ c r v, Ends (perform c) p.world r v →
      P ⟨v, p.history ++ [⟨c, p.world.uptime, r⟩]⟩)
    (wait : ∀ p, P p → ∀ ms : Nat, P ⟨p.world.advance 0 ms, p.history⟩)
    (turns : List (Turn κ)) : P (w.play perform turns) := by
  induction turns using List.reverseRecOn with
  | nil => exact start
  | append_singleton turns turn ih =>
    cases turn with
    | call c =>
      obtain ⟨r, v, run⟩ := Ends.total (perform c) (w.play perform turns).world
      rw [play_snoc_call run]
      exact call _ ih c r v run
    | wait ms =>
      rw [play_snoc]
      exact wait _ ih ms

/-- More turns add to a history. -/
lemma World.history_play_append (turns more : List (Turn κ)) :
    (w.play perform turns).history <+: (w.play perform (turns ++ more)).history := by
  induction more using List.reverseRecOn with
  | nil => rw [List.append_nil]
  | append_singleton more turn ih =>
    rw [← List.append_assoc, play_snoc]
    cases turn with
    | call c => exact ih.trans (List.prefix_append ..)
    | wait ms => exact ih

/-- No call takes time. -/
def Prompt (perform : κ → Call ρ) : Prop :=
  ∀ c w r v, Ends (perform c) w r v → v.uptime = w.uptime

/-- If no call takes time, a history holds the calls of the turns at their instants. -/
lemma World.calls_play (prompt : Prompt perform) (turns : List (Turn κ)) :
    (w.play perform turns).history.map (fun x => (x.call, x.instant)) =
        Turn.calls w.uptime turns ∧
      (w.play perform turns).world.uptime = Turn.clock w.uptime turns := by
  induction turns using List.reverseRecOn with
  | nil => exact ⟨rfl, rfl⟩
  | append_singleton turns turn ih =>
    obtain ⟨calls, clock⟩ := ih
    rw [Turn.calls_append, Turn.clock_append]
    cases turn with
    | call c =>
      obtain ⟨r, v, run⟩ := Ends.total (perform c) (w.play perform turns).world
      rw [play_snoc_call run, List.map_append, calls, clock]
      exact ⟨rfl, (prompt c _ r v run).trans clock⟩
    | wait ms =>
      rw [play_snoc]
      refine ⟨calls.trans (List.append_nil _).symm, ?_⟩
      show (w.play perform turns).world.uptime + ms = Turn.clock w.uptime turns + ms
      rw [clock]

end Play

end SignIn
