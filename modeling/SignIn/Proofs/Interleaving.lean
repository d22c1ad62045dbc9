import SignIn.Proofs.Stages

/-!
# Interleaved requests

A hall is a world with the requests that have come in. Requests proceed by one stage at a time and
in any order, and between two stages of one of them anything may happen: other requests come in and
proceed, the clocks move, collaborators go out of order. `Hall.step_inv` says all that a move can
do; what holds of every hall that moves lead to is an induction over the moves.
-/

namespace SignIn

open World

/-- A request that has come in, and where it stands. -/
structure Visit where
  request : Request
  progress : Progress

/-- The world and the requests that have come in, in the order of their coming. -/
structure Hall where
  world : World
  visits : List Visit

inductive Move
  | arrive (r : Request)
  /-- The visit with this number does what is next for it, unless it is over. -/
  | proceed (i : Nat)
  | happen (ev : Event)

/-- The monotonic clock does not go back, and every request comes in and proceeds by stages. -/
def Move.Steady : Move → Prop
  | happen ev => ev.Steady ∧ ∀ r, ev ≠ .request r
  | arrive _ | proceed _ => True

namespace Hall

/-- The hall of a world into which no request has come yet. -/
def empty (w : World) : Hall := ⟨w, []⟩

def step (a : Authority) (h : Hall) : Move → Hall
  | .arrive r => { h with visits := h.visits ++ [⟨r, r.start⟩] }
  | .proceed i =>
    match h.visits[i]? with
    | some ⟨r, .within s⟩ =>
      ⟨(s.proceed a h.world).2, h.visits.set i ⟨r, (s.proceed a h.world).1⟩⟩
    | _ => h
  | .happen ev => { h with world := h.world.step a ev }

def after (a : Authority) (h : Hall) (ms : List Move) : Hall :=
  ms.foldl (step a) h

variable {a : Authority} {h : Hall}

/-- After two runs the hall is as after the second, started after the first. -/
lemma after_append (ms ns : List Move) : h.after a (ms ++ ns) = (h.after a ms).after a ns :=
  List.foldl_append ..

/-- After one more move the hall has taken one more step. -/
lemma after_snoc (ms : List Move) (m : Move) : h.after a (ms ++ [m]) = (h.after a ms).step a m :=
  after_append ms [m]

/-- A move of a visit takes its stage in the world and puts what came of it in its place. -/
lemma step_proceed {i : Nat} {r : Request} {s : Stage}
    (there : h.visits[i]? = some ⟨r, .within s⟩) : h.step a (.proceed i) =
      ⟨(s.proceed a h.world).2, h.visits.set i ⟨r, (s.proceed a h.world).1⟩⟩ := by
  simp only [step, there]

/-- A request comes in, or a visit does what is next for it, or something else happens, or there is
nothing to do. -/
lemma step_inv (a : Authority) (h : Hall) (m : Move) :
    (∃ r, m = .arrive r ∧ h.step a m = ⟨h.world, h.visits ++ [⟨r, r.start⟩]⟩) ∨
      (∃ i r s, m = .proceed i ∧ h.visits[i]? = some ⟨r, .within s⟩ ∧ h.step a m =
        ⟨(s.proceed a h.world).2, h.visits.set i ⟨r, (s.proceed a h.world).1⟩⟩) ∨
      (∃ ev, m = .happen ev ∧ h.step a m = ⟨h.world.step a ev, h.visits⟩) ∨
      (∃ i, m = .proceed i ∧ (∀ r s, h.visits[i]? ≠ some ⟨r, .within s⟩) ∧ h.step a m = h) := by
  cases m with
  | arrive r => exact .inl ⟨r, rfl, rfl⟩
  | happen ev => exact .inr (.inr (.inl ⟨ev, rfl, rfl⟩))
  | proceed i =>
    cases there : h.visits[i]? with
    | none =>
      refine .inr (.inr (.inr ⟨i, rfl, fun _ _ same => ?_, by simp only [step, there]⟩))
      rw [there] at same
      cases same
    | some v =>
      obtain ⟨r, p⟩ := v
      cases p with
      | within s => exact .inr (.inl ⟨i, r, s, rfl, there, step_proceed there⟩)
      | done x =>
        refine .inr (.inr (.inr ⟨i, rfl, fun _ _ same => ?_, by simp only [step, there]⟩))
        rw [there] at same
        cases same

/-! ## Requests that are not interrupted -/

/-- A visit that proceeds alone comes to the end of its stages. -/
lemma after_finishes {p : Progress} {w w' : World} {x : Except Failure Answer}
    (ends : Finishes a p w x w') {r : Request} {i : Nat} {vs : List Visit}
    (there : vs[i]? = some ⟨r, p⟩) :
    ∃ n, (⟨w, vs⟩ : Hall).after a (List.replicate n (.proceed i)) =
      ⟨w', vs.set i ⟨r, .done x⟩⟩ := by
  induction ends generalizing vs with
  | done =>
    obtain ⟨bound, here⟩ := List.getElem?_eq_some_iff.1 there
    refine ⟨0, ?_⟩
    rw [List.replicate_zero, after, List.foldl_nil, ← here, List.set_getElem_self]
  | @within s w x w' _ ih =>
    have moved : (vs.set i ⟨r, (s.proceed a w).1⟩)[i]? = some ⟨r, (s.proceed a w).1⟩ :=
      List.getElem?_set_self (List.getElem?_eq_some_iff.1 there).1
    obtain ⟨n, rest⟩ := ih moved
    refine ⟨n + 1, ?_⟩
    rw [List.replicate_succ, after, List.foldl_cons, step_proceed there]
    rw [List.set_set] at rest
    exact rest

/-- A request that comes in and is not interrupted does what its operation does. -/
theorem after_alone (a : Authority) (w : World) (vs : List Visit) (r : Request) :
    ∃ x v n, Ends (r.op a) w x v ∧
      (⟨w, vs⟩ : Hall).after a (.arrive r :: List.replicate n (.proceed vs.length)) =
        ⟨v, vs ++ [⟨r, .done x⟩]⟩ := by
  obtain ⟨x, v, run⟩ := Ends.total (r.op a) w
  have there : (vs ++ [⟨r, r.start⟩])[vs.length]? = some ⟨r, r.start⟩ := by simp
  obtain ⟨n, ended⟩ := after_finishes (r.finishes_iff.2 run) there
  refine ⟨x, v, n, run, ?_⟩
  rw [List.set_append_right _ _ (Nat.le_refl _), Nat.sub_self] at ended
  exact ended

/-! ## Where visits stand -/

/-- Every visit stands where its request may stand. -/
def Proper (h : Hall) : Prop := ∀ v ∈ h.visits, v.request.Reaches v.progress

/-- A move leaves every visit where its request may stand. -/
lemma Proper.step (proper : h.Proper) (m : Move) : (h.step a m).Proper := by
  obtain ⟨r, rfl, moved⟩ | ⟨i, r, s, rfl, there, moved⟩ | ⟨ev, rfl, moved⟩ | ⟨i, rfl, _, moved⟩ :=
    step_inv a h m
  · rw [moved]
    intro v mem
    obtain mem | mem := List.mem_append.1 mem
    · exact proper v mem
    · rw [List.mem_singleton.1 mem]
      exact r.reaches_start
  · rw [moved]
    intro v mem
    obtain mem | rfl := List.mem_or_eq_of_mem_set mem
    · exact proper v mem
    · exact (proper _ (List.mem_of_getElem? there)).proceed a h.world
  · rw [moved]
    exact proper
  · rw [moved]
    exact proper

/-- Moves leave every visit where its request may stand. -/
lemma Proper.after (proper : h.Proper) (ms : List Move) : (h.after a ms).Proper := by
  induction ms generalizing h with
  | nil => exact proper
  | cons m ms ih => exact ih (proper.step m)

/-- In an empty hall every visit stands where it may. -/
lemma proper_empty (w : World) : (empty w).Proper := by
  intro v mem
  cases mem

/-- The monotonic clock of a hall does not go back by steady moves. -/
lemma uptime_le_step {m : Move} (steady : m.Steady) :
    h.world.uptime ≤ (h.step a m).world.uptime := by
  obtain ⟨r, rfl, moved⟩ | ⟨i, r, s, rfl, there, moved⟩ | ⟨ev, rfl, moved⟩ | ⟨i, rfl, _, moved⟩ :=
    step_inv a h m
  · exact Int.le_of_eq (by rw [moved])
  · rw [moved]
    exact Int.le_of_eq (s.proceed_keeps a h.world).uptime.symm
  · rw [moved]
    exact h.world.uptime_le_step a steady.1
  · exact Int.le_of_eq (by rw [moved])

end Hall

end SignIn
