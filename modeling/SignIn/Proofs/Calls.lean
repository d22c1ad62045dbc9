import Mathlib.Tactic.Lemma
import SignIn.Service

/-!
# Runs of operations

What it means that an operation that is started in a world ends with a result in another world, and
how such a run is taken apart. Every operation of the service is built from few steps: returning,
failing, reading the world, writing the journal, calling a collaborator. There is one lemma for each
of them, and `Ends.bind_inv` for what is done one after the other.
-/

namespace SignIn

variable {ε α β : Type}

/-- An operation that is started in `w` ends with `r` in `w'`. -/
def Ends (x : ExceptT ε (StateM World) α) (w : World) (r : Except ε α) (w' : World) : Prop :=
  x.run w = (r, w')

/-- The world with one more line in its journal. -/
def World.noting (w : World) (level : Level) (source text : String) : World :=
  { w with journal := w.journal ++ [⟨level, source, text⟩] }

/-- The world with more lines in its journal. -/
def World.adding (w : World) (lines : List Entry) : World :=
  { w with journal := w.journal ++ lines }

/-- The second world is the first with more lines in its journal. -/
def World.Noted (w w' : World) : Prop :=
  ∃ lines, w' = w.adding lines

def World.idDrawn (w : World) : World := { w with ids := { w.ids with used := w.ids.used + 1 } }

def World.codeDrawn (w : World) : World :=
  { w with codes := { w.codes with used := w.codes.used + 1 } }

/-- Adding no lines changes nothing. -/
lemma World.adding_nil (w : World) : w.adding [] = w := by
  rw [adding, List.append_nil]

/-- Lines that are added after others are added with them. -/
lemma World.adding_adding (w : World) (lines more : List Entry) :
    (w.adding lines).adding more = w.adding (lines ++ more) := by
  simp only [adding, List.append_assoc]

namespace World.Noted

variable {w w' w'' : World}

/-- A world is itself with no more lines. -/
lemma refl (w : World) : Noted w w :=
  ⟨[], w.adding_nil.symm⟩

/-- One line more is lines more. -/
lemma noting (w : World) (level : Level) (source text : String) :
    Noted w (w.noting level source text) :=
  ⟨_, rfl⟩

/-- More lines twice are more lines. -/
lemma trans (h : Noted w w') (k : Noted w' w'') : Noted w w'' := by
  obtain ⟨lines, rfl⟩ := h
  obtain ⟨more, rfl⟩ := k
  exact ⟨lines ++ more, w.adding_adding lines more⟩

end World.Noted

namespace Ends

variable {w w' w'' : World} {r s : Except ε α}

/-- Every operation ends. -/
lemma total (x : ExceptT ε (StateM World) α) (w : World) : ∃ r w', Ends x w r w' :=
  ⟨_, _, rfl⟩

/-- An operation ends in one way only. -/
lemma unique {x : ExceptT ε (StateM World) α} (h : Ends x w r w') (k : Ends x w s w'') :
    r = s ∧ w' = w'' :=
  Prod.mk.inj (h.symm.trans k)

/-- Returning a value leaves the world as it was. -/
lemma pure_inv {v : α} (h : Ends (pure v : ExceptT ε (StateM World) α) w r w') :
    r = .ok v ∧ w' = w :=
  unique h rfl

/-- Failing leaves the world as it was. -/
lemma throw_inv {e : ε} (h : Ends (throw e : ExceptT ε (StateM World) α) w r w') :
    r = .error e ∧ w' = w :=
  unique h rfl

/-- A second step ends the whole after a first step that returned. -/
lemma bind {x : ExceptT ε (StateM World) α} {f : α → ExceptT ε (StateM World) β} {v : α}
    {t : Except ε β} (h : Ends x w (.ok v) w') (k : Ends (f v) w' t w'') :
    Ends (x >>= f) w t w'' := by
  have run : (x >>= f).run w = (ExceptT.bindCont f (x.run w).1).run (x.run w).2 := rfl
  rw [Ends, run, show x.run w = (.ok v, w') from h]
  exact k

/-- A first step that fails ends the whole. -/
lemma bind_error {x : ExceptT ε (StateM World) α} (f : α → ExceptT ε (StateM World) β) {e : ε}
    (h : Ends x w (.error e) w') : Ends (x >>= f) w (.error e) w' := by
  have run : (x >>= f).run w = (ExceptT.bindCont f (x.run w).1).run (x.run w).2 := rfl
  rw [Ends, run, show x.run w = (.error e, w') from h]
  rfl

/-- Of two steps, the first returns and the second ends the whole, or the first fails. -/
lemma bind_inv {x : ExceptT ε (StateM World) α} {f : α → ExceptT ε (StateM World) β}
    {t : Except ε β} (h : Ends (x >>= f) w t w'') :
    (∃ v w', Ends x w (.ok v) w' ∧ Ends (f v) w' t w'') ∨
      ∃ e, Ends x w (.error e) w'' ∧ t = .error e := by
  obtain ⟨r, w', first⟩ := total x w
  cases r with
  | ok v =>
    obtain ⟨t', v', second⟩ := total (f v) w'
    obtain ⟨rfl, rfl⟩ := unique h (first.bind second)
    exact .inl ⟨v, w', first, second⟩
  | error e =>
    obtain ⟨rfl, rfl⟩ := unique h (first.bind_error f)
    exact .inr ⟨e, first, rfl⟩

/-! ### First steps that always return -/

/-- Reading the world passes it on to what follows. -/
lemma get_bind {f : World → ExceptT ε (StateM World) α} :
    Ends (get >>= f) w r w' ↔ Ends (f w) w r w' := Iff.rfl

/-- Setting the world is seen by what follows. -/
lemma set_bind {v : World} {f : PUnit → ExceptT ε (StateM World) α} :
    Ends (set v >>= f) w r w' ↔ Ends (f ⟨⟩) v r w' := Iff.rfl

/-- A line is in the journal of what follows. -/
lemma log_bind {level : Level} {source text : String} {f : Unit → ExceptT ε (StateM World) α} :
    Ends (liftM (World.log level source text) >>= f) w r w' ↔
      Ends (f ()) (w.noting level source text) r w' := Iff.rfl

/-- What follows is given the next draw of an id. -/
lemma drawId_bind {f : BitVec 128 → ExceptT ε (StateM World) α} :
    Ends (liftM World.drawId >>= f) w r w' ↔ Ends (f (w.ids.draw w.ids.used)) w.idDrawn r w' :=
  Iff.rfl

/-- What follows is given the next draw of a code. -/
lemma drawCode_bind {f : Fin 1000000 → ExceptT ε (StateM World) α} :
    Ends (liftM World.drawCode >>= f) w r w' ↔
      Ends (f (w.codes.draw w.codes.used)) w.codeDrawn r w' := Iff.rfl

/-- What follows is given what the server says and meets the keyspace that it left. -/
lemma command_bind {c : Command} {f : Except ServerFault Keyspace → ExceptT ε (StateM World) α} :
    Ends (liftM (World.command c).run >>= f) w r w' ↔
      Ends (f (w.keyspace.send w.uptime c).1)
        { w with keyspace := (w.keyspace.send w.uptime c).2 } r w' := Iff.rfl

/-! ### Last steps -/

/-- Setting the world ends in the world that was set. -/
lemma set_inv {v : World} {t : Except ε PUnit}
    (h : Ends (set v : ExceptT ε (StateM World) PUnit) w t w') : t = .ok () ∧ w' = v :=
  unique h rfl

/-- Changing the world ends in the world as it was changed. -/
lemma modify_inv {f : World → World} {t : Except ε PUnit}
    (h : Ends (modify f : ExceptT ε (StateM World) PUnit) w t w') : t = .ok () ∧ w' = f w :=
  unique h rfl

/-- A result that is there already leaves the world as it was. -/
lemma except_inv {x : Except ε α} (h : Ends (liftM x : ExceptT ε (StateM World) α) w r w') :
    r = x ∧ w' = w :=
  unique h rfl

/-- A line that is written is one more in the journal. -/
lemma log_inv {level : Level} {source text : String} {t : Except ε Unit}
    (h : Ends (liftM (World.log level source text) : ExceptT ε (StateM World) Unit) w t w') :
    t = .ok () ∧ w' = w.noting level source text :=
  unique h rfl

/-- A drawn id is the next one of its supply. -/
lemma drawId_inv {t : Except ε (BitVec 128)}
    (h : Ends (liftM World.drawId : ExceptT ε (StateM World) (BitVec 128)) w t w') :
    t = .ok (w.ids.draw w.ids.used) ∧ w' = w.idDrawn :=
  unique h rfl

/-- A drawn code is the next one of its supply. -/
lemma drawCode_inv {t : Except ε (Fin 1000000)}
    (h : Ends (liftM World.drawCode : ExceptT ε (StateM World) (Fin 1000000)) w t w') :
    t = .ok (w.codes.draw w.codes.used) ∧ w' = w.codeDrawn :=
  unique h rfl

/-! ### What is made of a result -/

/-- A function of what an operation returns leaves the failures of the operation alone. -/
lemma map (f : α → β) {x : ExceptT ε (StateM World) α} (h : Ends x w r w') :
    Ends (f <$> x) w (r.map f) w' := by
  cases r with
  | ok u => exact h.bind (show Ends (Pure.pure (f u)) w' (.ok (f u)) w' from rfl)
  | error g => exact h.bind_error fun u => Pure.pure (f u)

/-- What ends a function of an operation is made of what ended the operation. -/
lemma map_inv {f : α → β} {x : ExceptT ε (StateM World) α} {t : Except ε β}
    (h : Ends (f <$> x) w t w') : ∃ s, Ends x w s w' ∧ t = s.map f := by
  obtain ⟨s, v, run⟩ := Ends.total x w
  obtain ⟨rfl, rfl⟩ := h.unique (run.map f)
  exact ⟨s, run, rfl⟩

/-- What a function of an operation returns is made of what the operation returned. -/
lemma map_ok_inv {f : α → β} {x : ExceptT ε (StateM World) α} {v : β}
    (h : Ends (f <$> x) w (.ok v) w') : ∃ u, Ends x w (.ok u) w' ∧ f u = v := by
  obtain ⟨s, run, told⟩ := h.map_inv
  cases s with
  | ok u => exact ⟨u, run, (Except.ok.inj told).symm⟩
  | error e => cases told

end Ends

section Calls

variable {w w' : World}

/-- A call that is out of order fails at once, one in order runs. -/
lemma World.guarded_inv {t : Target} {c : Call α} {r : Except Fault α}
    (h : Ends (World.guarded t c) w r w') :
    (∃ f, w.outages t = some f ∧ r = .error f ∧ w' = w) ∨ w.outages t = none ∧ Ends c w r w' := by
  rw [World.guarded, Ends.get_bind] at h
  cases broken : w.outages t with
  | some f =>
    rw [broken] at h
    obtain ⟨rfl, rfl⟩ := Ends.throw_inv h
    exact .inl ⟨f, rfl, rfl, rfl⟩
  | none =>
    rw [broken] at h
    exact .inr ⟨rfl, h⟩

/-- A call of a collaborator that is in order ends as its own work does. -/
lemma World.guarded_of_none {t : Target} {c : Call α} {r : Except Fault α}
    (order : w.outages t = none) (h : Ends c w r w') : Ends (World.guarded t c) w r w' := by
  rw [World.guarded, Ends.get_bind, order]
  exact h

namespace Service

/-- Looking at how a call ended never fails itself. -/
lemma attempt_iff {c : Call α} {r : Except Failure (Except Fault α)} :
    Ends (attempt c) w r w' ↔ ∃ s, r = .ok s ∧ Ends c w s w' := by
  obtain ⟨s, v, run⟩ := Ends.total c w
  have attempted : Ends (attempt c) w (.ok s) v := by
    show (Except.ok (c.run w).1, (c.run w).2) = (Except.ok s, v)
    rw [show c.run w = (s, v) from run]
  constructor
  · intro h
    obtain ⟨rfl, rfl⟩ := Ends.unique h attempted
    exact ⟨s, rfl, run⟩
  · rintro ⟨s', rfl, run'⟩
    obtain ⟨rfl, rfl⟩ := Ends.unique run run'
    exact attempted

/-- What follows an attempt is given how the call ended, whichever way it did. -/
lemma attempt_bind {c : Call α} {f : Except Fault α → Op β} {r : Except Failure β} :
    Ends (attempt c >>= f) w r w' ↔ ∃ s v, Ends c w s v ∧ Ends (f s) v r w' := by
  constructor
  · intro h
    obtain ⟨s, v, first, second⟩ | ⟨e, first, _⟩ := h.bind_inv
    · obtain ⟨s', told, run⟩ := attempt_iff.1 first
      obtain rfl := Except.ok.inj told
      exact ⟨s, v, run, second⟩
    · obtain ⟨_, told, _⟩ := attempt_iff.1 first
      cases told
  · rintro ⟨s, v, first, second⟩
    exact (attempt_iff.2 ⟨s, rfl, first⟩).bind second

/-- Refusing ends with the refusal and leaves the world as it was. -/
lemma refuse_inv {kind : RefusalKind} {because : Option Fault} {r : Except Failure α}
    (h : Ends (refuse kind because : Op α) w r w') :
    r = .error (.refused (.of kind because)) ∧ w' = w :=
  Ends.throw_inv h

/-- An escaping fault ends the operation and leaves the world as it was. -/
lemma escape_inv {f : Fault} {r : Except Failure α} (h : Ends (escape f : Op α) w r w') :
    r = .error (.escaped f) ∧ w' = w :=
  Ends.throw_inv h

/-- A field has a value, or its flaw refuses the operation. -/
lemma field_inv {x : Except Flaw α} {r : Except Failure α} (h : Ends (field x) w r w') :
    w' = w ∧ ((∃ v, x = .ok v ∧ r = .ok v) ∨
      ∃ flaw, x = .error flaw ∧ r = .error (.refused (.ofFlaw flaw))) := by
  cases x with
  | ok v =>
    obtain ⟨rfl, rfl⟩ := Ends.pure_inv h
    exact ⟨rfl, .inl ⟨v, rfl, rfl⟩⟩
  | error flaw =>
    obtain ⟨rfl, rfl⟩ := Ends.throw_inv h
    exact ⟨rfl, .inr ⟨flaw, rfl, rfl⟩⟩

/-- A field has a value for what is done after it, or nothing is done. -/
lemma field_bind_inv {x : Except Flaw α} {f : α → Op β} {r : Except Failure β}
    (h : Ends (field x >>= f) w r w') :
    (∃ v, x = .ok v ∧ Ends (f v) w r w') ∨
      ∃ flaw, x = .error flaw ∧ r = .error (.refused (.ofFlaw flaw)) ∧ w' = w := by
  obtain ⟨u, w₁, first, second⟩ | ⟨g, first, rfl⟩ := h.bind_inv
  · obtain ⟨rfl, ⟨v, value, told⟩ | ⟨_, _, told⟩⟩ := field_inv first
    · cases told
      exact .inl ⟨u, value, second⟩
    · cases told
  · obtain ⟨rfl, ⟨_, _, told⟩ | ⟨flaw, flawed, told⟩⟩ := field_inv first
    · cases told
    · cases told
      exact .inr ⟨flaw, flawed, rfl, rfl⟩

/-- A line of the service is in the journal of what follows. -/
lemma log_bind {text : String} {f : Unit → Op α} {r : Except Failure α} :
    Ends (log text >>= f) w r w' ↔ Ends (f ()) (w.noting .info source text) r w' := Iff.rfl

/-- A line of the service is one more in the journal. -/
lemma log_inv {text : String} {r : Except Failure Unit} (h : Ends (log text) w r w') :
    r = .ok () ∧ w' = w.noting .info source text :=
  Ends.log_inv h

end Service

end Calls

end SignIn
