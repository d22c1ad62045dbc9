import SignIn.Proofs.Locality
import SignIn.Proofs.Origin

/-!
# Requests that commute

Two requests about different subjects can be made in either order: each is answered as if it were
the only one, and the stores keep the same in the end. What is drawn and what a mail provider
replies is up to chance, and given to each request apart, so that it does not depend on the order.
-/

namespace SignIn

open World

/-! ## Chance -/

/-- What a request may draw, and what a mail provider replies to it. -/
structure Chances where
  ids : Draws (BitVec 128)
  codes : Draws (Fin 1000000)
  replies : List Reply

/-- The mailer with other replies to come. -/
def Mailer.replying (replies : List Reply) : Mailer → Mailer
  | .dummy => .dummy
  | .recorder sent closes => .recorder sent closes
  | .provider p => .provider { p with replies := replies }

/-- The world with other chances. -/
def World.given (w : World) (c : Chances) : World :=
  { w with ids := c.ids, codes := c.codes, mailer := w.mailer.replying c.replies }

/-- Mailers that differ in messages and replies only are alike once they are given replies. -/
lemma Mailer.unsent_replying {m m' : Mailer} (same : m'.bare = m.bare) (replies : List Reply) :
    (m'.replying replies).unsent = (m.replying replies).unsent := by
  have filled (m : Mailer) : (m.replying replies).unsent = m.bare.replying replies := by
    cases m with
    | dummy | recorder | provider => rfl
  rw [filled, filled, same]

/-- Replies are no part of a bare mailer. -/
lemma Mailer.bare_replying (m : Mailer) (replies : List Reply) :
    (m.replying replies).bare = m.bare := by
  cases m with
  | dummy | recorder | provider => rfl

/-! ## Subjects -/

/-- The places of the subject of a request. -/
def Request.Covers (r : Request) (p : Place) : Prop := r.subject? = some p.subject

section Subjects

variable {a : Authority} {w w' v : World} {r s : Request} {c d : Chances}

/-- Everybody is found under their own address. -/
def Addressed (w : World) : Prop := ∀ e u, w.accounts.read e = .ok u → u.email = e

/-- Everybody is still found under their own address after a run. -/
lemma addressed_after (h : Addressed w) (es : List Event) : Addressed (w.after a es) := by
  induction es generalizing w with
  | nil => exact h
  | cons ev es ih =>
    refine ih (w := w.step a ev) fun e u found => ?_
    obtain before | ⟨same, _⟩ := read_step found
    · exact h e u before
    · exact same

/-- Whoever is found under the address that a request is about, has that address. -/
lemma Addressed.own (h : Addressed w) (e : Email) (u : User) (named : Named r.Covers e)
    (found : w.accounts.read e = .ok u) : Named r.Covers u.email := by
  rw [h e u found]
  exact named

/-- A request changes no more than what is kept for its subject. -/
lemma Request.untouched (h : Addressed w) {x : Except Failure Answer} (run : Ends (r.op a) w x w') :
    Untouched r.Covers w w' :=
  ((Agree.refl h.own).request (fun _ covered => covered) run run).2.2.1

/-- After a request about another subject, a world that is given the same chances agrees with the
one before it on the places of a request. -/
lemma Untouched.agree (h : Untouched r.Covers (w.given c) w') (addressed : Addressed w)
    (apart : ∀ p, r.Covers p → ¬ s.Covers p) :
    Agree s.Covers (w.given d) (w'.given d) where
  around := h.around
  ids := rfl
  codes := rfl
  mailer := Mailer.unsent_replying (h.mailer.trans (Mailer.bare_replying ..)) d.replies
  held p covered := h.held p fun covered' => apart p covered' covered
  own := addressed.own

end Subjects

/-! ## Commuting -/

/-- Requests about different subjects commute: in either order they are answered alike, and the same
is kept for every address and every token in the end. -/
theorem requests_commute {a : Authority} {w₀ : World} (fresh : w₀.Fresh) (es : List Event)
    {r s : Request} (apart : ∀ x, r.subject? = some x → s.subject? ≠ some x) (c d : Chances)
    {x y x' y' : Except Failure Answer} {w₁ w₂ v₁ v₂ : World}
    (first : Ends (r.op a) ((w₀.after a es).given c) x w₁)
    (second : Ends (s.op a) (w₁.given d) y w₂)
    (first' : Ends (s.op a) ((w₀.after a es).given d) y' v₁)
    (second' : Ends (r.op a) (v₁.given c) x' v₂) :
    x' = x ∧ y' = y ∧ ∀ p, v₂.held p = w₂.held p := by
  have addressed : Addressed (w₀.after a es) :=
    addressed_after (fun e u found => absurd found (fresh.nobody e u)) es
  have disjoint (p : Place) (covered : r.Covers p) (covered' : s.Covers p) : False :=
    apart p.subject covered covered'
  have left : Untouched r.Covers ((w₀.after a es).given c) w₁ := Request.untouched addressed first
  have right : Untouched s.Covers ((w₀.after a es).given d) v₁ :=
    Request.untouched addressed first'
  obtain ⟨told, agree, _, after⟩ :=
    (left.agree addressed disjoint).request (fun _ covered => covered) first' second
  obtain ⟨told', agree', _, after'⟩ :=
    (right.agree addressed fun p covered covered' => disjoint p covered' covered).request
      (fun _ covered => covered) first second'
  refine ⟨told'.symm, told, fun p => ?_⟩
  -- what is kept is left by the request that it is about, if there is one
  by_cases covered : r.Covers p
  · have out : ¬ s.Covers p := disjoint p covered
    calc v₂.held p = w₁.held p := agree'.held p covered
      _ = w₂.held p := (after.held p out).symm
  · by_cases covered' : s.Covers p
    · calc v₂.held p = v₁.held p := after'.held p covered
        _ = w₂.held p := (agree.held p covered').symm
    · calc v₂.held p = v₁.held p := after'.held p covered
        _ = (w₀.after a es).held p := right.held p covered'
        _ = w₁.held p := (left.held p covered).symm
        _ = w₂.held p := (after.held p covered').symm

/-! ## A sample -/

/-- A user with a second factor signs up. -/
def oneSignUp : List Event :=
  [.request (.signUp (some "a@x.com") (some "password") true)]

/-- The user of the sample signs in. -/
def challengedSignIn : Request := .signIn (some "a@x.com") (some "password")

/-- Somebody else signs up. -/
def otherSignUp : Request := .signUp (some "b@x.com") (some "password") false

/-- The chances of the sample, counted from a draw on. -/
def Chances.sample (used : Nat) : Chances :=
  ⟨{ World.sample.ids with used := used }, { World.sample.codes with used := used }, []⟩

/-- A sign-in with a challenge and another's sign-up end alike in either order. -/
theorem requests_commute_sample : World.sample.Fresh ∧
    (∀ x, challengedSignIn.subject? = some x → otherSignUp.subject? ≠ some x) ∧
    ∃ x y x' y' w₁ w₂ v₁ v₂,
      Ends (challengedSignIn.op .sample)
        ((World.sample.after .sample oneSignUp).given (.sample 1)) (.ok x) w₁ ∧
      Ends (otherSignUp.op .sample) (w₁.given (.sample 2)) (.ok y) w₂ ∧
      Ends (otherSignUp.op .sample)
        ((World.sample.after .sample oneSignUp).given (.sample 2)) (.ok y') v₁ ∧
      Ends (challengedSignIn.op .sample) (v₁.given (.sample 1)) (.ok x') v₂ ∧
      (.ok x' : Except Failure Answer) = .ok x ∧ (.ok y' : Except Failure Answer) = .ok y ∧
      ∀ p, v₂.held p = w₂.held p := by
  have apart : ∀ x, challengedSignIn.subject? = some x → otherSignUp.subject? ≠ some x := by
    have subject : challengedSignIn.subject? = some (.address ⟨"a@x.com", by decide⟩) := rfl
    have subject' : otherSignUp.subject? = some (.address ⟨"b@x.com", by decide⟩) := rfl
    intro x about about'
    rw [subject] at about
    rw [subject', ← about] at about'
    revert about'
    decide
  have runs : ∃ x y x' y' w₁ w₂ v₁ v₂,
      Ends (challengedSignIn.op .sample)
        ((World.sample.after .sample oneSignUp).given (.sample 1)) (.ok x) w₁ ∧
      Ends (otherSignUp.op .sample) (w₁.given (.sample 2)) (.ok y) w₂ ∧
      Ends (otherSignUp.op .sample)
        ((World.sample.after .sample oneSignUp).given (.sample 2)) (.ok y') v₁ ∧
      Ends (challengedSignIn.op .sample) (v₁.given (.sample 1)) (.ok x') v₂ :=
    ⟨_, _, _, _, _, _, _, _, rfl, rfl, rfl, rfl⟩
  obtain ⟨x, y, x', y', w₁, w₂, v₁, v₂, first, second, first', second'⟩ := runs
  exact ⟨sample_fresh, apart, x, y, x', y', w₁, w₂, v₁, v₂, first, second, first', second',
    requests_commute sample_fresh oneSignUp apart (.sample 1) (.sample 2) first second first'
      second'⟩

end SignIn
