import Mathlib.Data.List.Induction
import SignIn.Proofs.Interleaving
import SignIn.Proofs.Origin

/-!
# Redemption

However requests are interleaved, a challenge is redeemed at most once. A move leaves a mark if its
call to the store sets a challenge or takes one. The marks are orderly: a challenge is taken only if
the last that was done for its address is that it was set (`Hall.orderly_marks`), since a pending
challenge is always the one that was set last. The rest is counting: the challenges that are taken
do not outnumber those that are set, nor do the sessions that are opened with them.
-/

namespace SignIn

open World

/-! ## Marks -/

/-- What is done to the challenges. -/
inductive Mark
  | set (e : Email) (c : Challenge)
  | taken (e : Email) (c : Challenge)
  deriving DecidableEq

namespace Mark

def email : Mark → Email
  | set e _ | taken e _ => e

def sets (e : Email) : Mark → Bool
  | set f _ => f = e
  | taken .. => false

def takes (e : Email) : Mark → Bool
  | taken f _ => f = e
  | set .. => false

/-- The mark of a call that sets a challenge, by what the store answers. -/
def ofSetting (e : Email) (c : Challenge) : Except Fault Unit → Option Mark
  | .ok () => some (set e c)
  | .error _ => none

/-- The mark of a call that takes a challenge, by what the store answers. -/
def ofTaking (e : Email) (c : Challenge) : Except Fault Bool → Option Mark
  | .ok true => some (taken e c)
  | .ok false | .error _ => none

/-- The last that was done for an address. Marks are listed from the last to the first. -/
def latest (e : Email) (marks : List Mark) : Option Mark :=
  marks.find? fun m => m.email = e

/-- A challenge is taken only if the last that was done for its address is that it was set. -/
def Orderly : List Mark → Prop
  | [] => True
  | set _ _ :: past => Orderly past
  | taken e c :: past => latest e past = some (set e c) ∧ Orderly past

variable {marks past future since : List Mark} {e : Email} {c : Challenge}

/-- A challenge that was set last is what was done last for its address, and for no other. -/
lemma latest_set (e f : Email) (c : Challenge) (marks : List Mark) :
    latest e (set f c :: marks) = if f = e then some (set f c) else latest e marks := by
  rw [latest, List.find?_cons]
  by_cases same : f = e
  · rw [if_pos same, email, decide_eq_true same]
  · rw [if_neg same, email, decide_eq_false same]
    rfl

/-- A challenge that was taken last is what was done last for its address, and for no other. -/
lemma latest_taken (e f : Email) (c : Challenge) (marks : List Mark) :
    latest e (taken f c :: marks) = if f = e then some (taken f c) else latest e marks := by
  rw [latest, List.find?_cons]
  by_cases same : f = e
  · rw [if_pos same, email, decide_eq_true same]
  · rw [if_neg same, email, decide_eq_false same]
    rfl

namespace Orderly

/-- Marks are orderly without the last of them. -/
lemma of_append (h : Orderly (future ++ past)) : Orderly past := by
  induction future with
  | nil => exact h
  | cons m future ih =>
    cases m with
    | set => exact ih h
    | taken => exact ih h.2

/-- What is taken is what was set last. -/
lemma latest_of_taken (h : Orderly (future ++ taken e c :: past)) :
    latest e past = some (set e c) :=
  h.of_append.1

/-- No more challenges of an address are taken than set, and fewer before the last one is taken. -/
lemma count_le (h : Orderly marks) (e : Email) :
    marks.countP (takes e) ≤ marks.countP (sets e) ∧
      ∀ c, latest e marks = some (set e c) → marks.countP (takes e) < marks.countP (sets e) := by
  induction marks with
  | nil => exact ⟨Nat.le_refl _, nofun⟩
  | cons m marks ih =>
    cases m with
    | set f d =>
      obtain ⟨le, lt⟩ := ih h
      rw [List.countP_cons_of_neg (by simp [takes]), latest_set]
      by_cases same : f = e
      · rw [List.countP_cons_of_pos (by simp [sets, same])]
        exact ⟨by omega, fun _ _ => by omega⟩
      · rw [List.countP_cons_of_neg (by simp [sets, same]), if_neg same]
        exact ⟨le, lt⟩
    | taken f d =>
      obtain ⟨last, h⟩ := h
      obtain ⟨le, lt⟩ := ih h
      rw [List.countP_cons_of_neg (p := sets e) (by simp [sets]), latest_taken]
      by_cases same : f = e
      · subst same
        have fewer := lt d last
        rw [List.countP_cons_of_pos (by simp [takes]), if_pos rfl]
        exact ⟨by omega, nofun⟩
      · rw [List.countP_cons_of_neg (by simp [takes, same]), if_neg same]
        exact ⟨le, lt⟩

/-- Since a challenge was set, and as long as no other is set for its address, one is taken at
most. -/
lemma count_since_le (h : Orderly (since ++ set e c :: past))
    (only : ∀ d, set e d ∉ since) : since.countP (takes e) ≤ 1 := by
  -- once one was taken, that is the last that was done
  have more : since.countP (takes e) = 0 ∨ since.countP (takes e) = 1 ∧
      ∃ d, latest e (since ++ set e c :: past) = some (taken e d) := by
    induction since with
    | nil => exact .inl rfl
    | cons m since ih =>
      have only' : ∀ d, set e d ∉ since := fun d mem => only d (List.mem_cons_of_mem m mem)
      rw [List.cons_append] at h ⊢
      cases m with
      | set f d =>
        have other : f ≠ e := by
          rintro rfl
          exact only d List.mem_cons_self
        rw [latest_set, if_neg other, List.countP_cons_of_neg (by simp [takes])]
        exact ih h only'
      | taken f d =>
        rw [latest_taken]
        by_cases same : f = e
        · subst same
          obtain none | ⟨_, d', last⟩ := ih h.2 only'
          · rw [if_pos rfl, List.countP_cons_of_pos (by simp [takes]), none]
            exact .inr ⟨rfl, d, rfl⟩
          · rw [h.1] at last
            cases last
        · rw [if_neg same, List.countP_cons_of_neg (by simp [takes, same])]
          exact ih h.2 only'
  omega

end Orderly

end Mark

/-! ## The marks of moves -/

namespace Hall

/-- What a move does to the challenges, by what its call to their store answers. -/
def mark? (h : Hall) : Move → Option Mark
  | .proceed i =>
    match h.visits[i]? with
    | some ⟨_, .within (.issuing e c)⟩ =>
      Mark.ofSetting e c ((World.guarded .issue (Challenges.issue e c)).run h.world).1
    | some ⟨_, .within (.taking e c)⟩ =>
      Mark.ofTaking e c ((World.guarded .take (Challenges.take e c)).run h.world).1
    | _ => none
  | .arrive _ | .happen _ => none

/-- The marks that moves leave, from the last to the first. -/
def marks (a : Authority) : Hall → List Move → List Mark
  | _, [] => []
  | h, m :: ms => marks a (h.step a m) ms ++ (h.mark? m).toList

variable {a : Authority} {h : Hall} {i : Nat} {r : Request} {e : Email} {c : Challenge} {m : Move}

/-- The marks of one more move come last. -/
lemma marks_snoc (a : Authority) (h : Hall) (ms : List Move) (m : Move) :
    h.marks a (ms ++ [m]) = ((h.after a ms).mark? m).toList ++ h.marks a ms := by
  induction ms generalizing h with
  | nil => exact (List.append_nil _).symm
  | cons k ms ih =>
    rw [List.cons_append, marks, ih, marks, List.append_assoc]
    rfl

end Hall

/-! ### Setting and taking -/

namespace Stage

open Service

/-- Setting a challenge does what its call to the store does. -/
lemma issuing_proceed (a : Authority) (e : Email) (c : Challenge) (w : World) :
    ∃ x, Ends (World.guarded .issue (Challenges.issue e c)) w x ((issuing e c).proceed a w).2 := by
  obtain ⟨x, v, run⟩ := Ends.total (World.guarded .issue (Challenges.issue e c)) w
  cases x with
  | ok _ =>
    have on : Ends ((issuing e c).next a) w (.ok (.within (mailing e c))) v :=
      attempt_bind.2 ⟨.ok (), v, run, rfl⟩
    rw [proceed_of_ok on]
    exact ⟨_, run⟩
  | error f =>
    obtain ⟨g, refused⟩ := unexpectedChallenge_ends f v
    have failed : Ends ((issuing e c).next a) w (.error g) v :=
      attempt_bind.2 ⟨.error f, v, run, refused _⟩
    rw [proceed_of_error failed]
    exact ⟨_, run⟩

/-- Taking a challenge goes on if the store answers that it was taken, and fails else. -/
lemma taking_proceed (a : Authority) (e : Email) (c : Challenge) (w : World) :
    ∃ x v, Ends (World.guarded .take (Challenges.take e c)) w x v ∧
      SameBut [] v ((taking e c).proceed a w).2 ∧
      (x = .ok true ∨ ∃ g, ((taking e c).proceed a w).1 = .done (.error g)) := by
  obtain ⟨x, v, run⟩ := Ends.total (World.guarded .take (Challenges.take e c)) w
  refine ⟨x, v, run, ?_⟩
  cases x with
  | error f =>
    obtain ⟨g, refused⟩ := unexpectedChallenge_ends f v
    have failed : Ends ((taking e c).next a) w (.error g) v :=
      attempt_bind.2 ⟨.error f, v, run, refused _⟩
    rw [proceed_of_error failed]
    exact ⟨.refl _ _, .inr ⟨g, rfl⟩⟩
  | ok taken =>
    cases taken with
    | true =>
      have on : Ends ((taking e c).next a) w (.ok (.within (opening e true)))
          (v.noting .info source ("2FA verification succeeded for " ++ e.redacted)) :=
        attempt_bind.2 ⟨.ok true, v, run, rfl⟩
      rw [proceed_of_ok on]
      exact ⟨.noting .., .inl rfl⟩
    | false =>
      have failed : Ends ((taking e c).next a) w
          (.error (.refused (.of .wrongCredentials)))
          (v.noting .info source ("2FA verification failed for " ++ e.redacted)) :=
        attempt_bind.2 ⟨.ok false, v, run, rfl⟩
      rw [proceed_of_error failed]
      exact ⟨.noting .., .inr ⟨_, rfl⟩⟩

end Stage

namespace Hall

variable {a : Authority} {h : Hall} {i : Nat} {r : Request} {e : Email} {c : Challenge} {m : Move}

/-- A move that issues leaves the mark of what the store answers. -/
lemma mark?_issuing (there : h.visits[i]? = some ⟨r, .within (.issuing e c)⟩)
    {x : Except Fault Unit} {v : World}
    (run : Ends (World.guarded .issue (Challenges.issue e c)) h.world x v) :
    h.mark? (.proceed i) = Mark.ofSetting e c x := by
  simp only [mark?, there, show (World.guarded .issue (Challenges.issue e c)).run h.world = (x, v)
    from run]

/-- A move that takes leaves the mark of what the store answers. -/
lemma mark?_taking (there : h.visits[i]? = some ⟨r, .within (.taking e c)⟩)
    {x : Except Fault Bool} {v : World}
    (run : Ends (World.guarded .take (Challenges.take e c)) h.world x v) :
    h.mark? (.proceed i) = Mark.ofTaking e c x := by
  simp only [mark?, there, show (World.guarded .take (Challenges.take e c)).run h.world = (x, v)
    from run]

/-- A call that takes a challenge finds it pending and leaves none for its address; one that does
not take it changes nothing that is told. -/
lemma take_inv {x : Except Fault Bool} {w v : World}
    (run : Ends (World.guarded .take (Challenges.take e c)) w x v) :
    x = .ok true ∧ w.pendingAt w.uptime e c = true ∧ SameBut [.challenges] w v ∧
        w.ChallengeTaken v e ∨
      x ≠ .ok true ∧ SameBut [] w v ∧ (w.pendingAt w.uptime e c = false ∨
        w.outages .take ≠ none ∨ w.keyspace.outages ≠ []) := by
  obtain ⟨f, broken, rfl, rfl⟩ | ⟨_, run⟩ := World.guarded_inv run
  · exact .inr ⟨nofun, .refl _ _, .inr (.inl (by rw [broken]; nofun))⟩
  · obtain taken | ⟨same, ⟨rfl, other⟩ | ⟨⟨_, rfl⟩, broken⟩⟩ := Challenges.take_inv run
    · exact .inl taken
    · exact .inr ⟨nofun, same, .inl other⟩
    · exact .inr ⟨nofun, same, .inr (.inr broken)⟩

/-- What a verification does that is about to take a challenge: nothing to the challenges if its own
is not pending, and if it is it takes it, unless the store fails. -/
lemma taking_step (a : Authority) (there : h.visits[i]? = some ⟨r, .within (.taking e c)⟩) :
    (h.world.pendingAt h.world.uptime e c = true ∧ h.mark? (.proceed i) = some (.taken e c) ∧
        h.world.ChallengeTaken (h.step a (.proceed i)).world e) ∨
      h.mark? (.proceed i) = none ∧ SameBut [] h.world (h.step a (.proceed i)).world ∧
        (h.world.pendingAt h.world.uptime e c = false ∨
          h.world.outages .take ≠ none ∨ h.world.keyspace.outages ≠ []) := by
  obtain ⟨x, v, run, same, _⟩ := Stage.taking_proceed a e c h.world
  rw [mark?_taking there run, step_proceed there]
  obtain ⟨rfl, pending, changed, taken⟩ | ⟨other, kept, trouble⟩ := take_inv run
  · refine .inl ⟨pending, rfl, fun now le f d => ?_⟩
    rw [same.challenges List.not_mem_nil now (by rw [changed.uptime]; exact le), taken now le]
  · refine .inr ⟨?_, kept.trans same, trouble⟩
    cases x with
    | error f => rfl
    | ok taken =>
      cases taken with
      | true => exact absurd rfl other
      | false => rfl

/-- A steady move sets a challenge, or takes one that was pending, or leaves the challenges. -/
lemma challenges_step (a : Authority) (h : Hall) (m : Move) (steady : m.Steady) :
    (∃ e c till, h.mark? m = some (.set e c) ∧
        h.world.ChallengeSet (h.step a m).world e c till) ∨
      (∃ e c, h.mark? m = some (.taken e c) ∧ h.world.pendingAt h.world.uptime e c = true ∧
        h.world.ChallengeTaken (h.step a m).world e) ∨
      h.mark? m = none ∧ ∀ now, h.world.uptime ≤ now → ∀ e c,
        (h.step a m).world.pendingAt now e c = h.world.pendingAt now e c := by
  obtain ⟨r, rfl, moved⟩ | ⟨i, r, s, rfl, there, moved⟩ | ⟨ev, rfl, moved⟩ |
    ⟨i, rfl, idle, moved⟩ := step_inv a h m
  · exact .inr (.inr ⟨rfl, fun now _ e c => by rw [moved]⟩)
  · rw [moved]
    cases s with
    | issuing e c =>
      obtain ⟨x, run⟩ := Stage.issuing_proceed a e c h.world
      have marked := mark?_issuing there run
      obtain ⟨f, _, rfl, same⟩ | ⟨_, run⟩ := World.guarded_inv run
      · exact .inr (.inr ⟨marked, fun now _ e c => by rw [same]⟩)
      · obtain ⟨_, ⟨rfl, set⟩ | ⟨⟨f, rfl⟩, same, _⟩⟩ := Challenges.issue_inv run
        · exact .inl ⟨e, c, _, marked, set⟩
        · exact .inr (.inr ⟨marked, fun now le e c => same.challenges List.not_mem_nil now le e c⟩)
    | taking e c =>
      have stepped := taking_step a there
      rw [moved] at stepped
      obtain ⟨pending, marked, taken⟩ | ⟨unmarked, same, _⟩ := stepped
      · exact .inr (.inl ⟨e, c, marked, pending, taken⟩)
      · exact .inr (.inr ⟨unmarked, fun now le e c => same.challenges List.not_mem_nil now le e c⟩)
    | requiring | registering | checking | lookingUp | drawing | coding | mailing | opening
      | validating | leaving | revoking =>
      refine .inr (.inr ⟨by simp only [mark?, there], fun now le e c => ?_⟩)
      exact (Stage.proceed_keeps a _ h.world).challenges (by simp [Stage.parts]) now le e c
  · rw [moved]
    exact .inr (.inr ⟨rfl, fun now _ e c => (h.world.step_quiet a steady.2).2.1 now e c⟩)
  · refine .inr (.inr ⟨?_, fun now _ e c => by rw [moved]⟩)
    rw [mark?]
    split
    · next there => exact absurd there (idle _ _)
    · next there => exact absurd there (idle _ _)
    · rfl

/-- From a world without challenges, a pending challenge is always one that was set last, so the
marks are orderly. -/
lemma orderly_marks {w : World} (fresh : ∀ now e c, w.pendingAt now e c = false) {ms : List Move}
    (steady : ∀ m ∈ ms, Move.Steady m) :
    Mark.Orderly ((empty w).marks a ms) ∧
      ∀ now, ((empty w).after a ms).world.uptime ≤ now → ∀ e c,
        ((empty w).after a ms).world.pendingAt now e c = true →
          Mark.latest e ((empty w).marks a ms) = some (.set e c) := by
  induction ms using List.reverseRecOn with
  | nil =>
    refine ⟨trivial, fun now _ e c pending => ?_⟩
    rw [show ((empty w).after a []).world = w from rfl, fresh] at pending
    cases pending
  | append_singleton ms m ih =>
    obtain ⟨before, only⟩ := List.forall_mem_append.1 steady
    have last := List.forall_mem_singleton.1 only
    obtain ⟨orderly, set⟩ := ih before
    have forward := @uptime_le_step a ((empty w).after a ms) m last
    rw [marks_snoc, after_snoc]
    obtain ⟨e, c, till, marked, changed⟩ | ⟨e, c, marked, pending, taken⟩ | ⟨unmarked, same⟩ :=
      challenges_step a ((empty w).after a ms) m last
    · rw [marked]
      refine ⟨orderly, fun now le f d pending => ?_⟩
      have le' := Int.le_trans forward le
      rw [changed now le' f d] at pending
      rw [show (some (Mark.set e c)).toList ++ (empty w).marks a ms =
        .set e c :: (empty w).marks a ms from rfl, Mark.latest_set]
      by_cases here : e = f
      · rw [if_pos here] at pending ⊢
        rw [here, (of_decide_eq_true pending).1]
      · rw [if_neg here] at pending ⊢
        exact set now le' f d pending
    · rw [marked]
      refine ⟨⟨set _ (Int.le_refl _) e c pending, orderly⟩, fun now le f d pending' => ?_⟩
      have le' := Int.le_trans forward le
      rw [taken now le' f d] at pending'
      rw [show (some (Mark.taken e c)).toList ++ (empty w).marks a ms =
        .taken e c :: (empty w).marks a ms from rfl, Mark.latest_taken]
      by_cases here : e = f
      · rw [if_pos here] at pending'
        cases pending'
      · rw [if_neg here] at pending' ⊢
        exact set now le' f d pending'
    · rw [unmarked]
      refine ⟨orderly, fun now le f d pending => ?_⟩
      have le' := Int.le_trans forward le
      rw [same now le'] at pending
      exact set now le' f d pending

end Hall

/-! ## Sessions -/

/-- A request to verify a challenge of an address. -/
def Request.verifiesFor (e : Email) : Request → Bool
  | verify email _ _ => (Email.read email).toOption = some e
  | _ => false

namespace Visit

/-- A verification for an address that has opened a session. -/
def opened (e : Email) (v : Visit) : Bool :=
  match v.progress with
  | .done (.ok (.session _)) => v.request.verifiesFor e
  | _ => false

/-- A verification for an address that has taken the challenge and not failed since. -/
def redeemed (e : Email) (v : Visit) : Bool :=
  match v.progress with
  | .within (.opening _ true) | .done (.ok _) => v.request.verifiesFor e
  | _ => false

/-- Who has opened a session has redeemed a challenge. -/
lemma redeemed_of_opened {e : Email} {v : Visit} (h : v.opened e = true) : v.redeemed e = true := by
  rw [opened] at h
  split at h
  · next done =>
    rw [redeemed, done]
    exact h
  · cases h

/-- No verification has redeemed a challenge when it comes in. -/
lemma redeemed_start (e : Email) (r : Request) : redeemed e ⟨r, r.start⟩ = false := by
  have never (p : Progress) (other : r.verifiesFor e = false) : redeemed e ⟨r, p⟩ = false := by
    rw [redeemed]
    split
    · exact other
    · exact other
    · rfl
  cases r with
  | verify email attemptId code =>
    rw [Request.start]
    cases Email.read email with
    | error flaw => rfl
    | ok f =>
      cases AttemptId.read attemptId with
      | error flaw => rfl
      | ok id =>
        cases OneTimeCode.read code with
        | error flaw => rfl
        | ok c => rfl
  | signUp | signIn | signOut | checkToken => exact never _ rfl

end Visit

namespace Hall

variable {a : Authority} {h : Hall} {i : Nat} {r : Request} {e : Email} {c : Challenge} {m : Move}

/-- Only with the mark of a challenge that is taken, a verification comes to have redeemed it. -/
lemma redeemed_step {s : Stage} (there : h.visits[i]? = some ⟨r, .within s⟩)
    (reaches : r.Reaches (.within s))
    (redeemed : Visit.redeemed e ⟨r, (s.proceed a h.world).1⟩ = true) :
    Visit.redeemed e ⟨r, .within s⟩ = true ∨ ∃ c, h.mark? (.proceed i) = some (.taken e c) := by
  have verifies : r.verifiesFor e = true := by
    rw [Visit.redeemed] at redeemed
    split at redeemed
    · exact redeemed
    · exact redeemed
    · cases redeemed
  cases reaches with
  | @taking email _ _ f c address =>
    obtain ⟨x, v, run, _, rfl | ⟨g, failed⟩⟩ := Stage.taking_proceed a f c h.world
    · have same : f = e := by
        rw [Request.verifiesFor, address] at verifies
        exact Option.some.inj (of_decide_eq_true verifies)
      rw [← same]
      exact .inr ⟨c, mark?_taking there run⟩
    · rw [Visit.redeemed, failed] at redeemed
      cases redeemed
  | verified => exact .inl verifies
  | requiring | registering | checking | lookingUp | drawing | coding | issuing | mailing | opening
    | leaving | revoking | validating => cases verifies

/-- There are at least as many marks of challenges that were taken as verifications that have
redeemed one. -/
lemma redeemed_le_taken (w : World) (ms : List Move) (e : Email) :
    ((empty w).after a ms).visits.countP (Visit.redeemed e) ≤
      ((empty w).marks a ms).countP (Mark.takes e) := by
  induction ms using List.reverseRecOn with
  | nil => exact Nat.le_refl _
  | append_singleton ms m ih =>
    have proper : ((empty w).after a ms).Proper := (proper_empty w).after ms
    rw [marks_snoc, after_snoc, List.countP_append]
    obtain ⟨r, rfl, moved⟩ | ⟨i, r, s, rfl, there, moved⟩ | ⟨ev, rfl, moved⟩ | ⟨i, rfl, _, moved⟩ :=
      step_inv a ((empty w).after a ms) m
    · rw [moved, List.countP_append, List.countP_singleton, Visit.redeemed_start]
      simp only [Bool.false_eq_true, if_false]
      omega
    · obtain ⟨bound, here⟩ := List.getElem?_eq_some_iff.1 there
      have reaches := proper _ (List.mem_of_getElem? there)
      have one := List.boole_getElem_le_countP (p := Visit.redeemed e) bound
      rw [moved, List.countP_set bound, here]
      rw [here] at one
      by_cases after : Visit.redeemed e
          ⟨r, (s.proceed a ((empty w).after a ms).world).1⟩ = true
      · rw [if_pos after]
        obtain before | ⟨c, marked⟩ := redeemed_step there reaches after
        · rw [if_pos before] at one ⊢
          omega
        · rw [marked]
          simp [Mark.takes]
          omega
      · rw [if_neg after]
        omega
    · rw [moved]
      exact Nat.le_add_left_of_le ih
    · rw [moved]
      exact Nat.le_add_left_of_le ih

end Hall

/-- However requests are interleaved and whatever fails, from a world without challenges: what is
taken is what was set last for its address, with nothing taken since; one challenge at most is taken
for each that is set; the sessions that verifications of an address open outnumber neither what was
taken nor what was set for it; and a verification that does not name the pending challenge leaves
the challenges as they are, while one that does takes it if the store works. -/
theorem challenge_redeemed_once {a : Authority} {w : World}
    (fresh : ∀ now e c, w.pendingAt now e c = false) {ms : List Move}
    (steady : ∀ m ∈ ms, Move.Steady m) :
    (∀ future e c past, (Hall.empty w).marks a ms = future ++ .taken e c :: past →
        Mark.latest e past = some (.set e c)) ∧
      (∀ future since e c past,
        (Hall.empty w).marks a ms = future ++ (since ++ .set e c :: past) →
          (∀ d, .set e d ∉ since) → since.countP (Mark.takes e) ≤ 1) ∧
      (∀ e, ((Hall.empty w).after a ms).visits.countP (Visit.opened e) ≤
          ((Hall.empty w).marks a ms).countP (Mark.takes e) ∧
        ((Hall.empty w).marks a ms).countP (Mark.takes e) ≤
          ((Hall.empty w).marks a ms).countP (Mark.sets e)) ∧
      ∀ h, h = (Hall.empty w).after a ms → ∀ i r e c,
        h.visits[i]? = some ⟨r, .within (.taking e c)⟩ →
          (h.world.pendingAt h.world.uptime e c = false → h.mark? (.proceed i) = none ∧
            ∀ now, h.world.uptime ≤ now → ∀ f d,
              (h.step a (.proceed i)).world.pendingAt now f d = h.world.pendingAt now f d) ∧
          (h.world.pendingAt h.world.uptime e c = true → h.world.outages .take = none →
            h.world.keyspace.outages = [] → h.mark? (.proceed i) = some (.taken e c)) := by
  obtain ⟨orderly, _⟩ := Hall.orderly_marks (a := a) fresh steady
  refine ⟨fun future e c past split => ?_, fun future since e c past split only => ?_,
    fun e => ⟨?_, (orderly.count_le e).1⟩, fun h _ i r e c there => ⟨?_, ?_⟩⟩
  · rw [split] at orderly
    exact orderly.latest_of_taken
  · rw [split] at orderly
    exact orderly.of_append.count_since_le only
  · have opened := List.countP_mono_left (l := ((Hall.empty w).after a ms).visits) fun v _ =>
      Visit.redeemed_of_opened (e := e) (v := v)
    exact Nat.le_trans opened (Hall.redeemed_le_taken w ms e)
  · intro other
    obtain ⟨pending, _⟩ | ⟨unmarked, same, _⟩ := Hall.taking_step a there
    · rw [pending] at other
      cases other
    · exact ⟨unmarked, fun now le f d => same.challenges List.not_mem_nil now le f d⟩
  · intro pending order served
    obtain ⟨_, marked, _⟩ | ⟨_, _, other | broken | broken⟩ := Hall.taking_step a there
    · exact marked
    · rw [pending] at other
      cases other
    · exact absurd order broken
    · exact absurd served broken

/-! ## A sample -/

/-- A user signs up with a second factor and signs in, and then two verifications of the challenge
take turns. -/
def sampleTurns : List Move :=
  [.arrive (.signUp (some "a@x.com") (some "password") true), .proceed 0, .proceed 0,
    .arrive (.signIn (some "a@x.com") (some "password")), .proceed 1, .proceed 1, .proceed 1,
    .proceed 1, .proceed 1, .proceed 1,
    .arrive sampleVerification, .arrive sampleVerification, .proceed 2, .proceed 3, .proceed 2]

/-- In the turns of the sample the monotonic clock does not go back. -/
lemma sampleTurns_steady : ∀ m ∈ sampleTurns, Move.Steady m := by
  simp [sampleTurns, Move.Steady]

/-- One of the two verifications opens a session. -/
example : ((Hall.empty .sample).after .sample sampleTurns).visits.countP
    (Visit.opened ⟨"a@x.com", by decide⟩) = 1 := by rfl

/-- In the turns of the sample each challenge is redeemed once at most. -/
theorem challenge_redeemed_once_sample :
    (∀ now e c, World.sample.pendingAt now e c = false) ∧ (∀ m ∈ sampleTurns, Move.Steady m) ∧
      (∀ future e c past,
        (Hall.empty .sample).marks .sample sampleTurns = future ++ .taken e c :: past →
          Mark.latest e past = some (.set e c)) ∧
      (∀ future since e c past,
        (Hall.empty .sample).marks .sample sampleTurns = future ++ (since ++ .set e c :: past) →
          (∀ d, .set e d ∉ since) → since.countP (Mark.takes e) ≤ 1) ∧
      (∀ e, ((Hall.empty .sample).after .sample sampleTurns).visits.countP (Visit.opened e) ≤
          ((Hall.empty .sample).marks .sample sampleTurns).countP (Mark.takes e) ∧
        ((Hall.empty .sample).marks .sample sampleTurns).countP (Mark.takes e) ≤
          ((Hall.empty .sample).marks .sample sampleTurns).countP (Mark.sets e)) ∧
      ∀ h, h = (Hall.empty .sample).after .sample sampleTurns → ∀ i r e c,
        h.visits[i]? = some ⟨r, .within (.taking e c)⟩ →
          (h.world.pendingAt h.world.uptime e c = false → h.mark? (.proceed i) = none ∧
            ∀ now, h.world.uptime ≤ now → ∀ f d,
              (h.step .sample (.proceed i)).world.pendingAt now f d = h.world.pendingAt now f d) ∧
          (h.world.pendingAt h.world.uptime e c = true → h.world.outages .take = none →
            h.world.keyspace.outages = [] → h.mark? (.proceed i) = some (.taken e c)) :=
  ⟨sample_fresh.unchallenged, sampleTurns_steady,
    challenge_redeemed_once sample_fresh.unchallenged sampleTurns_steady⟩

end SignIn
