import SignIn.Proofs.Interleaving

/-!
# Registration

However requests are interleaved, an address is registered once. A signing up looks for the address
first and adds the user later, and in between another may have added one; but adding refuses an
address that is taken. So as long as nobody is found under an address, no signing up for it is over;
the one that comes first to add its user wins, and all others are refused (`Hall.Won`).
-/

namespace SignIn

open World

/-- A signing up for an address, with a password that is one and that can be kept. -/
def Request.SignsUp (canKeep : Password → Bool) (e : Email) : Request → Prop
  | signUp email password _ => Email.read email = .ok e ∧
      ∃ p, Password.read password = .ok p ∧ canKeep p = true
  | _ => False

/-- Nothing happens that keeps accounts from being looked up and added, and every request comes in
and proceeds by stages. -/
def Move.SparesAccounts : Move → Prop
  | happen (.outages o) => o .lookUp = none ∧ o .add = none
  | happen (.request _) | happen .close => False
  | happen (.advance ..) | happen (.server _) | arrive _ | proceed _ => True

/-- A world in which accounts can be looked up and added. -/
structure World.KeepsAccounts (w : World) : Prop where
  present : w.accounts.arePresent = true
  lookUp : w.outages .lookUp = none
  add : w.outages .add = none

/-- A world that differs in some parts only keeps accounts still. -/
lemma World.KeepsAccounts.of_sameBut {parts : List Part} {w w' : World} (h : w.KeepsAccounts)
    (same : SameBut parts w w') : w'.KeepsAccounts where
  present := same.present.trans h.present
  lookUp := by rw [same.outages]; exact h.lookUp
  add := by rw [same.outages]; exact h.add

/-- The refusal of an address that is taken. -/
def Progress.IsTaken (p : Progress) : Prop :=
  ∃ because, p = .done (.error (.refused (.of .alreadyRegistered because)))

/-- A signing up for an address is not over. -/
def Progress.IsUnderWay (e : Email) (p : Progress) : Prop :=
  ∃ u : User, u.email = e ∧ (p = .within (.requiring u) ∨ p = .within (.registering u))

/-! ## Stages of signing up -/

namespace Stage

variable {a : Authority} {w : World} {u : User} {e : Email}

/-- Requiring an address goes on if nobody is found under it, and is refused if somebody is. -/
lemma requiring_proceed (a : Authority) (keeps : w.KeepsAccounts) :
    (w.accounts.read u.email = .error (.account .unknown) →
        ((requiring u).proceed a w).1 = .within (registering u)) ∧
      ∀ u', w.accounts.read u.email = .ok u' → ((requiring u).proceed a w).1.IsTaken := by
  obtain ⟨r, v, run⟩ := Ends.total (Accounts.lookUp u.email) w
  obtain ⟨told, _⟩ := Accounts.lookUp_inv run
  have looked := World.guarded_of_none keeps.lookUp run
  constructor
  · intro free
    rw [free] at told
    subst told
    have on : Ends ((requiring u).next a) w (.ok (.within (registering u))) v :=
      Ends.bind (Service.attempt_bind.2 ⟨_, v, looked, rfl⟩) rfl
    rw [proceed_of_ok on]
  · intro u' taken
    rw [taken] at told
    subst told
    have refused : Ends ((requiring u).next a) w
        (.error (.refused (.of .alreadyRegistered))) v :=
      Ends.bind_error _ (Service.attempt_bind.2 ⟨_, v, looked, rfl⟩)
    rw [proceed_of_error refused]
    exact ⟨_, rfl⟩

/-- Registering a user whose password can be kept makes the user be found if nobody is found under
the address, and is refused if somebody is. -/
lemma registering_proceed (a : Authority) (keeps : w.KeepsAccounts)
    (kept : w.accounts.canKeep u.password = true) :
    (w.accounts.read u.email = .error (.account .unknown) →
        ((registering u).proceed a w).1 = .done (.ok (.user u)) ∧ ∀ e,
          ((registering u).proceed a w).2.accounts.read e =
            if u.email = e then .ok u else w.accounts.read e) ∧
      ∀ u', w.accounts.read u.email = .ok u' → ((registering u).proceed a w).1.IsTaken := by
  obtain ⟨r, v, run⟩ := Ends.total (Accounts.add u) w
  have added := World.guarded_of_none keeps.add run
  obtain ⟨_, ⟨rfl, _, free, found⟩ | ⟨_, ⟨⟨cause, rfl⟩, taken⟩ | ⟨_, absent⟩ | ⟨_, _, torn⟩⟩⟩ :=
    Accounts.add_inv run
  · have done : Ends ((registering u).next a) w (.ok (.done (.ok (.user u))))
        (v.noting .info Service.source ("User created: " ++ u.email.redacted ++ " (2fa=" ++
          User.truthWord u.secondFactor ++ ")")) :=
      Ends.bind (Service.attempt_bind.2 ⟨_, v, added, rfl⟩) rfl
    rw [proceed_of_ok done]
    refine ⟨fun _ => ⟨rfl, found⟩, fun u' taken => ?_⟩
    rw [free] at taken
    cases taken
  · have refused : Ends ((registering u).next a) w
        (.error (.refused (.of .alreadyRegistered (some (.account .taken cause))))) v :=
      Ends.bind_error _ (Service.attempt_bind.2 ⟨_, v, added, rfl⟩)
    rw [proceed_of_error refused]
    exact ⟨fun free => absurd free taken, fun _ _ => ⟨_, rfl⟩⟩
  · rw [keeps.present] at absent
    cases absent
  · rw [kept] at torn
    cases torn

/-- Registering a user adds the user at a free address, or changes no account. -/
lemma read_registering (a : Authority) (u : User) (w : World) :
    (w.accounts.canKeep u.password = true ∧
        w.accounts.read u.email = .error (.account .unknown) ∧
        ∀ e, ((registering u).proceed a w).2.accounts.read e =
          if u.email = e then .ok u else w.accounts.read e) ∨
      ((registering u).proceed a w).2.accounts = w.accounts := by
  have registered {r : Except Failure Progress} {v : World}
      (run : Ends ((registering u).next a) w r v) :
      (w.accounts.canKeep u.password = true ∧
        w.accounts.read u.email = .error (.account .unknown) ∧
        ∀ e, v.accounts.read e = if u.email = e then .ok u else w.accounts.read e) ∨
        v.accounts = w.accounts := by
    obtain ⟨_, v', added, rest⟩ | ⟨_, added, _⟩ := run.bind_inv
    · rw [Service.log_bind] at rest
      obtain ⟨_, rfl⟩ := Ends.pure_inv rest
      obtain ⟨_, ⟨_, here⟩ | ⟨_, same⟩⟩ := Service.register_inv added
      · exact .inl here
      · exact .inr same
    · obtain ⟨_, ⟨_, here⟩ | ⟨_, same⟩⟩ := Service.register_inv added
      · exact .inl here
      · exact .inr same
  obtain run | ⟨_, run, _⟩ :=
    proceed_inv (show (registering u).proceed a w = (_, ((registering u).proceed a w).2) from rfl)
  · exact registered run
  · exact registered run

/-- A stage changes who is found under an address only by registering a user for it whose password
can be kept. -/
lemma read_proceed (a : Authority) (s : Stage) (w : World)
    (other : ∀ u, s = registering u → w.accounts.canKeep u.password = true → u.email ≠ e) :
    (s.proceed a w).2.accounts.read e = w.accounts.read e := by
  cases s with
  | registering u =>
    obtain ⟨kept, _, found⟩ | same := read_registering a u w
    · rw [found, if_neg (other u rfl kept)]
    · rw [same]
  | requiring | checking | lookingUp | drawing | coding | issuing | mailing | taking | opening
    | validating | leaving | revoking =>
    rw [(proceed_keeps a _ w).accounts (by simp [parts])]

/-- Whoever is found under an address stays to be found. -/
lemma read_proceed_of_ok (a : Authority) (s : Stage) (found : w.accounts.read e = .ok u) :
    (s.proceed a w).2.accounts.read e = .ok u := by
  cases s with
  | registering u' =>
    obtain ⟨_, free, added⟩ | same := read_registering a u' w
    · rw [added, if_neg, found]
      rintro rfl
      rw [free] at found
      cases found
    · rw [same, found]
  | requiring | checking | lookingUp | drawing | coding | issuing | mailing | taking | opening
    | validating | leaving | revoking =>
    rw [(proceed_keeps a _ w).accounts (by simp [parts]), found]

end Stage

/-- The user of a request has signed up: the visit has ended so, the user is found, and every other
signing up for the address is under way or was refused. -/
structure Hall.Won (h : Hall) (j : Nat) (u : User) : Prop where
  visit : ∃ email password, Email.read email = .ok u.email ∧
    Password.read password = .ok u.password ∧
    h.visits[j]? = some ⟨.signUp email password u.secondFactor, .done (.ok (.user u))⟩
  found : h.world.accounts.read u.email = .ok u
  others : ∀ i v, h.visits[i]? = some v → i ≠ j →
    v.request.SignsUp h.world.accounts.canKeep u.email →
      v.progress.IsUnderWay u.email ∨ v.progress.IsTaken

/-- Nobody is found under an address, and every signing up for it is under way. -/
structure Hall.Free (h : Hall) (e : Email) : Prop where
  unknown : h.world.accounts.read e = .error (.account .unknown)
  underWay : ∀ (i : Nat) v, h.visits[i]? = some v → v.request.SignsUp h.world.accounts.canKeep e →
    v.progress.IsUnderWay e

namespace Hall

variable {a : Authority} {h : Hall} {e : Email} {m : Move} {canKeep : Password → Bool}

/-- A signing up for an address is under way when it comes in. -/
lemma underWay_start {r : Request} (signs : r.SignsUp canKeep e) : r.start.IsUnderWay e := by
  cases r with
  | signUp email password secondFactor =>
    obtain ⟨address, p, word, _⟩ := signs
    refine ⟨⟨e, p, secondFactor⟩, rfl, .inl ?_⟩
    rw [Request.start, address, word]
    rfl
  | signIn | verify | signOut | checkToken => cases signs

/-- The stages of a signing up for an address are requiring and registering a user of the address,
whose password can be kept. -/
lemma underWay_within {r : Request} {s : Stage} (signs : r.SignsUp canKeep e)
    (reaches : r.Reaches (.within s)) : ∃ u : User, u.email = e ∧ canKeep u.password = true ∧
      (s = .requiring u ∨ s = .registering u) := by
  have same {u : User} {email : Field} {password : SecretField} {secondFactor : Bool}
      (signs : (Request.signUp email password secondFactor).SignsUp canKeep e)
      (address : Email.read email = .ok u.email) (word : Password.read password = .ok u.password) :
      u.email = e ∧ canKeep u.password = true := by
    obtain ⟨address', p, word', kept⟩ := signs
    rw [Except.ok.inj (word.symm.trans word')]
    exact ⟨Except.ok.inj (address.symm.trans address'), kept⟩
  cases reaches with
  | @requiring email password u address word =>
    obtain ⟨own, kept⟩ := same signs address word
    exact ⟨u, own, kept, .inl rfl⟩
  | @registering email password u address word =>
    obtain ⟨own, kept⟩ := same signs address word
    exact ⟨u, own, kept, .inr rfl⟩
  | checking | lookingUp | drawing | coding | issuing | mailing | opening | taking | verified
    | leaving | revoking | validating => cases signs

/-- A move that spares the accounts leaves them kept. -/
lemma keepsAccounts_step (keeps : h.world.KeepsAccounts) (spares : m.SparesAccounts) :
    (h.step a m).world.KeepsAccounts := by
  obtain ⟨r, rfl, moved⟩ | ⟨i, r, s, rfl, there, moved⟩ | ⟨ev, rfl, moved⟩ | ⟨i, rfl, _, moved⟩ :=
    step_inv a h m
  · rw [moved]
    exact keeps
  · rw [moved]
    exact keeps.of_sameBut (s.proceed_keeps a h.world)
  · rw [moved]
    cases ev with
    | request | close => cases spares
    | advance | server => exact ⟨keeps.present, keeps.lookUp, keeps.add⟩
    | outages o => exact ⟨keeps.present, spares.1, spares.2⟩
  · rw [moved]
    exact keeps

/-- An event that spares the accounts leaves them as they were. -/
lemma read_happen {w : World} {ev : Event} (spares : (Move.happen ev).SparesAccounts) :
    (w.step a ev).accounts = w.accounts := by
  cases ev with
  | request | close => cases spares
  | advance | server | outages => rfl

/-- No move changes which passwords can be kept. -/
lemma canKeep_step (spares : m.SparesAccounts) :
    (h.step a m).world.accounts.canKeep = h.world.accounts.canKeep := by
  obtain ⟨r, rfl, moved⟩ | ⟨i, r, s, rfl, _, moved⟩ | ⟨ev, rfl, moved⟩ | ⟨i, rfl, _, moved⟩ :=
    step_inv a h m
  · rw [moved]
  · rw [moved, (s.proceed_keeps a h.world).keeping]
  · rw [moved, read_happen spares]
  · rw [moved]

/-- No moves change which passwords can be kept. -/
lemma canKeep_after {ms : List Move} (spares : ∀ m ∈ ms, Move.SparesAccounts m) :
    (h.after a ms).world.accounts.canKeep = h.world.accounts.canKeep := by
  induction ms generalizing h with
  | nil => rfl
  | cons m ms ih =>
    obtain ⟨first, rest⟩ := List.forall_mem_cons.1 spares
    exact (ih rest).trans (canKeep_step first)

/-- A visit after a request has come in is one of before, or that of the request. -/
lemma visit_arrive {vs : List Visit} {v v' : Visit} {i : Nat} (there : (vs ++ [v])[i]? = some v') :
    vs[i]? = some v' ∨ v' = v := by
  rw [List.getElem?_append] at there
  split at there
  · exact .inl there
  · exact .inr (List.mem_singleton.1 (List.mem_of_getElem? there))

/-- A visit after one has moved on is one of before, or the one that has moved on. -/
lemma visit_proceed {vs : List Visit} {v v' : Visit} {i k : Nat}
    (there : (vs.set i v)[k]? = some v') : vs[k]? = some v' ∧ k ≠ i ∨ v' = v ∧ k = i := by
  by_cases same : k = i
  · subst same
    obtain ⟨bound, here⟩ := List.getElem?_eq_some_iff.1 there
    rw [List.getElem_set_self] at here
    exact .inr ⟨here.symm, rfl⟩
  · rw [List.getElem?_set_ne (Ne.symm same)] at there
    exact .inl ⟨there, same⟩

/-- A hall in which accounts are kept and every visit stands where its request may stand. -/
structure Sound (h : Hall) : Prop where
  proper : h.Proper
  keeps : h.world.KeepsAccounts

/-- A move that spares the accounts leaves a hall sound. -/
lemma Sound.step (sound : h.Sound) (spares : m.SparesAccounts) : (h.step a m).Sound :=
  ⟨sound.proper.step m, keepsAccounts_step sound.keeps spares⟩

/-- Moves that spare the accounts leave a hall sound. -/
lemma Sound.after (sound : h.Sound) {ms : List Move} (spares : ∀ m ∈ ms, Move.SparesAccounts m) :
    (h.after a ms).Sound := by
  induction ms generalizing h with
  | nil => exact sound
  | cons m ms ih =>
    obtain ⟨first, rest⟩ := List.forall_mem_cons.1 spares
    exact ih (sound.step first) rest

section Proceeding

variable {i : Nat} {r : Request} {s : Stage} {u : User}

/-- An address stays free if the visit that moves on adds no user for it, and does not come to its
end if it signs up for it. -/
lemma Free.proceed (free : h.Free e)
    (unread : (s.proceed a h.world).2.accounts.read e = h.world.accounts.read e)
    (stays : r.SignsUp h.world.accounts.canKeep e → (s.proceed a h.world).1.IsUnderWay e) :
    Free ⟨(s.proceed a h.world).2, h.visits.set i ⟨r, (s.proceed a h.world).1⟩⟩ e := by
  refine ⟨unread.trans free.unknown, fun k v here signs => ?_⟩
  rw [(s.proceed_keeps a h.world).keeping] at signs
  obtain ⟨here, _⟩ | ⟨rfl, _⟩ := visit_proceed here
  · exact free.underWay k v here signs
  · exact stays signs

/-- The first to add its user wins. -/
lemma Free.registering (free : h.Free u.email) (keeps : h.world.KeepsAccounts)
    (kept : h.world.accounts.canKeep u.password = true)
    (there : h.visits[i]? = some ⟨r, .within (.registering u)⟩)
    (reaches : r.Reaches (.within (.registering u))) :
    Won ⟨((Stage.registering u).proceed a h.world).2,
      h.visits.set i ⟨r, ((Stage.registering u).proceed a h.world).1⟩⟩ i u := by
  obtain ⟨ended, found⟩ := (Stage.registering_proceed a keeps kept).1 free.unknown
  refine ⟨?_, ?_, fun k v here apart signs => ?_⟩
  · cases reaches with
    | @registering email password _ address word =>
      refine ⟨email, password, address, word, ?_⟩
      rw [List.getElem?_set_self (List.getElem?_eq_some_iff.1 there).1, ended]
  · rw [found, if_pos rfl]
  · rw [(Stage.proceed_keeps a _ h.world).keeping] at signs
    obtain ⟨here, _⟩ | ⟨_, same⟩ := visit_proceed here
    · exact .inl (free.underWay k v here signs)
    · exact absurd same apart

end Proceeding

/-- As long as nobody has signed up, every move leaves the address free or registers it. -/
lemma Free.step (free : h.Free e) (sound : h.Sound) (spares : m.SparesAccounts) :
    (h.step a m).Free e ∨ ∃ j u, u.email = e ∧ (h.step a m).Won j u := by
  obtain ⟨r, rfl, moved⟩ | ⟨i, r, s, rfl, there, moved⟩ | ⟨ev, rfl, moved⟩ | ⟨i, rfl, _, moved⟩ :=
    step_inv a h m
  · rw [moved]
    refine .inl ⟨free.unknown, fun k v here signs => ?_⟩
    obtain here | rfl := visit_arrive here
    · exact free.underWay k v here signs
    · exact underWay_start signs
  · rw [moved]
    have reaches := sound.proper _ (List.mem_of_getElem? there)
    by_cases signs : r.SignsUp h.world.accounts.canKeep e
    · obtain ⟨u, rfl, kept, rfl | rfl⟩ := underWay_within signs reaches
      · have unread : ((Stage.requiring u).proceed a h.world).2.accounts.read u.email =
            h.world.accounts.read u.email := Stage.read_proceed a _ _ fun _ same => by cases same
        have on := (Stage.requiring_proceed a sound.keeps).1 free.unknown
        exact .inl (free.proceed unread fun _ => ⟨u, rfl, .inr on⟩)
      · exact .inr ⟨i, u, rfl, free.registering sound.keeps kept there reaches⟩
    · refine .inl (free.proceed (Stage.read_proceed a s _ ?_) fun own => absurd own signs)
      rintro u rfl kept rfl
      cases reaches with
      | registering address word => exact signs ⟨address, _, word, kept⟩
  · rw [moved]
    have same := read_happen (w := h.world) (a := a) spares
    refine .inl ⟨?_, ?_⟩
    · rw [same]
      exact free.unknown
    · rw [same]
      exact free.underWay
  · rw [moved]
    exact .inl free

/-- Who has signed up stays so, and every other signing up for the address is refused. -/
lemma Won.step {j : Nat} {u : User} (won : h.Won j u) (sound : h.Sound)
    (spares : m.SparesAccounts) : (h.step a m).Won j u := by
  obtain ⟨email, password, address, word, mine⟩ := won.visit
  obtain ⟨r, rfl, moved⟩ | ⟨i, r, s, rfl, there, moved⟩ | ⟨ev, rfl, moved⟩ | ⟨i, rfl, _, moved⟩ :=
    step_inv a h m
  · rw [moved]
    refine ⟨⟨email, password, address, word, ?_⟩, won.found, fun k v here apart signs => ?_⟩
    · rw [List.getElem?_append_left (List.getElem?_eq_some_iff.1 mine).1]
      exact mine
    · obtain here | rfl := visit_arrive here
      · exact won.others k v here apart signs
      · exact .inl (underWay_start signs)
  · rw [moved]
    have reaches := sound.proper _ (List.mem_of_getElem? there)
    have apart : i ≠ j := by
      rintro rfl
      rw [mine] at there
      cases there
    refine ⟨⟨email, password, address, word, ?_⟩,
      Stage.read_proceed_of_ok a s won.found, fun k v here other signs => ?_⟩
    · rw [List.getElem?_set_ne apart]
      exact mine
    · rw [(s.proceed_keeps a h.world).keeping] at signs
      obtain ⟨here, _⟩ | ⟨rfl, _⟩ := visit_proceed here
      · exact won.others k v here other signs
      · obtain ⟨u', own, kept, rfl | rfl⟩ := underWay_within signs reaches
        · exact .inr ((Stage.requiring_proceed a sound.keeps).2 u (by rw [own]; exact won.found))
        · exact .inr ((Stage.registering_proceed a sound.keeps kept).2 u
            (by rw [own]; exact won.found))
  · rw [moved]
    have same := read_happen (w := h.world) (a := a) spares
    refine ⟨⟨email, password, address, word, mine⟩, ?_, ?_⟩
    · rw [same]
      exact won.found
    · rw [same]
      exact won.others
  · rw [moved]
    exact won

/-- Who has won stays the winner. -/
lemma Won.after {j : Nat} {u : User} (won : h.Won j u) (sound : h.Sound) {ms : List Move}
    (spares : ∀ m ∈ ms, Move.SparesAccounts m) : (h.after a ms).Won j u := by
  induction ms generalizing h with
  | nil => exact won
  | cons m ms ih =>
    obtain ⟨first, rest⟩ := List.forall_mem_cons.1 spares
    exact ih (won.step sound first) (sound.step first) rest

/-- An address that was free is free still, or somebody has won it. -/
lemma Free.after (free : h.Free e) (sound : h.Sound) {ms : List Move}
    (spares : ∀ m ∈ ms, Move.SparesAccounts m) :
    (h.after a ms).Free e ∨ ∃ j u, u.email = e ∧ (h.after a ms).Won j u := by
  induction ms generalizing h with
  | nil => exact .inl free
  | cons m ms ih =>
    obtain ⟨first, rest⟩ := List.forall_mem_cons.1 spares
    obtain free | ⟨j, u, own, won⟩ := free.step (a := a) sound first
    · exact ih free (sound.step first) rest
    · exact .inr ⟨j, u, own, won.after (sound.step first) rest⟩

end Hall

/-- However requests are interleaved, if nobody was found under an address to begin with and a
signing up for it is over, then exactly one has signed up: its user is found, now and ever after,
and every other signing up for the address is under way or was refused because the address is taken.
-/
theorem signUp_once {a : Authority} {w : World} {e : Email} (keeps : w.KeepsAccounts)
    (unknown : w.accounts.read e = .error (.account .unknown)) {ms : List Move}
    (spares : ∀ m ∈ ms, Move.SparesAccounts m) {i : Nat} {r : Request}
    {x : Except Failure Answer}
    (ended : ((Hall.empty w).after a ms).visits[i]? = some ⟨r, .done x⟩)
    (signs : r.SignsUp w.accounts.canKeep e) :
    ∃ j u, u.email = e ∧ ∀ ns, (∀ m ∈ ns, Move.SparesAccounts m) →
      ((Hall.empty w).after a (ms ++ ns)).Won j u := by
  have free : (Hall.empty w).Free e := by
    refine ⟨unknown, fun i v here => ?_⟩
    rw [show (Hall.empty w).visits = [] from rfl, List.getElem?_nil] at here
    cases here
  have sound : (Hall.empty w).Sound := ⟨Hall.proper_empty w, keeps⟩
  obtain free | ⟨j, u, own, won⟩ := free.after (a := a) sound spares
  · have kept : ((Hall.empty w).after a ms).world.accounts.canKeep = w.accounts.canKeep :=
      Hall.canKeep_after spares
    rw [← kept] at signs
    obtain ⟨u, _, same | same⟩ := free.underWay i _ ended signs
    · cases same
    · cases same
  · refine ⟨j, u, own, fun ns spares' => ?_⟩
    rw [Hall.after_append]
    exact won.after (sound.after spares) spares'

/-! ## A sample -/

/-- Two callers sign up for one address, and the second adds its user first. -/
def sampleRace : List Move :=
  [.arrive (.signUp (some "a@x.com") (some "password") false),
    .arrive (.signUp (some "a@x.com") (some "another word") true),
    .proceed 0, .proceed 1, .proceed 1, .proceed 0]

/-- Of the two callers of the sample, the second has won. -/
theorem signUp_once_sample : ∃ (e : Email) (i : Nat) (r : Request) (x : Except Failure Answer),
    World.sample.KeepsAccounts ∧
      World.sample.accounts.read e = .error (.account .unknown) ∧
      (∀ m ∈ sampleRace, Move.SparesAccounts m) ∧
      ((Hall.empty .sample).after .sample sampleRace).visits[i]? = some ⟨r, .done x⟩ ∧
      r.SignsUp World.sample.accounts.canKeep e ∧
      ∃ j u, u.email = e ∧ ∀ ns, (∀ m ∈ ns, Move.SparesAccounts m) →
        ((Hall.empty .sample).after .sample (sampleRace ++ ns)).Won j u := by
  have keeps : World.sample.KeepsAccounts := ⟨rfl, rfl, rfl⟩
  have spares : ∀ m ∈ sampleRace, Move.SparesAccounts m := by
    simp [sampleRace, Move.SparesAccounts]
  have signs : (Request.signUp (some "a@x.com") (some "password") false).SignsUp
      World.sample.accounts.canKeep ⟨"a@x.com", by decide⟩ := ⟨rfl, _, rfl, rfl⟩
  have ended : ((Hall.empty .sample).after .sample sampleRace).visits[0]? =
      some ⟨.signUp (some "a@x.com") (some "password") false, .done (.error (.refused
        (.of .alreadyRegistered (some (.account .taken)))))⟩ := rfl
  exact ⟨_, 0, _, _, keeps, rfl, spares, ended, signs, signUp_once keeps rfl spares ended signs⟩

end SignIn
