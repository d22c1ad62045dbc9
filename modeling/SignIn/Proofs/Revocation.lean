import SignIn.Proofs.Run

/-!
# Revocation

What signing out does to a token along every run in which the two clocks move together. The ban is
counted from the full second of the wall clock, but it starts within that second, while the token
still opens throughout the second in which it expires. So the ban ends too early by the part of a
second that had passed at the time of signing out: the token is good again from then to the end of
its last second. Only if it is signed out within its last second, it never comes back.
-/

namespace SignIn

open World Token

variable {a : Authority} {t : String} {e : Email} {expiry : Int} {w w' v : World}

/-- A token is accepted: checking it or signing out with it succeeds. -/
def Accepts (a : Authority) (w : World) (t : String) : Prop :=
  (∃ e v, Ends (Service.checkToken a t) w (.ok e) v) ∨
    ∃ v, Ends (Service.signOut a (some t)) w (.ok ()) v

/-- The later world is in the second in which a token expires, at a point of the second that had
been reached when the token was signed out in an earlier second. -/
structure InGap (w : World) (expiry : Int) (v : World) : Prop where
  before : w.wallSeconds < expiry
  last : v.wallSeconds = expiry
  late : w.wall - 1000 * w.wallSeconds ≤ v.wall - 1000 * expiry

/-- The wall clock shows the second that it is in. -/
lemma World.wallSeconds_spec (w : World) :
    1000 * w.wallSeconds ≤ w.wall ∧ w.wall < 1000 * w.wallSeconds + 1000 := by
  rw [World.wallSeconds, Int.fdiv_eq_ediv_of_nonneg _ (by decide)]
  omega

/-! ## Accepted tokens -/

/-- A token that is accepted opens and is not banned. -/
lemma Accepts.inv (h : Accepts a w t) :
    ∃ f, a.openAt w.wallSeconds t = .ok f ∧ w.bannedAt w.uptime t = false := by
  have checked : ∃ f v, Ends (Service.checkToken a t) w (.ok f) v := by
    obtain checked | ⟨v, ended⟩ := h
    · exact checked
    · obtain ⟨u, same, _, checked, _⟩ | ⟨⟨_, told⟩, _⟩ := Service.signOut_inv ended
      · cases same
        exact checked
      · cases told
  obtain ⟨f, v, run⟩ := checked
  exact ⟨f, Service.checkToken_inv run⟩

/-- A token that opens and is not banned is accepted if its ban can be asked for. -/
lemma exists_checkToken {f : Email} (opened : a.openAt w.wallSeconds t = .ok f)
    (unbanned : w.bannedAt w.uptime t = false) (order : w.outages .isBanned = none)
    (served : w.keyspace.outages = []) : ∃ v, Ends (Service.checkToken a t) w (.ok f) v := by
  obtain ⟨r, v, run⟩ := Ends.total (Bans.contains t) w
  obtain ⟨_, rfl | ⟨_, broken⟩⟩ := Bans.contains_inv run
  · rw [unbanned] at run
    have asked := World.guarded_of_none order run
    exact ⟨v, Service.checkToken_ok_iff.2 (Authority.validate_ok_iff.2 ⟨opened, asked⟩)⟩
  · exact absurd served broken

/-! ## Runs after a ban -/

/-- What holds in every world after a token was banned till some instant, as long as the clocks
move together: either the instant has come, or the token is banned until then. -/
structure SinceBan (w v : World) (t : String) (till : Int) : Prop where
  pace : v.wall - w.wall = v.uptime - w.uptime
  forward : w.uptime ≤ v.uptime
  banned : till ≤ v.uptime ∨ ∀ now, v.uptime ≤ now → now < till → v.bannedAt now t = true

/-- A step keeps what holds since a ban: a token that is banned cannot be signed out again. -/
lemma SinceBan.step {till : Int} (h : SinceBan w v t till) {ev : Event} (paced : ev.KeepsPace) :
    SinceBan w (v.step a ev) t till := by
  have steady := v.uptime_le_step a paced.steady
  have clocks : (v.step a ev).wall - w.wall = (v.step a ev).uptime - w.uptime := by
    cases ev with
    | advance wall uptime =>
      have pace := h.pace
      have together : wall = uptime := paced.1
      show v.wall + wall - w.wall = v.uptime + uptime - w.uptime
      omega
    | request | outages | server | close =>
      rw [(v.step_clocks a (by nofun)).1, (v.step_clocks a (by nofun)).2]
      exact h.pace
  refine ⟨clocks, Int.le_trans h.forward steady, ?_⟩
  obtain lapsed | banned := h.banned
  · exact .inl (Int.le_trans lapsed steady)
  · by_cases again : ev = .request (.signOut (some t))
    · subst again
      obtain ⟨x, v', run⟩ := Ends.total ((Request.signOut (some t)).op a) v
      rw [run.step]
      obtain ⟨s, run, _⟩ := run.map_inv
      -- signing out checks the token first, so it fails while the ban lasts
      obtain ⟨u, same, told, checked, _⟩ | ⟨_, same⟩ := Service.signOut_inv run
      · cases same
        obtain ⟨_, _, unbanned⟩ := Accepts.inv (.inl checked)
        have clock := (Service.signOut_keeps a _ run).uptime
        by_cases lapsed : till ≤ v.uptime
        · rw [clock]
          exact .inl lapsed
        · rw [banned v.uptime (Int.le_refl _) (by omega)] at unbanned
          cases unbanned
      · refine .inr fun now le early => ?_
        rw [same.uptime] at le
        rw [same.bans List.not_mem_nil now le]
        exact banned now le early
    · refine .inr fun now le early => ?_
      have le' := Int.le_trans steady le
      rw [v.step_bannedAt a t again le']
      exact banned now le' early

/-- What holds since a ban holds along every run in which the clocks move together. -/
lemma SinceBan.after {till : Int} (h : SinceBan w v t till) {es : List Event}
    (paced : ∀ ev ∈ es, ev.KeepsPace) : SinceBan w (v.after a es) t till := by
  induction es generalizing v with
  | nil => exact h
  | cons ev es ih =>
    have first := paced ev List.mem_cons_self
    exact ih (h.step first) fun ev' mem => paced ev' (List.mem_cons_of_mem ev mem)

/-- A token that is not signed out again is not banned after its ban was over. -/
lemma unbanned_after {till : Int} {es : List Event} (paced : ∀ ev ∈ es, ev.KeepsPace)
    (once : .request (.signOut (some t)) ∉ es)
    (h : ∀ now, v.uptime ≤ now → till ≤ now → v.bannedAt now t = false) :
    ∀ now, (v.after a es).uptime ≤ now → till ≤ now → (v.after a es).bannedAt now t = false := by
  induction es generalizing v with
  | nil => exact h
  | cons ev es ih =>
    rw [List.mem_cons, not_or] at once
    refine ih (fun ev' mem => paced ev' (List.mem_cons_of_mem ev mem)) once.2 fun now le late => ?_
    have le' := Int.le_trans (v.uptime_le_step a (paced ev List.mem_cons_self).steady) le
    rw [v.step_bannedAt a t (fun same => once.1 same.symm) le']
    exact h now le' late

/-! ## Signing out -/

/-- The instant up to which a token is banned that is signed out in a world. -/
def banEnd (w : World) (expiry : Int) : Int := w.uptime + 1000 * max 1 (expiry - w.wallSeconds)

/-- A minted token that is signed out was open until its expiry, and is banned from then on. -/
lemma signOut_minted (minted : a.Mints t e expiry)
    (ended : Ends (Service.signOut a (some t)) w (.ok ()) w') :
    (∀ now, a.openAt now t =
        (dated now).bind fun now => if now ≤ expiry then .ok e else .error Claims.expired) ∧
      w.wallSeconds ≤ expiry ∧ w.bannedAt w.uptime t = false ∧
      w'.wall = w.wall ∧ w'.uptime = w.uptime ∧ w.BanSet w' t (banEnd w expiry) := by
  obtain ⟨f, opened, unbanned⟩ := Accepts.inv (.inr ⟨w', ended⟩)
  obtain ⟨_, live⟩ := minted.openAt_inv opened
  obtain ⟨id, told⟩ := minted.sealed_of_openAt opened
  obtain ⟨u, same, _, _, kept, n, remaining, banned⟩ | ⟨⟨_, failed⟩, _⟩ :=
    Service.signOut_inv ended
  · cases same
    rw [Authority.remainingAt_of_sealed told] at remaining
    obtain rfl := Except.ok.inj remaining
    have length : max 1 (max 0 (expiry - w.wallSeconds)) = max 1 (expiry - w.wallSeconds) := by
      omega
    rw [length] at banned
    exact ⟨Authority.openAt_of_sealed told, live, unbanned, kept.wall, kept.uptime, banned⟩
  · cases failed

/-- A token that was signed out is accepted again in the gap only. -/
lemma inGap_of_accepts (minted : a.Mints t e expiry) (since : SinceBan w v t (banEnd w expiry))
    (accepted : Accepts a v t) : InGap w expiry v := by
  obtain ⟨f, opened, unbanned⟩ := accepted.inv
  obtain ⟨_, live⟩ := minted.openAt_inv opened
  obtain ⟨low, high⟩ := w.wallSeconds_spec
  obtain ⟨low', high'⟩ := v.wallSeconds_spec
  have pace := since.pace
  have lapsed : banEnd w expiry ≤ v.uptime := by
    obtain lapsed | banned := since.banned
    · exact lapsed
    · by_cases lapsed : banEnd w expiry ≤ v.uptime
      · exact lapsed
      · rw [banned v.uptime (Int.le_refl _) (by omega)] at unbanned
        cases unbanned
  rw [banEnd] at lapsed
  -- the ban lasts whole seconds, so the wall clock shows the fraction of signing out or a later one
  refine ⟨?_, ?_, ?_⟩
  · omega
  · omega
  · omega

/-- In the gap a token is accepted again that was not signed out anew. -/
lemma accepts_of_inGap (minted : a.Mints t e expiry)
    (opens : ∀ now, a.openAt now t =
      (dated now).bind fun now => if now ≤ expiry then .ok e else .error Claims.expired)
    (since : SinceBan w v t (banEnd w expiry))
    (unbanned : ∀ now, v.uptime ≤ now → banEnd w expiry ≤ now → v.bannedAt now t = false)
    (order : v.outages .isBanned = none) (served : v.keyspace.outages = [])
    (gap : InGap w expiry v) : Accepts a v t := by
  have opened : a.openAt v.wallSeconds t = .ok e := by
    rw [opens, gap.last, dated_of_hasDate minted.1, Except.bind, if_pos (Int.le_refl _)]
  have lapsed : banEnd w expiry ≤ v.uptime := by
    have before := gap.before
    have late := gap.late
    have pace := since.pace
    rw [banEnd]
    omega
  obtain ⟨v', run⟩ := exists_checkToken opened (unbanned _ (Int.le_refl _) lapsed) order served
  exact .inl ⟨e, v', run⟩

/-- A minted token that was signed out is accepted again, in runs in which the clocks move together,
exactly in the gap before its end, unless it is signed out once more or its ban cannot be asked for;
so it is never accepted again exactly if it was signed out within its last second. -/
theorem signedOut_accepts_inGap (minted : a.Mints t e expiry)
    (ended : Ends (Service.signOut a (some t)) w (.ok ()) w') :
    (∀ es, (∀ ev ∈ es, Event.KeepsPace ev) → Accepts a (w'.after a es) t →
        InGap w expiry (w'.after a es)) ∧
      (0 ≤ w.uptime →
        (∀ es, (∀ ev ∈ es, Event.KeepsPace ev) → .request (.signOut (some t)) ∉ es →
          (w'.after a es).outages .isBanned = none → (w'.after a es).keyspace.outages = [] →
            InGap w expiry (w'.after a es) → Accepts a (w'.after a es) t) ∧
        ((∀ es, (∀ ev ∈ es, Event.KeepsPace ev) → ¬ Accepts a (w'.after a es) t) ↔
          w.wallSeconds = expiry)) := by
  obtain ⟨opens, live, free, wall, uptime, banned⟩ := signOut_minted minted ended
  have since : SinceBan w w' t (banEnd w expiry) := by
    refine ⟨by omega, by omega, .inr fun now le early => ?_⟩
    exact banned.before now (by omega) early
  have only : ∀ es, (∀ ev ∈ es, Event.KeepsPace ev) → Accepts a (w'.after a es) t →
      InGap w expiry (w'.after a es) :=
    fun es paced accepted => inGap_of_accepts minted (since.after paced) accepted
  refine ⟨only, fun started => ?_⟩
  have lapsed : ∀ now, w'.uptime ≤ now → banEnd w expiry ≤ now → w'.bannedAt now t = false :=
    fun now le late => banned.after started free now (by omega) late
  have again : ∀ es, (∀ ev ∈ es, Event.KeepsPace ev) → .request (.signOut (some t)) ∉ es →
      (w'.after a es).outages .isBanned = none → (w'.after a es).keyspace.outages = [] →
        InGap w expiry (w'.after a es) → Accepts a (w'.after a es) t :=
    fun es paced once order served gap => accepts_of_inGap minted opens (since.after paced)
      (unbanned_after paced once lapsed) order served gap
  refine ⟨again, ?_, ?_⟩
  · intro never
    by_cases last : w.wallSeconds = expiry
    · exact last
    · -- everything is put in order, and the clocks go to the expiry
      let wait := 1000 * (expiry - w.wallSeconds)
      let es : List Event := [.outages fun _ => none, .server [], .advance wait wait]
      have paced : ∀ ev ∈ es, Event.KeepsPace ev := by
        intro ev mem
        simp only [es, List.mem_cons, List.not_mem_nil, or_false] at mem
        obtain rfl | rfl | rfl := mem
        · trivial
        · trivial
        · exact ⟨rfl, by omega⟩
      have once : .request (.signOut (some t)) ∉ es := by
        simp only [es, List.mem_cons, List.not_mem_nil, or_false, reduceCtorEq, not_false_eq_true]
      have clock : (w'.after a es).wall = w'.wall + wait := rfl
      obtain ⟨low, high⟩ := w.wallSeconds_spec
      obtain ⟨low', high'⟩ := (w'.after a es).wallSeconds_spec
      exact absurd (again es paced once rfl rfl ⟨by omega, by omega, by omega⟩) (never es paced)
  · intro last es paced accepted
    have before := (only es paced accepted).before
    omega

/-! ## A sample -/

/-- If the ban store answers, a minted token that is open and not banned can be signed out. -/
lemma exists_signOut_of_opened (minted : a.Mints t e expiry) {f : Email}
    (opened : a.openAt w.wallSeconds t = .ok f) (unbanned : w.bannedAt w.uptime t = false)
    (served : w.keyspace.outages = []) (working : w.outages .isBanned = none)
    (working' : w.outages .revoke = none) :
    ∃ w', Ends (Service.signOut a (some t)) w (.ok ()) w' := by
  have given : (some t).filter (· ≠ "") = some t := by
    rw [Option.filter_eq_some_iff, decide_eq_true_iff]
    refine ⟨rfl, ?_⟩
    rintro rfl
    cases opened
  obtain ⟨v, checked⟩ := exists_checkToken opened unbanned working served
  have kept := Service.checkToken_keeps a t checked
  obtain ⟨r, v', run⟩ := Ends.total (Bans.revoke t (.whole (max 0 (expiry - v.wallSeconds)))) v
  obtain ⟨_, ⟨rfl, _⟩ | ⟨_, _, trouble⟩⟩ := Bans.revoke_inv run
  · obtain ⟨id, told⟩ := minted.sealed_of_openAt opened
    have remaining := Authority.remainingAt_of_sealed told v.wallSeconds
    have revoked : Ends (a.revoke t) v (.ok ()) v' := by
      rw [Authority.revoke]
      refine Ends.bind (show Ends _ v (.ok (max 0 (expiry - v.wallSeconds))) v from ?_) ?_
      · rw [Authority.remaining, Ends.get_bind, remaining]
        rfl
      · exact World.guarded_of_none (by rw [kept.outages]; exact working') run
    refine ⟨v'.noting .info Service.source ("Logout for " ++ f.redacted), ?_⟩
    rw [Service.signOut, given]
    exact checked.bind (Service.attempt_bind.2 ⟨_, v', revoked, rfl⟩)
  · rw [kept.wallSeconds] at trouble
    have served' : v.keyspace.outages = [] := by rw [kept.served]; exact served
    exact absurd ⟨served', fits_of_dates minted.1 (minted.hasDate_of_openAt opened)⟩ trouble

/-- In a world in order a minted token that is open and not banned can be signed out. -/
lemma exists_signOut {id : BitVec 128}
    (told : a.sealedClaims t = .ok (Authority.claims e expiry id)) (minted : a.Mints t e expiry)
    (date : hasDate w.wallSeconds = true) (live : w.wallSeconds ≤ expiry)
    (unbanned : w.bannedAt w.uptime t = false) (order : w.InOrder)
    (working : w.outages .isBanned = none) (working' : w.outages .revoke = none) :
    ∃ w', Ends (Service.signOut a (some t)) w (.ok ()) w' := by
  have opened : a.openAt w.wallSeconds t = .ok e := by
    rw [Authority.openAt_of_sealed told, dated_of_hasDate date, Except.bind, if_pos live]
  exact exists_signOut_of_opened minted opened unbanned order.served working working'

/-- The session of the sample can be signed out. -/
lemma exists_signOut_sample : ∃ t w w', Ends (Authority.sample.issue Email.sample) World.sample
      (.ok t) w ∧ Authority.sample.Mints t Email.sample 1700000600 ∧
    Ends (Service.signOut Authority.sample (some t)) w (.ok ()) w' := by
  obtain ⟨t, issued, minted⟩ := Authority.exists_issue_sample
  obtain ⟨id, told⟩ := minted.sealedClaims Authority.sample_isPlain
  have order : World.sample.idDrawn.InOrder := ⟨by decide, rfl, rfl, by decide, by decide⟩
  obtain ⟨w', ended⟩ := @exists_signOut Authority.sample t _ _ World.sample.idDrawn id told minted
    rfl (by decide) rfl order rfl rfl
  exact ⟨t, _, w', issued, minted, ended⟩

/-- Signed out, the session of the sample is accepted in its gap only. -/
theorem signedOut_accepts_inGap_sample : ∃ t w w',
    Authority.sample.Mints t Email.sample 1700000600 ∧
    Ends (Service.signOut Authority.sample (some t)) w (.ok ()) w' ∧
    (∀ es, (∀ ev ∈ es, Event.KeepsPace ev) → Accepts Authority.sample
        (w'.after Authority.sample es) t → InGap w 1700000600 (w'.after Authority.sample es)) ∧
      (0 ≤ w.uptime →
        (∀ es, (∀ ev ∈ es, Event.KeepsPace ev) → .request (.signOut (some t)) ∉ es →
          (w'.after Authority.sample es).outages .isBanned = none →
          (w'.after Authority.sample es).keyspace.outages = [] →
            InGap w 1700000600 (w'.after Authority.sample es) →
              Accepts Authority.sample (w'.after Authority.sample es) t) ∧
        ((∀ es, (∀ ev ∈ es, Event.KeepsPace ev) →
            ¬ Accepts Authority.sample (w'.after Authority.sample es) t) ↔
          w.wallSeconds = 1700000600)) := by
  obtain ⟨t, w, w', _, minted, ended⟩ := exists_signOut_sample
  exact ⟨t, w, w', minted, ended, signedOut_accepts_inGap minted ended⟩

/-- A token that is signed out when it is opened is accepted again after ten minutes. -/
theorem signedOut_accepted_again : ∃ t w w' v,
    Ends (Authority.sample.issue Email.sample) World.sample (.ok t) w ∧
      Ends (Service.signOut Authority.sample (some t)) w (.ok ()) w' ∧
      Ends (Service.checkToken Authority.sample t)
        (w'.after Authority.sample [.advance 600000 600000]) (.ok Email.sample) v := by
  obtain ⟨t, w, w', issued, minted, ended⟩ := exists_signOut_sample
  obtain ⟨_, rfl⟩ := Authority.issue_inv issued
  obtain ⟨opens, _, free, wall, uptime, banned⟩ := signOut_minted minted ended
  have kept := Service.signOut_keeps _ _ ended
  have opened : Authority.sample.openAt
      (w'.after Authority.sample [.advance 600000 600000]).wallSeconds t = .ok Email.sample := by
    have now : (w'.after Authority.sample [.advance 600000 600000]).wallSeconds = 1700000600 := by
      show (w'.wall + 600000).fdiv 1000 = 1700000600
      rw [wall]
      rfl
    rw [now, opens]
    rfl
  have lapsed : (w'.after Authority.sample [.advance 600000 600000]).bannedAt
      (w'.after Authority.sample [.advance 600000 600000]).uptime t = false := by
    show w'.bannedAt (w'.uptime + 600000) t = false
    rw [uptime]
    exact banned.after (by decide) free _ (by decide) (by decide)
  have order : (w'.after Authority.sample [.advance 600000 600000]).outages .isBanned = none :=
    congrFun kept.outages .isBanned
  obtain ⟨v, checked⟩ := exists_checkToken opened lapsed order kept.served
  exact ⟨t, _, w', v, issued, ended, checked⟩

end SignIn
