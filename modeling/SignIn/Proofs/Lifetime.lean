import SignIn.Proofs.Calls
import SignIn.Proofs.Minting

/-!
# The lifetime of sessions

What opening, checking and ending a session do, taken from runs of these calls; and the round trip:
a session that is opened with a plain secret names its address up to the second in which it ends,
and is expired after that. The calendar ends with the year 9999, and no session can be checked
beyond it.
-/

namespace SignIn

open Token

namespace Authority

variable {a : Authority} {w w' : World}

/-! ## Opening -/

/-- A session opens if its start and its end have dates, with the token that is minted with the id
that is drawn next. -/
lemma issue_ok_iff {e : Email} {t : String} :
    Ends (a.issue e) w (.ok t) w' ↔
      hasDate w.wallSeconds = true ∧ hasDate (w.wallSeconds + a.seconds) = true ∧
        a.mint (claims e (w.wallSeconds + a.seconds) (w.ids.draw w.ids.used)) = .ok t ∧
          w' = w.idDrawn := by
  rw [issue, Ends.get_bind]
  constructor
  · intro h
    obtain ⟨now, w₁, first, h⟩ | ⟨f, _, failed⟩ := h.bind_inv
    · obtain ⟨told, rfl⟩ := Ends.except_inv first
      have start : hasDate w₁.wallSeconds = true := by
        cases date : hasDate w₁.wallSeconds with
        | true => rfl
        | false =>
          obtain ⟨d, undated⟩ := dated_of_undated date
          rw [undated] at told
          cases told
      rw [dated_of_hasDate start] at told
      obtain rfl := Except.ok.inj told
      dsimp only at h
      split at h
      · next finish =>
        rw [Ends.drawId_bind] at h
        split at h
        · next token mint =>
          obtain ⟨told, rfl⟩ := Ends.pure_inv h
          obtain rfl := Except.ok.inj told
          exact ⟨start, finish, mint, rfl⟩
        · obtain ⟨failed, _⟩ := Ends.throw_inv h
          cases failed
      · obtain ⟨failed, _⟩ := Ends.throw_inv h
        cases failed
    · cases failed
  · rintro ⟨start, finish, mint, rfl⟩
    rw [dated_of_hasDate start]
    refine Ends.bind (show Ends _ w (.ok w.wallSeconds) w from rfl) ?_
    dsimp only
    rw [if_pos finish]
    refine Ends.bind (show Ends _ w (.ok (w.ids.draw w.ids.used)) w.idDrawn from rfl) ?_
    rw [mint]
    rfl

/-- A session that was opened is a token minted for its address with the right expiry. -/
lemma issue_inv {e : Email} {t : String} (h : Ends (a.issue e) w (.ok t) w') :
    a.Mints t e (w.wallSeconds + a.seconds) ∧ w' = w.idDrawn := by
  obtain ⟨_, finish, mint, ended⟩ := issue_ok_iff.1 h
  exact ⟨⟨finish, _, mint⟩, ended⟩

/-- With a plain secret a session opens whenever its start and its end have dates. -/
lemma exists_issue (plain : Key.IsPlain a.secret) (e : Email)
    (start : hasDate w.wallSeconds = true) (finish : hasDate (w.wallSeconds + a.seconds) = true) :
    ∃ t, Ends (a.issue e) w (.ok t) w.idDrawn := by
  obtain ⟨t, mint⟩ :=
    exists_mint plain (claims e (w.wallSeconds + a.seconds) (w.ids.draw w.ids.used))
  exact ⟨t, issue_ok_iff.2 ⟨start, finish, mint, rfl⟩⟩

/-- Sessions that are opened for an address in the same second with the same id have the same
token. -/
lemma issue_repeats {e : Email} {t t' : String} {v v' : World} (h : Ends (a.issue e) w (.ok t) w')
    (again : Ends (a.issue e) v (.ok t') v') (clock : v.wallSeconds = w.wallSeconds)
    (draw : v.ids.draw v.ids.used = w.ids.draw w.ids.used) : t' = t := by
  obtain ⟨_, _, mint, _⟩ := issue_ok_iff.1 h
  obtain ⟨_, _, mint', _⟩ := issue_ok_iff.1 again
  rw [clock, draw, mint] at mint'
  exact (Except.ok.inj mint').symm

/-! ## Checking -/

/-- A token is good if it opens and is not banned. -/
lemma validate_ok_iff {t : String} {e : Email} :
    Ends (a.validate t) w (.ok e) w' ↔ a.openAt w.wallSeconds t = .ok e ∧
      Ends (World.guarded .isBanned (Bans.contains t)) w (.ok false) w' := by
  rw [validate, Ends.get_bind]
  constructor
  · intro h
    split at h
    · obtain ⟨failed, _⟩ := Ends.throw_inv h
      cases failed
    · next e' opened =>
      obtain ⟨banned, w₁, asked, h⟩ | ⟨f, _, failed⟩ := h.bind_inv
      · cases banned with
        | true =>
          obtain ⟨failed, _⟩ := Ends.throw_inv h
          cases failed
        | false =>
          obtain ⟨told, rfl⟩ := Ends.pure_inv h
          obtain rfl := Except.ok.inj told
          exact ⟨opened, asked⟩
      · cases failed
  · rintro ⟨opened, asked⟩
    rw [opened]
    exact asked.bind rfl

/-- A token that does not open is not validated, for that fault. -/
lemma validate_of_openAt_error {t : String} {f : Fault} (h : a.openAt w.wallSeconds t = .error f) :
    Ends (a.validate t) w (.error f) w := by
  rw [validate, Ends.get_bind, h]
  rfl

/-- A sealed token with the claims of a minted one is good up to its expiry, unless it is banned. -/
lemma validate_of_live {t : String} {e : Email} {expiry : Int} {id : BitVec 128}
    (told : a.sealedClaims t = .ok (claims e expiry id)) (date : hasDate w.wallSeconds = true)
    (live : w.wallSeconds ≤ expiry)
    (unbanned : Ends (World.guarded .isBanned (Bans.contains t)) w (.ok false) w') :
    Ends (a.validate t) w (.ok e) w' := by
  have opened := openAt_of_sealed told w.wallSeconds
  rw [dated_of_hasDate date, Except.bind, if_pos live] at opened
  exact validate_ok_iff.2 ⟨opened, unbanned⟩

/-- A sealed token with the claims of a minted one is expired after its expiry. -/
lemma validate_of_late {t : String} {e : Email} {expiry : Int} {id : BitVec 128}
    (told : a.sealedClaims t = .ok (claims e expiry id)) (date : hasDate w.wallSeconds = true)
    (late : expiry < w.wallSeconds) : Ends (a.validate t) w (.error Claims.expired) w := by
  have opened := openAt_of_sealed told w.wallSeconds
  rw [dated_of_hasDate date, Except.bind, if_neg (by omega)] at opened
  exact validate_of_openAt_error opened

/-- Where there are no dates, it is the calendar that fails. -/
lemma validate_of_undated {t : String} {e : Email} {expiry : Int} {id : BitVec 128}
    (told : a.sealedClaims t = .ok (claims e expiry id)) (undated : hasDate w.wallSeconds = false) :
    ∃ d, Ends (a.validate t) w (.error (.foreign d)) w := by
  obtain ⟨d, fault⟩ := dated_of_undated undated
  have opened := openAt_of_sealed told w.wallSeconds
  rw [fault, Except.bind] at opened
  exact ⟨d, validate_of_openAt_error opened⟩

/-! ## The round trip -/

/-- A session that is opened names its address as long as it is not banned and its last second has
not passed, is expired after that, and cannot be checked at an instant without a date. -/
theorem validate_issued (plain : Key.IsPlain a.secret) (e : Email)
    (start : hasDate w.wallSeconds = true) (finish : hasDate (w.wallSeconds + a.seconds) = true) :
    ∃ t w', Ends (a.issue e) w (.ok t) w' ∧ ∀ v : World,
      (hasDate v.wallSeconds = true →
        (v.wallSeconds ≤ w.wallSeconds + a.seconds → ∀ v',
          Ends (World.guarded .isBanned (Bans.contains t)) v (.ok false) v' →
            Ends (a.validate t) v (.ok e) v') ∧
        (w.wallSeconds + a.seconds < v.wallSeconds →
          Ends (a.validate t) v (.error Claims.expired) v)) ∧
      (hasDate v.wallSeconds = false →
        ∃ d, Ends (a.validate t) v (.error (.foreign d)) v) := by
  obtain ⟨t, issued⟩ := exists_issue plain e start finish
  obtain ⟨minted, _⟩ := issue_inv issued
  obtain ⟨id, told⟩ := minted.sealedClaims plain
  refine ⟨t, _, issued, fun v => ⟨fun date => ⟨?_, ?_⟩, ?_⟩⟩
  · intro live v' unbanned
    exact validate_of_live told date live unbanned
  · intro late
    exact validate_of_late told date late
  · intro undated
    exact validate_of_undated told undated

end Authority

/-! ## A sample -/

/-- There are codes, so that numerals stand for some. -/
instance OneTimeCode.inhabitedBound : @NeZero Nat Zero.ofOfNat0 1000000 := ⟨by decide⟩

/-- A world that keeps everything in memory and in which nothing has happened. -/
def World.sample : World where
  wall := 1700000000000
  uptime := 1000000
  ids := ⟨fun n => BitVec.ofNat 128 n, 0⟩
  codes := ⟨fun n => Fin.ofNat 1000000 n, 0⟩
  accounts := .directory .empty
  bans := .register .empty
  challenges := .book (.empty 600)
  keyspace := .empty
  mailer := .recorder [] 0
  outages := fun _ => none
  journal := []

/-- The sample world with its bans and challenges on a server. -/
def World.remote : World :=
  { World.sample with bans := .keyspace, challenges := .keyspace 600 }

/-- An authority with a plain secret whose sessions last ten minutes. -/
def Authority.sample : Authority := ⟨"a secret that nobody knows", 600⟩

/-- The secret of the sample is plain. -/
lemma Authority.sample_isPlain : Key.IsPlain Authority.sample.secret where
  noJson := ⟨_, rfl⟩
  accepted := rfl

/-- An address with quotes, a backslash, a control character and one beyond the first plane. -/
def Email.sample : Email := ⟨"\"\\\u0007é😀\"@x.com", by decide⟩

namespace Authority

/-- A session is opened for the address of the sample. -/
lemma exists_issue_sample : ∃ t,
    Ends (sample.issue Email.sample) World.sample (.ok t) World.sample.idDrawn ∧
      sample.Mints t Email.sample 1700000600 := by
  obtain ⟨t, issued⟩ := @exists_issue sample World.sample sample_isPlain Email.sample rfl rfl
  exact ⟨t, issued, (issue_inv issued).1⟩

/-- The session of the sample is good for its seconds and expired after them. -/
theorem validate_issued_sample :
    Key.IsPlain sample.secret ∧ hasDate World.sample.wallSeconds = true ∧
      hasDate (World.sample.wallSeconds + sample.seconds) = true ∧
      ∃ t w', Ends (sample.issue Email.sample) World.sample (.ok t) w' ∧ ∀ v : World,
        (hasDate v.wallSeconds = true →
          (v.wallSeconds ≤ World.sample.wallSeconds + sample.seconds → ∀ v',
            Ends (World.guarded .isBanned (Bans.contains t)) v (.ok false) v' →
              Ends (sample.validate t) v (.ok Email.sample) v') ∧
          (World.sample.wallSeconds + sample.seconds < v.wallSeconds →
            Ends (sample.validate t) v (.error Claims.expired) v)) ∧
        (hasDate v.wallSeconds = false →
          ∃ d, Ends (sample.validate t) v (.error (.foreign d)) v) :=
  ⟨sample_isPlain, rfl, rfl, validate_issued sample_isPlain Email.sample rfl rfl⟩

/-- In the year 10000 a session that was opened before is not told to be expired. -/
theorem validate_beyond_dates :
    ∃ t w', Ends (sample.issue Email.sample) World.sample (.ok t) w' ∧
      World.sample.wallSeconds + sample.seconds < (w'.advance 251702300800000 0).wallSeconds ∧
      ∀ v', ¬ Ends (sample.validate t) (w'.advance 251702300800000 0)
        (.error Claims.expired) v' := by
  obtain ⟨t, issued⟩ := @exists_issue sample World.sample sample_isPlain Email.sample rfl rfl
  obtain ⟨id, told⟩ := (issue_inv issued).1.sealedClaims sample_isPlain
  refine ⟨t, _, issued, by decide, fun v' expired => ?_⟩
  obtain ⟨d, failed⟩ := @validate_of_undated sample
    (World.sample.idDrawn.advance 251702300800000 0) t _ _ id told rfl
  cases (failed.unique expired).1

end Authority

end SignIn
