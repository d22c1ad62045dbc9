import SignIn.Proofs.Lifetime
import SignIn.Proofs.Locality

/-!
# Independence of sessions

A session is nothing but its token. The id that a token was minted with can be read back from it, so
as long as no id is drawn twice, no token is handed out twice. And a token is looked up by its text:
ending a session changes what is kept for its token only, and a world in which that differs tells
the same of every other token, whatever happens from then on.
-/

namespace SignIn

open World Token

/-! ## Ids of tokens -/

/-- Numbers below the width's limit that have the same digits are the same. -/
lemma Text.toHex_inj {width m n : Nat} (hm : m < Nat.pow 16 width) (hn : n < Nat.pow 16 width)
    (same : toHex width m = toHex width n) : m = n := by
  have read := ofHex?_toHex hm
  rw [same, ofHex?_toHex hn] at read
  exact (Option.some.inj read).symm

namespace Authority

variable {a : Authority} {e e' : Email} {expiry expiry' : Int} {id id' : BitVec 128} {t : String}

/-- Claims tell the id that they were made with. -/
lemma id_of_claims (same : claims e expiry id = claims e' expiry' id') : id = id' := by
  have jti := (find?_claims e expiry id).2.2.1
  rw [same, (find?_claims e' expiry' id').2.2.1] at jti
  have digits := String.ofList_injective (Json.str.inj (Option.some.inj jti))
  exact BitVec.eq_of_toNat_eq (@Text.toHex_inj 32 _ _ id.isLt id'.isLt digits.symm)

/-- A token has one id, whoever it was minted for and till whenever. -/
lemma id_of_mint (date : hasDate expiry = true) (date' : hasDate expiry' = true)
    (h : a.mint (claims e expiry id) = .ok t) (h' : a.mint (claims e' expiry' id') = .ok t) :
    id = id' := by
  obtain ⟨signature, _, rfl⟩ := mint_eq_ok h
  obtain ⟨signature', _, same⟩ := mint_eq_ok h'
  -- one text has one payload, and the payload is read as the claims that were written
  have envelope := Envelope.ofText_assemble (claims e expiry id) signature
  rw [same, Envelope.ofText_assemble] at envelope
  have payload : Text.Utf8.encode (Json.print .compact (.obj (claims e' expiry' id'))) =
      Text.Utf8.encode (Json.print .compact (.obj (claims e expiry id))) :=
    congrArg Envelope.payload (Except.ok.inj envelope)
  have read := objectOf_print (exact_claims e date id _)
  rw [← payload, objectOf_print (exact_claims e' date' id' _)] at read
  exact id_of_claims (Except.ok.inj read).symm

end Authority

/-! ## Draws of ids -/

/-- The second world draws the same ids as the first and has drawn no fewer. -/
structure World.DrawsOn (w w' : World) : Prop where
  draw : w'.ids.draw = w.ids.draw
  used : w.ids.used ≤ w'.ids.used

namespace World.DrawsOn

variable {w w' w'' : World}

/-- A world that draws on from one that draws on draws on. -/
lemma trans (h : DrawsOn w w') (k : DrawsOn w' w'') : DrawsOn w w'' :=
  ⟨k.draw.trans h.draw, Nat.le_trans h.used k.used⟩

/-- A world with the same supply of ids draws on. -/
lemma of_ids (same : w'.ids = w.ids) : DrawsOn w w' :=
  ⟨by rw [same], Nat.le_of_eq (by rw [same])⟩

end World.DrawsOn

section Draws

variable {a : Authority} {w₀ w w' : World}

/-- A world that has come from another one, drawing on. It is related to itself only. -/
def Since (w₀ w v : World) : Prop := v = w ∧ w₀.DrawsOn w

/-- What makes no draws respects worlds that have drawn since. -/
lemma Keeps.since {ε α : Type} {parts : List Part} {told : ε → ε} {x : ExceptT ε (StateM World) α}
    (h : Keeps parts x) (out : .draws ∉ parts) : Respects (Since w₀) told x := by
  rintro w _ ⟨rfl, since⟩ r w' s v' run run'
  obtain ⟨rfl, rfl⟩ := run.unique run'
  exact ⟨rfl, rfl, since.trans (.of_ids ((h run).draws out).1)⟩

/-- Having drawn on since a world is a congruence that may name every address. -/
lemma since_congruence : Congruence (Since w₀) id fun _ => True where
  wall w v since := by rw [since.1]
  outages w v since := by rw [since.1]
  noting := by
    rintro w _ ⟨rfl, since⟩ level source text
    exact ⟨rfl, since.trans (.of_ids rfl)⟩
  ids := by
    rintro w _ ⟨rfl, since⟩
    exact ⟨rfl, rfl, since.trans ⟨rfl, Nat.le_succ _⟩⟩
  codes := by
    rintro w _ ⟨rfl, since⟩
    exact ⟨rfl, rfl, since.trans (.of_ids rfl)⟩
  own _ _ _ _ _ _ _ := trivial
  lookUp e _ := Keeps.since (fun _ _ _ run => (Accounts.lookUp_inv run).2) List.not_mem_nil
  issue e _ c := Keeps.since (fun _ _ _ run => (Challenges.issue_inv run).1) (by simp)
  take e _ c := by
    have kept : Keeps [.challenges] (Challenges.take e c) := by
      intro w r w' run
      obtain ⟨_, _, same, _⟩ | ⟨same, _⟩ := Challenges.take_inv run
      · exact same
      · exact same.mono (List.nil_subset _)
    exact kept.since (by simp)
  send m := Keeps.since (fun _ _ _ run => (Mailer.send_inv run).1) (by simp)

/-- A request draws on. -/
lemma Request.drawsOn {r : Request} {x : Except Failure Answer} (run : Ends (r.op a) w x w') :
    w.DrawsOn w' := by
  have named {email : Field} (e : Email) (_ : Email.read email = .ok e) : True := trivial
  have respects : Respects (Since w) id (r.op a) := by
    cases r with
    | signIn email password => exact .map (since_congruence.signIn a named password)
    | verify email attemptId code => exact .map (since_congruence.verify a named attemptId code)
    | signUp | signOut | checkToken => exact (Request.keeps a _).since (by simp [Request.parts])
  exact (respects ⟨rfl, rfl, Nat.le_refl _⟩ run run).2.2

/-- An event draws on. -/
lemma World.drawsOn_step (a : Authority) (w : World) (ev : Event) : w.DrawsOn (w.step a ev) := by
  cases ev with
  | request r =>
    obtain ⟨x, v, run⟩ := Ends.total (r.op a) w
    rw [run.step]
    exact Request.drawsOn run
  | advance | outages | server => exact .of_ids rfl
  | close =>
    obtain ⟨n, closed⟩ := Service.close_eq w
    rw [step, closed]
    exact .of_ids rfl

/-- A run draws on. -/
lemma World.drawsOn_after (a : Authority) (w : World) (es : List Event) :
    w.DrawsOn (w.after a es) := by
  induction es generalizing w with
  | nil => exact .of_ids rfl
  | cons ev es ih => exact (w.drawsOn_step a ev).trans (ih (w.step a ev))

end Draws

/-! ## Tokens of a run -/

/-- The token that is handed out in an event. -/
def World.token? (a : Authority) (w : World) : Event → Option String
  | .request r => ((r.op a).run w).1.toOption.bind Answer.token?
  | .advance .. | .outages _ | .server _ | .close => none

/-- The tokens that a run hands out, in this order. -/
def World.tokens (a : Authority) : World → List Event → List String
  | _, [] => []
  | w, ev :: es => (w.token? a ev).toList ++ tokens a (w.step a ev) es

section Tokens

variable {a : Authority} {w : World} {ev : Event} {es : List Event} {t : String}

/-- A token that is minted with one of the ids that are drawn between two worlds. -/
def MintedWithin (a : Authority) (w w' : World) (t : String) : Prop :=
  ∃ i e expiry, w.ids.used ≤ i ∧ i < w'.ids.used ∧ hasDate expiry = true ∧
    a.mint (Authority.claims e expiry (w.ids.draw i)) = .ok t

/-- What is minted within a part of a run is minted within the run. -/
lemma MintedWithin.mono {v v' w' : World} (h : MintedWithin a v v' t) (before : w.DrawsOn v)
    (after : v'.DrawsOn w') : MintedWithin a w w' t := by
  obtain ⟨i, e, expiry, from', till, date, mint⟩ := h
  rw [before.draw] at mint
  exact ⟨i, e, expiry, Nat.le_trans before.used from', Nat.lt_of_lt_of_le till after.used, date,
    mint⟩

/-- Tokens that are minted one after the other are different, if their ids are. -/
lemma MintedWithin.ne {v v' : World} {t' : String} (h : MintedWithin a w v t)
    (k : MintedWithin a v v' t') (between : w.DrawsOn v)
    (distinct : ∀ i j, w.ids.used ≤ i → i < j → j < v'.ids.used → w.ids.draw i ≠ w.ids.draw j) :
    t ≠ t' := by
  rintro rfl
  obtain ⟨i, e, expiry, from', till, date, mint⟩ := h
  obtain ⟨j, e', expiry', from'', till', date', mint'⟩ := k
  rw [between.draw] at mint'
  exact distinct i j from' (Nat.lt_of_lt_of_le till from'') till'
    (Authority.id_of_mint date date' mint mint')

/-- A token that is issued is minted with the id that was drawn for it. -/
lemma mintedWithin_issue {e : Email} {w' : World} (h : Ends (a.issue e) w (.ok t) w') :
    MintedWithin a w w' t := by
  obtain ⟨_, finish, mint, rfl⟩ := Authority.issue_ok_iff.1 h
  exact ⟨w.ids.used, e, _, Nat.le_refl _, Nat.lt_succ_self _, finish, mint⟩

/-- A token is handed out by the last step of a request, which mints it. -/
lemma Request.token?_inv {r : Request} {x : Answer} {w' : World} (run : Ends (r.op a) w (.ok x) w')
    (opened : x.token? = some t) : ∃ e v, w.DrawsOn v ∧ Ends (a.issue e) v (.ok t) w' := by
  cases r with
  | signIn email password =>
    obtain ⟨s, run, told⟩ := run.map_inv
    obtain ⟨⟨_, rfl⟩, _⟩ | ⟨e, p, u, v, _, _, checked, rest⟩ := Service.signIn_inv run
    · cases told
    · obtain ⟨_, s', _, rfl⟩ | ⟨_, s', issued, rfl⟩ := rest
      · cases s' with
        | ok id =>
          cases told
          cases opened
        | error f => cases told
      · cases s' with
        | ok t' =>
          cases told
          cases opened
          have same := ((Service.credentialsOf_keeps e p checked).draws List.not_mem_nil).1
          exact ⟨u.email, v.noting _ _ _, .of_ids same, issued⟩
        | error f => cases told
  | verify email attemptId code =>
    obtain ⟨s, run, told⟩ := run.map_inv
    obtain ⟨e, v, redeemed, s', issued, rfl⟩ | ⟨⟨_, rfl⟩, _⟩ := Service.verify_inv run
    · cases s' with
      | ok t' =>
        cases told
        cases opened
        have same := ((Service.redeems_inv redeemed).2.1.draws (by simp)).1
        exact ⟨e, v.noting _ _ _, .of_ids same, issued⟩
      | error f => cases told
    · cases told
  | signUp | signOut | checkToken =>
    obtain ⟨s, _, told⟩ := run.map_inv
    cases s with
    | ok _ =>
      cases told
      cases opened
    | error f => cases told

/-- A token that an event hands out is minted within the event. -/
lemma mintedWithin_token? (handed : w.token? a ev = some t) :
    MintedWithin a w (w.step a ev) t := by
  cases ev with
  | request r =>
    obtain ⟨s, w', run⟩ := Ends.total (r.op a) w
    rw [run.step]
    rw [World.token?, show (r.op a).run w = (s, w') from run] at handed
    cases s with
    | ok x =>
      obtain ⟨e, v, before, issued⟩ := Request.token?_inv run handed
      exact (mintedWithin_issue issued).mono before (.of_ids rfl)
    | error f => cases handed
  | advance | outages | server | close => cases handed

/-- A token that a run hands out is minted within the run. -/
lemma mintedWithin_tokens (mem : t ∈ w.tokens a es) : MintedWithin a w (w.after a es) t := by
  induction es generalizing w with
  | nil => cases mem
  | cons ev es ih =>
    obtain first | later := List.mem_append.1 mem
    · exact (mintedWithin_token? (Option.mem_toList.1 first)).mono (.of_ids rfl)
        (drawsOn_after a (w.step a ev) es)
    · exact (ih later).mono (w.drawsOn_step a ev) (.of_ids rfl)

/-- No token is handed out twice in a run that draws no id twice. -/
lemma nodup_tokens (distinct : ∀ i j, w.ids.used ≤ i → i < j → j < (w.after a es).ids.used →
    w.ids.draw i ≠ w.ids.draw j) : (w.tokens a es).Nodup := by
  induction es generalizing w with
  | nil => exact List.nodup_nil
  | cons ev es ih =>
    have one := w.drawsOn_step a ev
    -- the ids of the first event are drawn before those of the rest
    have rest : ((w.step a ev).tokens a es).Nodup := by
      refine ih fun i j from' lt till => ?_
      rw [one.draw]
      exact distinct i j (Nat.le_trans one.used from') lt till
    refine List.nodup_append.2 ⟨?_, rest, fun t first t' later => ?_⟩
    · cases w.token? a ev with
      | none => exact List.nodup_nil
      | some t => exact List.pairwise_singleton _ t
    · exact (mintedWithin_token? (Option.mem_toList.1 first)).ne (mintedWithin_tokens later) one
        distinct

end Tokens

/-! ## Worlds that differ at one token -/

/-- What is kept at a place after closing depends on what was kept there. -/
lemma held_close {w v : World} {p : Place} (same : v.held p = w.held p) :
    (Service.close v).held p = (Service.close w).held p := by
  obtain ⟨_, closed⟩ := Service.close_eq w
  obtain ⟨_, closed'⟩ := Service.close_eq v
  rw [closed, closed']
  cases p with
  | challenge e => exact same
  | ban t => exact same
  | account e =>
    cases store : w.accounts with
    | directory d =>
      obtain ⟨d', store', found⟩ := held_account_user (same.trans (by rw [held, store]))
      simp only [held, store', Accounts.close, found]
    | table t =>
      obtain ⟨t', store', onFile, found⟩ := held_account_row (same.trans (by rw [held, store]))
      simp only [held, store', Accounts.close, Table.close, onFile]
      split
      · rw [found, onFile]
      · rfl

/-- Closing a mailer forgets no more than its messages. -/
lemma Mailer.unsent_close (m : Mailer) : m.close.unsent = m.unsent.close := by
  cases m with
  | dummy | recorder | provider => rfl

/-- The place of a token. -/
def AtToken (t : String) (p : Place) : Prop := p = .ban t

/-- All places but that of a token. -/
def OffToken (t : String) (p : Place) : Prop := ¬ AtToken t p

/-- Every address lies off the place of a token. -/
lemma named_offToken (t : String) (e : Email) : Named (OffToken t) e := ⟨nofun, nofun⟩

section OffToken

variable {a : Authority} {w w' v : World} {t : String}

/-- What stays within the place of a token, and draws and sends nothing, agrees elsewhere. -/
lemma Untouched.offToken {parts : List Part} (h : Untouched (AtToken t) w w')
    (kept : SameBut parts w w') (draws : .draws ∉ parts) (mailer : .mailer ∉ parts) :
    Agree (OffToken t) w w' where
  around := h.around
  ids := (kept.draws draws).1
  codes := (kept.draws draws).2
  mailer := by rw [kept.mailer mailer]
  held := h.held
  own _ u _ _ := named_offToken t u.email

/-- Nobody has an address at the place of a token. -/
lemma Agree.atToken (t : String) (w : World) : Agree (AtToken t) w w :=
  .refl fun _ _ named => nomatch named.1

/-- What is about a token is at its place. -/
lemma AtToken.of_subject {p : Place} (about : p.subject = .token t) : AtToken t p := by
  cases p with
  | account e | challenge e => cases about
  | ban u =>
    cases about
    rfl

/-- Requests about tokens draw and send nothing. -/
lemma Request.quiet_of_token {r : Request} (about : r.subject? = some (.token t)) :
    .draws ∉ r.parts ∧ .mailer ∉ r.parts := by
  cases r with
  | signOut | checkToken => simp [parts]
  | signUp email | signIn email | verify email =>
    rw [subject?] at about
    cases read : Email.read email with
    | ok e =>
      rw [read] at about
      cases about
    | error f =>
      rw [read] at about
      cases about

/-- A request that is about no more than a token changes nothing but what is kept for it. -/
lemma Request.offToken {r : Request}
    (inside : ∀ p : Place, r.subject? = some p.subject → AtToken t p)
    (quiet : .draws ∉ r.parts ∧ .mailer ∉ r.parts) {x : Except Failure Answer}
    (run : Ends (r.op a) w x w') : Agree (OffToken t) w w' :=
  ((Agree.atToken t w).request inside run run).2.2.1.offToken (r.keeps a run) quiet.1 quiet.2

/-- Signing out of a token agrees off its place. -/
lemma Service.signOut_offToken {r : Except Failure Unit}
    (run : Ends (Service.signOut a (some t)) w r w') : Agree (OffToken t) w w' := by
  have requested : Ends ((Request.signOut (some t)).op a) w (r.map fun _ => .signedOut) w' :=
    run.map _
  refine Request.offToken (fun p about => ?_) (by simp [Request.parts]) requested
  obtain ⟨u, given, told⟩ := Option.map_eq_some_iff.1 about
  obtain rfl := Option.some.inj (Option.filter_eq_some_iff.1 given).1
  exact .of_subject told.symm

/-- Ending a session changes nothing but what is kept for its token. -/
lemma Authority.revoke_offToken {r : Except Fault Unit} (run : Ends (a.revoke t) w r w') :
    Agree (OffToken t) w w' := by
  have k : Congruence (Beside (AtToken t) w w) id (Named (AtToken t)) := beside_congruence
  have inside : AtToken t (.ban t) := rfl
  have respects := k.revoke a fun n => Bans.revoke_beside inside n
  have within := (respects ⟨.atToken t w, .refl _ w, .refl _ w⟩ run run).2.left
  exact within.offToken (Service.revoke_inv run).1 (by simp) (by simp)

/-- Worlds that agree off a token still do so after the same event in both. -/
lemma Agree.step (h : Agree (OffToken t) w v) (ev : Event) :
    Agree (OffToken t) (w.step a ev) (v.step a ev) := by
  cases ev with
  | request r =>
    obtain ⟨x, w', run⟩ := Ends.total (r.op a) w
    obtain ⟨y, v', run'⟩ := Ends.total (r.op a) v
    rw [run.step, run'.step]
    by_cases about : r.subject? = some (.token t)
    -- what is told of the token itself may differ, but each world agrees with its own end
    · have inside (p : Place) (subject : r.subject? = some p.subject) : AtToken t p :=
        .of_subject (Option.some.inj (subject.symm.trans about))
      have quiet := Request.quiet_of_token about
      exact ((Request.offToken inside quiet run).symm.trans h).trans
        (Request.offToken inside quiet run')
    · refine (h.request (fun p subject => ?_) run run').2.1
      rintro rfl
      exact about subject
  | advance wall uptime =>
    exact { h with
      around := congrArg (fun s => { s with wall := s.wall + wall, uptime := s.uptime + uptime })
        h.around }
  | outages o => exact { h with around := congrArg (fun s => { s with outages := o }) h.around }
  | server o => exact { h with around := congrArg (fun s => { s with served := o }) h.around }
  | close =>
    obtain ⟨_, closed⟩ := Service.close_eq w
    obtain ⟨_, closed'⟩ := Service.close_eq v
    have held (p : Place) (off : OffToken t p) :
        (Service.close v).held p = (Service.close w).held p := held_close (h.held p off)
    rw [World.step, World.step]
    rw [closed, closed'] at held ⊢
    exact
      { around := h.around
        ids := h.ids
        codes := h.codes
        mailer := by rw [Mailer.unsent_close, Mailer.unsent_close, h.mailer]
        held := held
        own := fun _ u _ _ => named_offToken t u.email }

/-- Worlds that agree off the place of a token agree there after a run. -/
lemma Agree.after (h : Agree (OffToken t) w v) (es : List Event) :
    Agree (OffToken t) (w.after a es) (v.after a es) := by
  induction es generalizing w v with
  | nil => exact h
  | cons ev es ih => exact ih (h.step ev)

end OffToken

/-! ## Independence -/

/-- Sessions are independent: all tokens that a run hands out are different if no id is drawn twice,
and neither signing out a token nor ending its session changes what is told of another token, then
or at any later time. -/
theorem sessions_independent (a : Authority) (w : World) :
    (∀ es, (∀ i j, w.ids.used ≤ i → i < j → j < (w.after a es).ids.used →
      w.ids.draw i ≠ w.ids.draw j) → (w.tokens a es).Nodup) ∧
    ∀ t t', t ≠ t' → ∀ w',
      (∃ r, Ends (Service.signOut a (some t)) w r w') ∨ (∃ r, Ends (a.revoke t) w r w') →
      ∀ es x y v v', Ends (Service.checkToken a t') (w.after a es) x v →
        Ends (Service.checkToken a t') (w'.after a es) y v' → x = y := by
  refine ⟨fun es distinct => nodup_tokens distinct, ?_⟩
  intro t t' other w' ended es x y v v' run run'
  have agree : Agree (OffToken t) w w' := by
    obtain ⟨r, signedOut⟩ | ⟨r, revoked⟩ := ended
    · exact Service.signOut_offToken signedOut
    · exact Authority.revoke_offToken revoked
  have off : OffToken t (.ban t') := fun same => other (Place.ban.inj same).symm
  have k : Congruence (Beside (OffToken t) (w.after a es) (w'.after a es)) id
    (Named (OffToken t)) := beside_congruence
  exact ((k.checkToken a (Bans.contains_beside off)).exact
    ⟨agree.after es, .refl _ _, .refl _ _⟩ run run').1

/-! ## A sample -/

/-- A user signs up and signs in twice. -/
def twoSignIns : List Event :=
  [.request (.signUp (some "a@x.com") (some "password") false),
    .request (.signIn (some "a@x.com") (some "password")),
    .request (.signIn (some "a@x.com") (some "password"))]

/-- Of two sessions of the sample, the second does not notice that the first is signed out. -/
theorem sessions_independent_sample : ∃ t t' w',
    World.sample.tokens .sample twoSignIns = [t, t'] ∧ t ≠ t' ∧
      (∃ r, Ends (Service.signOut .sample (some t)) (World.sample.after .sample twoSignIns) r w') ∧
      ∀ es x y v v',
        Ends (Service.checkToken .sample t')
            ((World.sample.after .sample twoSignIns).after .sample es) x v →
          Ends (Service.checkToken .sample t') (w'.after .sample es) y v' → x = y := by
  have handed : ∃ t t', World.sample.tokens .sample twoSignIns = [t, t'] := ⟨_, _, rfl⟩
  obtain ⟨t, t', tokens⟩ := handed
  have distinct : ∀ i j, World.sample.ids.used ≤ i → i < j →
      j < (World.sample.after .sample twoSignIns).ids.used →
        World.sample.ids.draw i ≠ World.sample.ids.draw j := by
    intro i j _ lt till
    have two : (World.sample.after .sample twoSignIns).ids.used = 2 := rfl
    obtain rfl : i = 0 := by omega
    obtain rfl : j = 1 := by omega
    exact show (0 : BitVec 128) ≠ 1 by decide
  have nodup := (sessions_independent .sample .sample).1 twoSignIns distinct
  rw [tokens] at nodup
  have other : t ≠ t' := fun same => (List.nodup_cons.1 nodup).1 (List.mem_singleton.2 same)
  obtain ⟨r, w', ended⟩ := Ends.total (Service.signOut .sample (some t))
    (World.sample.after .sample twoSignIns)
  exact ⟨t, t', w', tokens, other, ⟨r, ended⟩,
    (sessions_independent .sample (World.sample.after .sample twoSignIns)).2 t t' other w'
      (.inl ⟨r, ended⟩)⟩

end SignIn
