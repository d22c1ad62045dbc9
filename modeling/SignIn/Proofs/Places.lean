import SignIn.Proofs.Respect

/-!
# Places

Where in the stores something is kept. An account and a challenge are kept under an address, a ban
under a token; on the server the keys keep them apart. A call is `Confined` to a place: it changes
no other, and what it tells and leaves there depends on nothing else that is kept. Each call of a
store that the service makes has its lemma.
-/

namespace SignIn

open World

variable {α : Type}

/-! ## Places -/

inductive Place
  | account (e : Email)
  | challenge (e : Email)
  | ban (t : String)

/-- What is kept at a place: in memory, in the database, or on the server. -/
inductive Holding
  | user (u : Option User)
  | row (onFile : Bool) (r : Except TableFault (Option Row))
  | pending (seconds : Int) (p : Option Pending)
  | deadline (d : Option Deadline)
  | stored (seconds : Option Int) (s : Option Stored)

/-- What is kept at a place of the stores of a world, whether or not it is over. -/
def World.held (w : World) : Place → Holding
  | .account e =>
    match w.accounts with
    | .directory d => .user (d.find? e)
    | .table t => .row t.onFile (t.find? e.text)
  | .challenge e =>
    match w.challenges with
    | .book b => .pending b.seconds (Keyed.find? e b.pending)
    | .keyspace seconds =>
      .stored (some seconds) (Keyed.find? (Challenges.key e) w.keyspace.entries)
  | .ban t =>
    match w.bans with
    | .register r => .deadline (Keyed.find? t r.ends)
    | .keyspace => .stored none (Keyed.find? (Bans.key t) w.keyspace.entries)

/-- What surrounds the stores: the clocks, and what is out of order. -/
structure Surroundings where
  wall : Int
  uptime : Int
  outages : Target → Option Fault
  served : Keyed String ServerFault

def World.surroundings (w : World) : Surroundings :=
  ⟨w.wall, w.uptime, w.outages, w.keyspace.outages⟩

section Places

variable {w v : World} {e : Email} {t : String}

/-- Where a user may be held, the accounts are a directory. -/
lemma held_account_user {u : Option User} (h : w.held (.account e) = .user u) :
    ∃ d, w.accounts = .directory d ∧ d.find? e = u := by
  rw [held] at h
  cases store : w.accounts with
  | directory d =>
    rw [store] at h
    exact ⟨d, rfl, Holding.user.inj h⟩
  | table t =>
    rw [store] at h
    cases h

/-- Where a row may be held, the accounts are a table. -/
lemma held_account_row {onFile : Bool} {r : Except TableFault (Option Row)}
    (h : w.held (.account e) = .row onFile r) :
    ∃ t, w.accounts = .table t ∧ t.onFile = onFile ∧ t.find? e.text = r := by
  rw [held] at h
  cases store : w.accounts with
  | directory d =>
    rw [store] at h
    cases h
  | table t =>
    rw [store] at h
    exact ⟨t, rfl, Holding.row.inj h⟩

/-- Where a pending challenge may be held, the challenges are a book. -/
lemma held_challenge_pending {seconds : Int} {p : Option Pending}
    (h : w.held (.challenge e) = .pending seconds p) :
    ∃ b, w.challenges = .book b ∧ b.seconds = seconds ∧ Keyed.find? e b.pending = p := by
  rw [held] at h
  cases store : w.challenges with
  | book b =>
    rw [store] at h
    exact ⟨b, rfl, Holding.pending.inj h⟩
  | keyspace seconds =>
    rw [store] at h
    cases h

/-- Where a stored challenge may be held, the challenges are on the server. -/
lemma held_challenge_stored {seconds : Option Int} {s : Option Stored}
    (h : w.held (.challenge e) = .stored seconds s) :
    ∃ n, w.challenges = .keyspace n ∧ some n = seconds ∧
      Keyed.find? (Challenges.key e) w.keyspace.entries = s := by
  rw [held] at h
  cases store : w.challenges with
  | book b =>
    rw [store] at h
    cases h
  | keyspace n =>
    rw [store] at h
    exact ⟨n, rfl, Holding.stored.inj h⟩

/-- Where a deadline may be held, the bans are a register. -/
lemma held_ban_deadline {d : Option Deadline} (h : w.held (.ban t) = .deadline d) :
    ∃ r, w.bans = .register r ∧ Keyed.find? t r.ends = d := by
  rw [held] at h
  cases store : w.bans with
  | register r =>
    rw [store] at h
    exact ⟨r, rfl, Holding.deadline.inj h⟩
  | keyspace =>
    rw [store] at h
    cases h

/-- Where a stored ban may be held, the bans are on the server. -/
lemma held_ban_stored {seconds : Option Int} {s : Option Stored}
    (h : w.held (.ban t) = .stored seconds s) :
    w.bans = .keyspace ∧ Keyed.find? (Bans.key t) w.keyspace.entries = s := by
  rw [held] at h
  cases store : w.bans with
  | register r =>
    rw [store] at h
    cases h
  | keyspace =>
    rw [store] at h
    exact ⟨rfl, (Holding.stored.inj h).2⟩

/-- Who is found under an address is what is kept there. -/
lemma read_of_held (h : v.held (.account e) = w.held (.account e)) :
    v.accounts.read e = w.accounts.read e := by
  cases store : w.accounts with
  | directory d =>
    obtain ⟨d', store', found⟩ := held_account_user (h.trans (by rw [held, store]))
    rw [store', Accounts.read, Accounts.read, found]
  | table t =>
    obtain ⟨t', store', _, found⟩ := held_account_row (h.trans (by rw [held, store]))
    rw [store', Accounts.read, Accounts.read, found]

/-- The key on the server under which something may be kept. -/
def Place.key? : Place → Option String
  | account _ => none
  | challenge e => some (Challenges.key e)
  | ban t => some (Bans.key t)

/-- No two places have one key on the server. -/
lemma Place.key?_inj {p q : Place} {key : String} (h : p.key? = some key) (k : q.key? = some key) :
    p = q := by
  cases p with
  | account e => cases h
  | challenge e =>
    cases h
    cases q with
    | account f => cases k
    | challenge f => rw [Challenges.key_inj.1 (Option.some.inj k)]
    | ban t => exact absurd (Option.some.inj k) (Bans.key_ne t e)
  | ban t =>
    cases h
    cases q with
    | account f => cases k
    | challenge f => exact absurd (Option.some.inj k).symm (Bans.key_ne t f)
    | ban u => rw [Bans.key_inj.1 (Option.some.inj k)]

/-- What is kept at a place changes with the server only if the entry of its key does. -/
lemma held_of_keyspace {k : Keyspace} {p : Place}
    (same : ∀ key, p.key? = some key →
      Keyed.find? key k.entries = Keyed.find? key w.keyspace.entries) :
    ({ w with keyspace := k } : World).held p = w.held p := by
  cases p with
  | account e => rfl
  | challenge e =>
    simp only [held]
    rw [same _ rfl]
  | ban t =>
    simp only [held]
    rw [same _ rfl]

end Places

/-! ## Stores -/

def Command.key : Command → String
  | put key .. | read key | probe key | remove key | removeIf key _ => key

namespace Keyspace

variable {k k' : Keyspace}

/-- What a command meets depends on the outages of the server alone. -/
lemma fault?_congr (same : k'.outages = k.outages) (c : Command) : k'.fault? c = k.fault? c := by
  simp only [fault?, same]

/-- A key whose entry is the same shows the same. -/
lemma find?_of_entry {key : String}
    (same : Keyed.find? key k'.entries = Keyed.find? key k.entries) (now : Int) :
    k'.find? now key = k.find? now key := by
  rw [find?, find?, same]

/-- A command leaves the entries of other keys. -/
lemma find?_carriedOut_ne (k : Keyspace) (now : Int) {c : Command} {key : String}
    (other : c.key ≠ key) :
    Keyed.find? key (k.carriedOut now c).entries = Keyed.find? key k.entries := by
  cases c with
  | put key' value seconds => exact (Keyed.find?_put ..).trans (if_neg other)
  | read key' | probe key' => rfl
  | remove key' => exact (Keyed.find?_drop ..).trans (if_neg other)
  | removeIf key' expected =>
    rw [carriedOut, apply]
    split
    · exact (Keyed.find?_drop ..).trans (if_neg other)
    · rfl

/-- What a command makes of the entry of its key depends on that entry. -/
lemma find?_carriedOut_congr (now : Int) {c : Command}
    (same : Keyed.find? c.key k'.entries = Keyed.find? c.key k.entries) :
    Keyed.find? c.key (k'.carriedOut now c).entries =
      Keyed.find? c.key (k.carriedOut now c).entries := by
  cases c with
  | put key value seconds =>
    exact (Keyed.find?_put_self ..).trans (Keyed.find?_put_self ..).symm
  | read key | probe key => exact same
  | remove key => exact (Keyed.find?_drop_self ..).trans (Keyed.find?_drop_self ..).symm
  | removeIf key expected =>
    have there (k : Keyspace) : ({ k with sent := k.sent ++ [.removeIf key expected] } :
        Keyspace).find? now key = k.find? now key := rfl
    have found : k'.find? now key = k.find? now key := find?_of_entry same now
    rw [carriedOut, carriedOut, apply, apply, there, there, found]
    split
    · exact (Keyed.find?_drop_self ..).trans (Keyed.find?_drop_self ..).symm
    · exact same

end Keyspace

namespace Directory

variable {d d' : Directory} {u : User}

/-- Whether a user is added depends on who is found under the address. -/
lemma add?_congr (same : d'.find? u.email = d.find? u.email) :
    d.add? u = none ∧ d'.add? u = none ∨
      ∃ d₁ d₁', d.add? u = some d₁ ∧ d'.add? u = some d₁' ∧
        d₁'.find? u.email = d₁.find? u.email := by
  have taken {d : Directory} {q : User} (found : d.find? u.email = some q) : d.add? u = none := by
    rw [add?, found]
  have added {d : Directory} (free : d.find? u.email = none) :
      d.add? u = some ⟨Keyed.put u.email u d.users⟩ := by rw [add?, free]
  cases found : d.find? u.email with
  | some q => exact .inl ⟨taken found, taken (same.trans found)⟩
  | none =>
    have first := added found
    have second := added (same.trans found)
    refine .inr ⟨_, _, first, second, ?_⟩
    rw [find?_add? first, find?_add? second, if_pos rfl, if_pos rfl]

end Directory

namespace Table

variable {t t' : Table} {r : Row}

/-- A row that is inserted is what is found under its address from then on. -/
lemma insert_inv (h : t.insert r = .ok t') : t'.onFile = t.onFile ∧
    ∀ email, t'.find? email = if r.email = email then .ok (some r) else t.find? email := by
  have inserted := Accounts.insert_spec t r
  cases found : t.find? r.email with
  | error f =>
    rw [found] at inserted
    cases inserted.2.symm.trans h
  | ok row =>
    rw [found] at inserted
    cases whole : r.password.isWhole with
    | false =>
      rw [whole] at inserted
      cases inserted.symm.trans h
    | true =>
      rw [whole] at inserted
      cases row with
      | some q => cases inserted.symm.trans h
      | none =>
        obtain ⟨t₁, added, _, kind, rows⟩ := inserted
        cases added.symm.trans h
        exact ⟨kind, rows⟩

/-- Whether a row is inserted depends on what is found under its address. -/
lemma insert_congr (same : t'.find? r.email = t.find? r.email) :
    (∃ f, t.insert r = .error f ∧ t'.insert r = .error f) ∨
      ∃ t₁ t₁', t.insert r = .ok t₁ ∧ t'.insert r = .ok t₁' ∧
        t₁'.find? r.email = t₁.find? r.email := by
  have inserted := Accounts.insert_spec t r
  have inserted' := Accounts.insert_spec t' r
  rw [same] at inserted'
  cases found : t.find? r.email with
  | error f =>
    rw [found] at inserted inserted'
    exact .inl ⟨.missing, inserted.2, inserted'.2⟩
  | ok row =>
    rw [found] at inserted inserted'
    cases whole : r.password.isWhole with
    | false =>
      rw [whole] at inserted inserted'
      exact .inl ⟨.unbound, inserted, inserted'⟩
    | true =>
      rw [whole] at inserted inserted'
      cases row with
      | some q => exact .inl ⟨.duplicate, inserted, inserted'⟩
      | none =>
        obtain ⟨t₁, added, _, _, rows⟩ := inserted
        obtain ⟨t₁', added', _, _, rows'⟩ := inserted'
        refine .inr ⟨t₁, t₁', added, added', ?_⟩
        rw [rows, rows', if_pos rfl, if_pos rfl]

end Table

namespace Register

variable {r r' : Register} {now now' : Int} {t : String}

/-- Sweeping a token leaves the bans of the others. -/
lemma find?_sweep (r : Register) (now : Int) {t u : String} (other : t ≠ u) :
    Keyed.find? u (r.sweep now t).ends = Keyed.find? u r.ends := by
  rw [sweep]
  split
  · split
    · exact (Keyed.find?_drop ..).trans (if_neg other)
    · rfl
  · rfl

/-- A look-up leaves the entries of other tokens. -/
lemma find?_contains_ne (r : Register) (now : Int) {t u : String} (other : t ≠ u) :
    Keyed.find? u (r.contains now t).2.ends = Keyed.find? u r.ends := by
  rw [contains]
  split
  · rfl
  · split
    · exact r.find?_sweep now other
    · rfl

/-- What a look-up tells and leaves of the entry of its token depends on that entry. -/
lemma contains_congr (clock : now' = now)
    (same : Keyed.find? t r'.ends = Keyed.find? t r.ends) :
    (r'.contains now' t).1 = (r.contains now t).1 ∧
      Keyed.find? t (r'.contains now' t).2.ends = Keyed.find? t (r.contains now t).2.ends := by
  rw [contains, contains, clock, same]
  cases found : Keyed.find? t r.ends with
  | none =>
    rw [found] at same
    exact ⟨rfl, same.trans found.symm⟩
  | some d =>
    rw [found] at same
    dsimp only
    by_cases come : d.hasCome now = true
    · rw [if_pos come, if_pos come, sweep, sweep, same, found]
      dsimp only
      rw [if_pos come, if_pos come]
      exact ⟨rfl, (Keyed.find?_drop_self ..).trans (Keyed.find?_drop_self ..).symm⟩
    · rw [if_neg come, if_neg come]
      exact ⟨rfl, same.trans found.symm⟩

end Register

namespace Book

variable {b b' : Book} {now now' : Int} {e : Email}

/-- Consuming removes the challenge of its address and no other. -/
lemma find?_consume (b : Book) (e f : Email) :
    Keyed.find? f (b.consume e).pending = if e = f then none else Keyed.find? f b.pending :=
  Keyed.find?_drop ..

/-- Taking a challenge leaves those of other addresses. -/
lemma find?_take_ne (b : Book) (now : Int) {e f : Email} (other : e ≠ f) (c : Challenge) :
    Keyed.find? f (b.take now e c).2.pending = Keyed.find? f b.pending := by
  have consumed : Keyed.find? f (b.consume e).pending = Keyed.find? f b.pending :=
    (b.find?_consume e f).trans (if_neg other)
  rw [take]
  split
  · rfl
  · split
    · exact consumed
    · split
      · exact consumed
      · rfl

/-- What taking a challenge tells and leaves of that of its address depends on the latter. -/
lemma take_congr (clock : now' = now)
    (same : Keyed.find? e b'.pending = Keyed.find? e b.pending) (c : Challenge) :
    (b'.take now' e c).1 = (b.take now e c).1 ∧
      Keyed.find? e (b'.take now' e c).2.pending = Keyed.find? e (b.take now e c).2.pending := by
  have consumed (b : Book) : Keyed.find? e (b.consume e).pending = none :=
    (b.find?_consume e e).trans (if_pos rfl)
  rw [take, take, clock, same]
  cases found : Keyed.find? e b.pending with
  | none =>
    rw [found] at same
    exact ⟨rfl, same.trans found.symm⟩
  | some p =>
    rw [found] at same
    dsimp only
    by_cases come : p.deadline.hasCome now = true
    · rw [if_pos come, if_pos come]
      exact ⟨rfl, (consumed b').trans (consumed b).symm⟩
    · rw [if_neg come, if_neg come]
      by_cases equal : p.challenge = c
      · rw [if_pos equal, if_pos equal]
        exact ⟨rfl, (consumed b').trans (consumed b).symm⟩
      · rw [if_neg equal, if_neg equal]
        exact ⟨rfl, same.trans found.symm⟩

/-- Taking a challenge leaves the lifetime of the book. -/
lemma seconds_take (b : Book) (now : Int) (e : Email) (c : Challenge) :
    (b.take now e c).2.seconds = b.seconds := by
  obtain told | ⟨b', told, seconds, _⟩ := b.take_spec now e c
  · rw [told]
    rfl
  · rw [told]
    exact seconds

end Book

/-! ## Calls -/

/-- Nothing has changed but what is kept at a place, and what was noted. -/
structure Elsewhere (p : Place) (w w' : World) : Prop where
  around : w'.surroundings = w.surroundings
  ids : w'.ids = w.ids
  codes : w'.codes = w.codes
  mailer : w'.mailer = w.mailer
  held : ∀ q, q ≠ p → w'.held q = w.held q

/-- Two worlds with the same surroundings keep the same at a place. -/
structure Twin (p : Place) (w v : World) : Prop where
  around : v.surroundings = w.surroundings
  held : v.held p = w.held p

/-- A call changes no other place than one, and what it tells and leaves there depends on nothing
else that is kept. -/
structure Confined (p : Place) (x : Call α) : Prop where
  elsewhere : ∀ ⦃w r w'⦄, Ends x w r w' → Elsewhere p w w'
  twin : Respects (Twin p) id x

/-- A world has not changed but at any place. -/
lemma Elsewhere.refl (p : Place) (w : World) : Elsewhere p w w :=
  ⟨rfl, rfl, rfl, rfl, fun _ _ => rfl⟩

/-- A line of the journal changes no place. -/
lemma Elsewhere.noting (p : Place) (w : World) (level : Level) (source text : String) :
    Elsewhere p w (w.noting level source text) :=
  ⟨rfl, rfl, rfl, rfl, fun _ _ => rfl⟩

section Stores

variable {w : World} {e : Email} {t : String}

/-- Accounts may change at an address. -/
lemma Elsewhere.of_accounts {accounts : Accounts} (same : ∀ f, e ≠ f →
      World.held { w with accounts := accounts } (.account f) = w.held (.account f)) :
    Elsewhere (.account e) w { w with accounts := accounts } := by
  refine ⟨rfl, rfl, rfl, rfl, fun q other => ?_⟩
  cases q with
  | account f => exact same f fun addresses => other (by rw [addresses])
  | challenge | ban => rfl

/-- The bans in memory may change at a token. -/
lemma Elsewhere.of_register {b b' : Register} (store : w.bans = .register b)
    (same : ∀ u, t ≠ u → Keyed.find? u b'.ends = Keyed.find? u b.ends) :
    Elsewhere (.ban t) w { w with bans := .register b' } := by
  refine ⟨rfl, rfl, rfl, rfl, fun q other => ?_⟩
  cases q with
  | account | challenge => rfl
  | ban u =>
    simp only [World.held, store]
    rw [same u fun tokens => other (by rw [tokens])]

/-- The challenges in memory may change at an address. -/
lemma Elsewhere.of_book {b b' : Book} (store : w.challenges = .book b)
    (seconds : b'.seconds = b.seconds)
    (same : ∀ f, e ≠ f → Keyed.find? f b'.pending = Keyed.find? f b.pending) :
    Elsewhere (.challenge e) w { w with challenges := .book b' } := by
  refine ⟨rfl, rfl, rfl, rfl, fun q other => ?_⟩
  cases q with
  | account | ban => rfl
  | challenge f =>
    simp only [World.held, store]
    rw [same f fun addresses => other (by rw [addresses]), seconds]

end Stores

namespace Twin

variable {p : Place} {w v : World}

/-- Twins show one uptime. -/
lemma uptime (h : Twin p w v) : v.uptime = w.uptime := congrArg Surroundings.uptime h.around

/-- Twins have servers with the same outages. -/
lemma served (h : Twin p w v) : v.keyspace.outages = w.keyspace.outages :=
  congrArg Surroundings.served h.around

/-- Twins stay so when a line is noted in both. -/
lemma noting (h : Twin p w v) (level : Level) (source text : String) :
    Twin p (w.noting level source text) (v.noting level source text) :=
  ⟨h.around, h.held⟩

/-- Twins stay so if servers change whose entries for the place are the same. -/
lemma keyspace (h : Twin p w v) {k k' : Keyspace} (served : k'.outages = k.outages)
    (same : ∀ key, p.key? = some key → Keyed.find? key k'.entries = Keyed.find? key k.entries) :
    Twin p { w with keyspace := k } { v with keyspace := k' } where
  around := by
    have around := h.around
    simp only [surroundings, Surroundings.mk.injEq] at around ⊢
    exact ⟨around.1, around.2.1, around.2.2.1, served⟩
  held := by
    have held := h.held
    cases p with
    | account e => exact held
    | challenge e =>
      simp only [World.held] at held ⊢
      rw [same _ rfl]
      cases store : w.challenges with
      | book b =>
        cases store' : v.challenges with
        | book b' => simpa only [store, store'] using held
        | keyspace n => simp only [store, store', reduceCtorEq] at held
      | keyspace n =>
        cases store' : v.challenges with
        | book b' => simp only [store, store', reduceCtorEq] at held
        | keyspace m =>
          simp only [store, store', Holding.stored.injEq] at held ⊢
          exact ⟨held.1, trivial⟩
    | ban t =>
      simp only [World.held] at held ⊢
      rw [same _ rfl]
      cases store : w.bans with
      | register r =>
        cases store' : v.bans with
        | register r' => simpa only [store, store'] using held
        | keyspace => simp only [store, store', reduceCtorEq] at held
      | keyspace =>
        cases store' : v.bans with
        | register r' => simp only [store, store', reduceCtorEq] at held
        | keyspace => rfl

end Twin

section Commands

variable {p : Place} {c : Command} {source : String} {words : ServerFault → String}
  {fault : ServerFault → Fault} {w w' v v' : World}

/-- A command about the key of a place changes no other place. -/
lemma reported_bind_elsewhere {g : Keyspace → α} (key : p.key? = some c.key) {r : Except Fault α}
    (h : Ends (reported source words fault c >>= fun k => pure (g k)) w r w') :
    Elsewhere p w w' := by
  obtain ⟨_, _, rfl⟩ | ⟨_, _, _, rfl⟩ := reported_bind_inv h
  · refine ⟨?_, rfl, rfl, rfl, fun q ne => held_of_keyspace fun key' at_ => ?_⟩
    · rw [surroundings, surroundings, Keyspace.outages_carriedOut]
    · refine w.keyspace.find?_carriedOut_ne _ ?_
      rintro rfl
      exact ne (Place.key?_inj at_ key)
  · exact ⟨rfl, rfl, rfl, rfl, fun q _ => held_of_keyspace fun _ _ => rfl⟩

/-- A command fails on both of two servers or on none; a call that tells something of the entry that
it finds tells the same if it finds the same, and leaves twins twins. -/
lemma reported_bind_twin {g : Keyspace → α}
    (same : ∀ k k', Keyed.find? c.key k'.entries = Keyed.find? c.key k.entries → g k' = g k)
    (key : p.key? = some c.key) (twin : Twin p w v)
    (entry : Keyed.find? c.key v.keyspace.entries = Keyed.find? c.key w.keyspace.entries)
    {r s : Except Fault α}
    (h : Ends (reported source words fault c >>= fun k => pure (g k)) w r w')
    (h' : Ends (reported source words fault c >>= fun k => pure (g k)) v s v') :
    r.mapError id = s.mapError id ∧ Twin p w' v' := by
  have faults := Keyspace.fault?_congr twin.served c
  have only {key' : String} (at_ : p.key? = some key') : c.key = key' :=
    Option.some.inj (key.symm.trans at_)
  obtain ⟨rfl, rfl, rfl, rfl⟩ | ⟨f, rfl, rfl, rfl, rfl⟩ := reported_bind_both faults h h'
  · refine ⟨congrArg Except.ok (same _ _ entry).symm, twin.keyspace ?_ fun key' at_ => ?_⟩
    · rw [Keyspace.outages_carriedOut, Keyspace.outages_carriedOut, twin.served]
    · obtain rfl := only at_
      rw [twin.uptime]
      exact Keyspace.find?_carriedOut_congr _ entry
  · have sent : Twin p { w with keyspace := { w.keyspace with sent := w.keyspace.sent ++ [c] } }
        { v with keyspace := { v.keyspace with sent := v.keyspace.sent ++ [c] } } := by
      refine twin.keyspace twin.served fun key' at_ => ?_
      obtain rfl := only at_
      exact entry
    exact ⟨rfl, sent.noting _ _ _⟩

end Commands

/-! ### Bans -/

namespace Bans

/-- Asking for a ban is confined to the token. -/
lemma contains_confined (t : String) : Confined (.ban t) (contains t) where
  elsewhere w r w' run := by
    rw [contains, Ends.get_bind] at run
    cases store : w.bans with
    | register b =>
      rw [store, Ends.set_bind] at run
      obtain ⟨_, rfl⟩ := Ends.pure_inv run
      exact .of_register store fun u => b.find?_contains_ne _
    | keyspace =>
      simp only [store, command_eq] at run
      exact reported_bind_elsewhere rfl run
  twin w v twin r w' s v' run run' := by
    rw [contains, Ends.get_bind] at run run'
    cases store : w.bans with
    | register b =>
      obtain ⟨b', store', entry⟩ := held_ban_deadline (twin.held.trans (by rw [held, store]))
      rw [store, Ends.set_bind] at run
      rw [store', Ends.set_bind] at run'
      obtain ⟨rfl, rfl⟩ := Ends.pure_inv run
      obtain ⟨rfl, rfl⟩ := Ends.pure_inv run'
      obtain ⟨told, left⟩ := Register.contains_congr twin.uptime entry
      refine ⟨congrArg Except.ok told.symm, twin.around, ?_⟩
      simp only [held]
      rw [left]
    | keyspace =>
      obtain ⟨store', entry⟩ := held_ban_stored (twin.held.trans (by rw [held, store]))
      simp only [store, store', twin.uptime, command_eq] at run run'
      exact reported_bind_twin (c := .probe (key t))
        (fun k k' same => congrArg Option.isSome (Keyspace.find?_of_entry same w.uptime)) rfl twin
        entry run run'

/-- Banning is confined to the token. -/
lemma revoke_confined (t : String) (n : Int) : Confined (.ban t) (revoke t (.whole n)) where
  elsewhere w r w' run := by
    rw [revoke, Ends.get_bind] at run
    cases store : w.bans with
    | register b =>
      simp only [store] at run
      split at run
      · obtain ⟨_, rfl⟩ := Ends.set_inv run
        refine .of_register store fun u other => ?_
        rw [Register.revoke, Register.ban, Keyed.find?_put, if_neg other]
      · obtain ⟨_, rfl⟩ := Ends.throw_inv run
        exact .refl _ _
    | keyspace =>
      simp only [store, Seconds.truncate?, command_eq] at run
      exact reported_bind_elsewhere (g := fun _ => ()) rfl run
  twin w v twin r w' s v' run run' := by
    rw [revoke, Ends.get_bind] at run run'
    cases store : w.bans with
    | register b =>
      obtain ⟨b', store', entry⟩ := held_ban_deadline (twin.held.trans (by rw [held, store]))
      simp only [store] at run
      simp only [store'] at run'
      split at run
      · next fits =>
        rw [if_pos fits] at run'
        obtain ⟨rfl, rfl⟩ := Ends.set_inv run
        obtain ⟨rfl, rfl⟩ := Ends.set_inv run'
        refine ⟨rfl, twin.around, ?_⟩
        simp only [held, Register.revoke, Register.ban]
        rw [Keyed.find?_put_self, Keyed.find?_put_self, entry, twin.uptime]
      · next long =>
        rw [if_neg long] at run'
        obtain ⟨rfl, rfl⟩ := Ends.throw_inv run
        obtain ⟨rfl, rfl⟩ := Ends.throw_inv run'
        exact ⟨rfl, twin⟩
    | keyspace =>
      obtain ⟨store', entry⟩ := held_ban_stored (twin.held.trans (by rw [held, store]))
      simp only [store, store', Seconds.truncate?, command_eq] at run run'
      exact reported_bind_twin (g := fun _ => ()) (c := .put (key t) "1" (max 1 n))
        (fun _ _ _ => rfl) rfl twin entry run run'

end Bans

/-! ### Challenges -/

namespace Challenges

/-- Issuing a challenge is confined to the address. -/
lemma issue_confined (e : Email) (c : Challenge) : Confined (.challenge e) (issue e c) where
  elsewhere w r w' run := by
    rw [issue, Ends.get_bind] at run
    cases store : w.challenges with
    | book b =>
      simp only [store] at run
      split at run
      · obtain ⟨_, rfl⟩ := Ends.set_inv run
        refine .of_book store rfl fun f other => ?_
        rw [Book.issue, Keyed.find?_put, if_neg other]
      · obtain ⟨_, rfl⟩ := Ends.throw_inv run
        exact .refl _ _
    | keyspace seconds =>
      simp only [store, command_eq] at run
      exact reported_bind_elsewhere (g := fun _ => ()) rfl run
  twin w v twin r w' s v' run run' := by
    rw [issue, Ends.get_bind] at run run'
    cases store : w.challenges with
    | book b =>
      obtain ⟨b', store', seconds, _⟩ :=
        held_challenge_pending (twin.held.trans (by rw [held, store]))
      simp only [store] at run
      simp only [store', seconds] at run'
      split at run
      · next fits =>
        rw [if_pos fits] at run'
        obtain ⟨rfl, rfl⟩ := Ends.set_inv run
        obtain ⟨rfl, rfl⟩ := Ends.set_inv run'
        refine ⟨rfl, twin.around, ?_⟩
        simp only [held, Book.issue]
        rw [Keyed.find?_put_self, Keyed.find?_put_self, seconds, twin.uptime]
      · next long =>
        rw [if_neg long] at run'
        obtain ⟨rfl, rfl⟩ := Ends.throw_inv run
        obtain ⟨rfl, rfl⟩ := Ends.throw_inv run'
        exact ⟨rfl, twin⟩
    | keyspace seconds =>
      obtain ⟨n, store', same, entry⟩ :=
        held_challenge_stored (twin.held.trans (by rw [held, store]))
      obtain rfl := Option.some.inj same
      simp only [store, store', command_eq] at run run'
      exact reported_bind_twin (g := fun _ => ()) (c := .put (key e) c.payload n)
        (fun _ _ _ => rfl) rfl twin entry run run'

/-- Taking a challenge is confined to the address. -/
lemma take_confined (e : Email) (c : Challenge) : Confined (.challenge e) (take e c) where
  elsewhere w r w' run := by
    rw [take, Ends.get_bind] at run
    cases store : w.challenges with
    | book b =>
      rw [store, Ends.set_bind] at run
      obtain ⟨_, rfl⟩ := Ends.pure_inv run
      exact .of_book store (b.seconds_take _ e c) fun f other => b.find?_take_ne _ other c
    | keyspace seconds =>
      simp only [store, command_eq] at run
      exact reported_bind_elsewhere rfl run
  twin w v twin r w' s v' run run' := by
    rw [take, Ends.get_bind] at run run'
    cases store : w.challenges with
    | book b =>
      obtain ⟨b', store', seconds, entry⟩ :=
        held_challenge_pending (twin.held.trans (by rw [held, store]))
      rw [store, Ends.set_bind] at run
      rw [store', Ends.set_bind] at run'
      obtain ⟨rfl, rfl⟩ := Ends.pure_inv run
      obtain ⟨rfl, rfl⟩ := Ends.pure_inv run'
      obtain ⟨told, left⟩ := Book.take_congr twin.uptime entry c
      refine ⟨congrArg Except.ok told.symm, twin.around, ?_⟩
      simp only [held]
      rw [left, Book.seconds_take, Book.seconds_take, seconds]
    | keyspace seconds =>
      obtain ⟨n, store', _, entry⟩ :=
        held_challenge_stored (twin.held.trans (by rw [held, store]))
      simp only [store, store', twin.uptime, command_eq] at run run'
      exact reported_bind_twin (c := .removeIf (key e) c.payload)
        (fun k k' same => congrArg (· == some c.payload) (Keyspace.find?_of_entry same w.uptime))
        rfl twin entry run run'

end Challenges

/-! ### Accounts -/

namespace Accounts

/-- Looking up an account is confined to the address. -/
lemma lookUp_confined (e : Email) : Confined (.account e) (lookUp e) where
  elsewhere w r w' run := by
    obtain ⟨_, rfl⟩ := run.unique (lookUp_ends e w)
    exact ⟨rfl, rfl, rfl, rfl, fun _ _ => rfl⟩
  twin w v twin r w' s v' run run' := by
    obtain ⟨rfl, rfl⟩ := run.unique (lookUp_ends e w)
    obtain ⟨rfl, rfl⟩ := run'.unique (lookUp_ends e v)
    exact ⟨by rw [read_of_held twin.held], twin.around, twin.held⟩

/-- Adding a user changes no other address. -/
lemma add_elsewhere {u : User} {w w' : World} {r : Except Fault Unit} (run : Ends (add u) w r w') :
    Elsewhere (.account u.email) w w' := by
  rw [add, Ends.get_bind] at run
  cases store : w.accounts with
  | directory d =>
    simp only [store] at run
    cases added : d.add? u with
    | none =>
      rw [added] at run
      obtain ⟨_, rfl⟩ := Ends.throw_inv run
      exact .refl _ _
    | some d' =>
      rw [added] at run
      obtain ⟨_, rfl⟩ := Ends.modify_inv run
      refine .of_accounts fun e other => ?_
      simp only [held, store]
      rw [Directory.find?_add? added, if_neg other]
  | table t =>
    simp only [store] at run
    cases inserted : t.insert (.ofUser u) with
    | ok t' =>
      rw [inserted] at run
      obtain ⟨_, rfl⟩ := Ends.modify_inv run
      obtain ⟨kind, rows⟩ := Table.insert_inv inserted
      refine .of_accounts fun e other => ?_
      have ne : (Row.ofUser u).email ≠ e.text := mt Email.text_inj.1 other
      simp only [held, store]
      rw [rows, kind, if_neg ne]
    | error f =>
      rw [inserted] at run
      cases f with
      | duplicate | unbound =>
        obtain ⟨_, rfl⟩ := Ends.throw_inv run
        exact .refl _ _
      | missing =>
        rw [Ends.log_bind] at run
        obtain ⟨_, rfl⟩ := Ends.throw_inv run
        exact .noting ..

/-- Adding a user ends alike where the same is held of the address. -/
lemma add_twin (u : User) : Respects (Twin (.account u.email)) id (add u) := by
  intro w v twin r w' s v' run run'
  rw [add, Ends.get_bind] at run run'
  cases store : w.accounts with
  | directory d =>
    obtain ⟨d', store', entry⟩ := held_account_user (twin.held.trans (by rw [held, store]))
    simp only [store] at run
    simp only [store'] at run'
    obtain ⟨taken, taken'⟩ | ⟨d₁, d₁', added, added', found⟩ := Directory.add?_congr entry
    · rw [taken] at run
      rw [taken'] at run'
      obtain ⟨rfl, rfl⟩ := Ends.throw_inv run
      obtain ⟨rfl, rfl⟩ := Ends.throw_inv run'
      exact ⟨rfl, twin⟩
    · rw [added] at run
      rw [added'] at run'
      obtain ⟨rfl, rfl⟩ := Ends.modify_inv run
      obtain ⟨rfl, rfl⟩ := Ends.modify_inv run'
      refine ⟨rfl, twin.around, ?_⟩
      simp only [held]
      rw [found]
  | table t =>
    obtain ⟨t', store', onFile, entry⟩ :=
      held_account_row (twin.held.trans (by rw [held, store]))
    simp only [store] at run
    simp only [store'] at run'
    obtain ⟨f, broken, broken'⟩ | ⟨t₁, t₁', inserted, inserted', found⟩ :=
      Table.insert_congr (r := .ofUser u) entry
    · rw [broken] at run
      rw [broken'] at run'
      cases f with
      | duplicate | unbound =>
        obtain ⟨rfl, rfl⟩ := Ends.throw_inv run
        obtain ⟨rfl, rfl⟩ := Ends.throw_inv run'
        exact ⟨rfl, twin⟩
      | missing =>
        rw [Ends.log_bind] at run run'
        obtain ⟨rfl, rfl⟩ := Ends.throw_inv run
        obtain ⟨rfl, rfl⟩ := Ends.throw_inv run'
        exact ⟨rfl, twin.noting _ _ _⟩
    · rw [inserted] at run
      rw [inserted'] at run'
      obtain ⟨rfl, rfl⟩ := Ends.modify_inv run
      obtain ⟨rfl, rfl⟩ := Ends.modify_inv run'
      refine ⟨rfl, twin.around, ?_⟩
      have address : (Row.ofUser u).email = u.email.text := rfl
      rw [address] at found
      simp only [held]
      rw [found, (Table.insert_inv inserted).1, (Table.insert_inv inserted').1, onFile]

/-- Adding a user is confined to the address. -/
lemma add_confined (u : User) : Confined (.account u.email) (add u) :=
  ⟨fun _ _ _ => add_elsewhere, add_twin u⟩

end Accounts

end SignIn
