import SignIn.Proofs.Run

/-!
# Contained operations

An operation is contained if it lets no fault escape as the fault it is. As long as the
collaborators fail with no faults but their own, each of their faults has a refusal, and so signing
up, signing in and verifying are contained. A torn password is the exception: no refusal stands for
it where it cannot be kept, and none where it cannot be compared.
-/

namespace SignIn

open World Token

/-! ## Collaborators -/

/-- The kinds of faults that are a collaborator's own. -/
def Target.Owns : Target → FaultKind → Prop
  | lookUp, k | add, k | check, k => ∃ f, k = .account f
  | issue, k | take, k => ∃ f, k = .challenge f
  | isBanned, k | revoke, k => k = .ban
  | send, k => k = .mail

/-- The collaborators fail with no faults but their own. -/
structure World.FailsOwn (w : World) : Prop where
  outages : ∀ t f, w.outages t = some f → t.Owns f.kind
  mailing : ∀ m f, (w.mailer.answer m).1 = .error f → Target.send.Owns f.kind
  /-- The store in memory can hold a challenge's lifetime. -/
  holdable : ∀ b, w.challenges = .book b → (Seconds.whole b.seconds).fits = true

/-- A call that is started in a world fails with no faults but its own. -/
def FailsOwn {α : Type} (t : Target) (c : Call α) (w : World) : Prop :=
  ∀ f w', Ends c w (.error f) w' → t.Owns f.kind

section Collaborators

variable {α : Type} {w w' : World} {t : Target}

/-- A world with more lines in its journal fails with the same faults. -/
lemma World.FailsOwn.noted (h : w.FailsOwn) (k : Noted w w') : w'.FailsOwn := by
  obtain ⟨lines, rfl⟩ := k
  exact ⟨h.outages, h.mailing, h.holdable⟩

/-- A call that fails with faults of its own where it is in order does so wherever its outages are
its own too. -/
lemma FailsOwn.guarded {c : Call α} (out : ∀ f, w.outages t = some f → t.Owns f.kind)
    (own : w.outages t = none → FailsOwn t c w) : FailsOwn t (World.guarded t c) w := by
  intro f w' run
  obtain ⟨g, broken, told, _⟩ | ⟨order, run⟩ := guarded_inv run
  · cases told
    exact out f broken
  · exact own order f w' run

/-- The passwords of a user who is found and of a request for that user cannot be compared. -/
def World.Incomparable (w : World) (e : Email) (p : Password) : Prop :=
  w.outages .check = none ∧
    ∃ u, w.accounts.read e = .ok u ∧ (u.password.isWhole = false ∨ p.isWhole = false)

/-- Looking up an address tells that nobody is known under it. -/
def World.TellsFree (w : World) (e : Email) : Prop :=
  (∃ f, w.outages .lookUp = some f ∧ f.kind = .account .unknown) ∨
    w.outages .lookUp = none ∧ w.accounts.read e = .error (.account .unknown)

/-- The password that is given for a free address cannot be kept. -/
structure World.Unkept (w : World) (e : Email) (p : Password) : Prop where
  free : w.TellsFree e
  order : w.outages .add = none
  present : w.accounts.arePresent = true
  torn : w.accounts.canKeep p = false

namespace Accounts

/-- An address under which nobody can be told of is a fault of the account store. -/
lemma kind_of_read {accounts : Accounts} {e : Email} {f : Fault}
    (h : accounts.read e = .error f) : ∃ g, f.kind = .account g := by
  cases accounts with
  | directory d =>
    rw [read_directory] at h
    split at h
    · cases h
    · cases h
      exact ⟨_, rfl⟩
  | table t =>
    simp only [read] at h
    split at h
    · next row _ =>
      cases row with
      | none =>
        cases h
        exact ⟨_, rfl⟩
      | some row =>
        simp only [Row.told] at h
        split at h
        · cases h
        · cases h
          exact ⟨_, rfl⟩
    · cases h
      exact ⟨_, rfl⟩

/-- A store says that it does not know an address in one way only. -/
lemma read_of_unknown {accounts : Accounts} {e : Email} {f : Fault}
    (h : accounts.read e = .error f) (kind : f.kind = .account .unknown) :
    accounts.read e = .error (.account .unknown) := by
  cases accounts with
  | directory d =>
    rw [read_directory] at h ⊢
    split at h
    · cases h
    · rfl
  | table t =>
    simp only [read] at h ⊢
    split at h
    · next row _ =>
      cases row with
      | none => rfl
      | some row =>
        simp only [Row.told] at h ⊢
        split at h
        · cases h
        · cases h
          cases kind
    · cases h
      cases kind

/-- Looking up an account fails with faults of the accounts only. -/
lemma lookUp_failsOwn (e : Email) (w : World) : FailsOwn .lookUp (lookUp e) w := by
  intro f w' run
  exact kind_of_read (lookUp_inv run).1.symm

/-- Checking a password fails with a fault of the store's own if it can be compared. -/
lemma check_failsOwn {e : Email} {p : Password} (order : w.outages .check = none)
    (comparable : ¬ w.Incomparable e p) : FailsOwn .check (check e p) w := by
  intro f w' run
  have told := (check_inv run).1.symm
  cases found : w.accounts.read e with
  | error g =>
    rw [found] at told
    cases told
    exact kind_of_read found
  | ok u =>
    rw [found, Except.bind] at told
    have whole {q : Password} (in_hand : q = u.password ∨ q = p) : q.isWhole = true := by
      refine eq_true_of_ne_false fun torn => comparable ⟨order, u, found, ?_⟩
      obtain rfl | rfl := in_hand
      · exact .inl torn
      · exact .inr torn
    rw [verdict_of_whole (whole (.inl rfl)) (whole (.inr rfl))] at told
    split at told
    · cases told
    · cases told
      exact ⟨_, rfl⟩

/-- Adding a user fails with a fault of the store's own if the password can be kept. -/
lemma add_failsOwn {u : User}
    (kept : w.accounts.arePresent = true → w.accounts.canKeep u.password = true) :
    FailsOwn .add (add u) w := by
  intro f w' run
  obtain ⟨_, ⟨told, _⟩ | ⟨_, ⟨⟨_, told⟩, _⟩ | ⟨⟨_, told⟩, _⟩ | ⟨_, present, torn⟩⟩⟩ := add_inv run
  · cases told
  · cases told
    exact ⟨_, rfl⟩
  · cases told
    exact ⟨_, rfl⟩
  · rw [kept present] at torn
    cases torn

/-- Checking a password only notes what goes wrong. -/
lemma check_noted {e : Email} {p : Password} {r : Except Fault Unit}
    (h : Ends (check e p) w r w') : Noted w w' := by
  have looked {s : Except Fault User} {v : World} (run : Ends (lookUp e) w s v) : Noted w v := by
    obtain ⟨_, rfl⟩ := run.unique (lookUp_ends e w)
    exact ⟨_, rfl⟩
  rw [check] at h
  obtain ⟨u, v, run, h⟩ | ⟨f, run, _⟩ := h.bind_inv
  · obtain ⟨_, rfl⟩ := Ends.except_inv h
    exact looked run
  · exact looked run

end Accounts

/-- Issuing a challenge fails with faults of the challenges only, if its lifetime can be held. -/
lemma Challenges.issue_failsOwn (e : Email) (c : Challenge)
    (holdable : ∀ b, w.challenges = .book b → (Seconds.whole b.seconds).fits = true) :
    FailsOwn .issue (issue e c) w := by
  intro f w' run
  rw [issue, Ends.get_bind] at run
  cases store : w.challenges with
  | book b =>
    simp only [store, if_pos (holdable b store)] at run
    cases (Ends.set_inv run).1
  | keyspace seconds =>
    simp only [store, command_eq] at run
    obtain ⟨g, rfl⟩ := reported_bind_error run
    exact ⟨_, rfl⟩

/-- Taking a challenge fails with faults of the challenges only. -/
lemma Challenges.take_failsOwn (e : Email) (c : Challenge) (w : World) :
    FailsOwn .take (take e c) w := by
  intro f w' run
  rw [take, Ends.get_bind] at run
  cases store : w.challenges with
  | book b =>
    simp only [store, Ends.set_bind] at run
    cases (Ends.pure_inv run).1
  | keyspace seconds =>
    simp only [store, command_eq] at run
    obtain ⟨g, rfl⟩ := reported_bind_error run
    exact ⟨_, rfl⟩

/-- Asking for a ban fails with faults of the bans only. -/
lemma Bans.contains_failsOwn (t : String) (w : World) : FailsOwn .isBanned (contains t) w := by
  intro f w' run
  rw [contains, Ends.get_bind] at run
  cases store : w.bans with
  | register r =>
    simp only [store, Ends.set_bind] at run
    cases (Ends.pure_inv run).1
  | keyspace =>
    simp only [store, command_eq] at run
    obtain ⟨g, rfl⟩ := reported_bind_error run
    rfl

/-- Asking for a ban does not move the bans. -/
lemma Bans.inMemory_of_contains {t : String} {r : Except Fault Bool}
    (h : Ends (contains t) w r w') (inMemory : ∃ b, w'.bans = .register b) :
    ∃ b, w.bans = .register b := by
  cases store : w.bans with
  | register b => exact ⟨b, rfl⟩
  | keyspace =>
    have kept : w'.bans = w.bans := by
      rw [contains, Ends.get_bind] at h
      simp only [store, command_eq] at h
      obtain ⟨_, _, rfl⟩ | ⟨_, _, _, rfl⟩ := reported_bind_inv h
      · rfl
      · rfl
    obtain ⟨b, moved⟩ := inMemory
    rw [kept, store] at moved
    cases moved

/-- Banning a token for whole seconds fails with a fault of its own, or because the store in memory
cannot hold the ban. -/
lemma Bans.revoke_error {t : String} {n : Int} {f : Fault}
    (h : Ends (revoke t (.whole n)) w (.error f) w') :
    f.kind = .ban ∨
      f = .overflow ∧ (∃ r, w.bans = .register r) ∧ (Seconds.whole (max 1 n)).fits = false := by
  rw [revoke, Ends.get_bind] at h
  cases store : w.bans with
  | register r =>
    simp only [store] at h
    split at h
    · cases (Ends.set_inv h).1
    · next long =>
      cases (Ends.throw_inv h).1
      exact .inr ⟨rfl, ⟨r, rfl⟩, Bool.eq_false_iff.2 long⟩
  | keyspace =>
    simp only [store, Seconds.truncate?, command_eq] at h
    obtain ⟨g, rfl⟩ := reported_bind_error h
    exact .inl rfl

/-- A ban that is too long for the store in memory overflows there. -/
lemma Bans.revoke_overlong {t : String} {n : Int} {r : Register} (store : w.bans = .register r)
    (long : (Seconds.whole (max 1 n)).fits = false) :
    Ends (revoke t (.whole n)) w (.error .overflow) w := by
  rw [revoke, Ends.get_bind]
  have large : ¬ (Seconds.whole n).atLeastOne.fits = true := Bool.eq_false_iff.1 long
  simp only [store, if_neg large]
  rfl

/-- Sending a message fails with faults of the mail only, if the mailer answers with no others. -/
lemma Mailer.send_failsOwn (m : Message)
    (mailing : ∀ m f, (w.mailer.answer m).1 = .error f → Target.send.Owns f.kind) :
    FailsOwn .send (send m) w := by
  intro f w' run
  exact mailing m f (congrArg Prod.fst (send_inv run).2).symm

end Collaborators

/-! ## Contained operations -/

/-- An operation that is started in a world lets no fault escape. -/
def Contained {α : Type} (x : Op α) (w : World) : Prop :=
  ∀ f w', ¬ Ends x w (.error (.escaped f)) w'

namespace Contained

variable {α β : Type} {w : World}

/-- Returning lets nothing escape. -/
lemma pure (v : α) : Contained (Pure.pure v : Op α) w :=
  fun _ _ run => nomatch (Ends.pure_inv run).1

/-- Refusing lets nothing escape. -/
lemma refuse (kind : RefusalKind) (because : Option Fault) :
    Contained (Service.refuse kind because : Op α) w :=
  fun _ _ run => nomatch (Service.refuse_inv run).1

/-- What is done one after the other lets nothing escape if neither of the two does. -/
lemma bind {x : Op α} {f : α → Op β} (hx : Contained x w)
    (hf : ∀ v w', Ends x w (.ok v) w' → Contained (f v) w') : Contained (x >>= f) w := by
  intro g w' run
  obtain ⟨v, w₁, first, second⟩ | ⟨_, first, told⟩ := run.bind_inv
  · exact hf v w₁ first g w' second
  · cases told
    exact hx g w' first

/-- A step behind a field lets nothing escape if it does not for the values that are read. -/
lemma field_bind {x : Except Flaw α} {f : α → Op β} (hf : ∀ v, x = .ok v → Contained (f v) w) :
    Contained (Service.field x >>= f) w := by
  intro g w' run
  obtain ⟨v, read, run⟩ | ⟨_, _, told, _⟩ := Service.field_bind_inv run
  · exact hf v read g w' run
  · cases told

/-- What follows an attempt has to contain however the call ended. -/
lemma attempt_bind {c : Call α} {f : Except Fault α → Op β}
    (hf : ∀ s v, Ends c w s v → Contained (f s) v) : Contained (Service.attempt c >>= f) w := by
  intro g w' run
  obtain ⟨s, v, first, second⟩ := Service.attempt_bind.1 run
  exact hf s v first g w' second

/-- A function of an operation lets escape what the operation does. -/
lemma map {f : α → β} {x : Op α} (hx : Contained x w) : Contained (f <$> x) w := by
  intro g w' run
  obtain ⟨s, run, told⟩ := run.map_inv
  cases s with
  | ok v => cases told
  | error h =>
    cases told
    exact hx g w' run

/-- A line of the service lets nothing escape before what follows. -/
lemma log_bind {text : String} {f : Unit → Op α}
    (hf : Contained (f ()) (w.noting .info Service.source text)) :
    Contained (Service.log text >>= f) w :=
  fun g w' run => hf g w' (Service.log_bind.1 run)

/-- A line of the service lets nothing escape. -/
lemma log (text : String) : Contained (Service.log text) w :=
  fun _ _ run => nomatch (Service.log_inv run).1

/-- An unexpected fault of the accounts is refused if it is their own. -/
lemma unexpectedAccount {f : Fault} (own : ∃ g, f.kind = .account g) :
    Contained (Service.unexpectedAccount f : Op α) w := by
  obtain ⟨g, kind⟩ := own
  simp only [Service.unexpectedAccount, kind]
  exact refuse _ _

/-- An unexpected fault of the challenges is refused if it is their own. -/
lemma unexpectedChallenge {f : Fault} (own : ∃ g, f.kind = .challenge g) :
    Contained (Service.unexpectedChallenge f : Op α) w := by
  obtain ⟨g, kind⟩ := own
  simp only [Service.unexpectedChallenge, kind]
  exact refuse _ _

/-- An unexpected fault of the bans is refused if it is their own. -/
lemma unexpectedBan {f : Fault} (own : f.kind = .ban) :
    Contained (Service.unexpectedBan f : Op α) w := by
  simp only [Service.unexpectedBan, own]
  exact refuse _ _

/-- Opening a session lets nothing escape where its token can be minted. -/
lemma openSession {a : Authority} (plain : Key.IsPlain a.secret) (e : Email)
    (start : hasDate w.wallSeconds = true) (finish : hasDate (w.wallSeconds + a.seconds) = true) :
    Contained (Service.orEscape (a.issue e)) w := by
  obtain ⟨t, opened⟩ := Authority.exists_issue plain e start finish
  intro f w' run
  obtain ⟨s, again, told⟩ := Service.orEscape_inv run
  obtain ⟨rfl, _⟩ := opened.unique again
  cases told

end Contained

namespace Service

variable {a : Authority} {w w' : World}

/-- Asking whether an address is free lets nothing escape. -/
lemma requireFree_contained (own : w.FailsOwn) (e : Email) : Contained (requireFree e) w := by
  refine .attempt_bind fun s v looked => ?_
  cases s with
  | ok u => exact .refuse _ _
  | error f =>
    obtain ⟨g, kind⟩ :=
      FailsOwn.guarded (own.outages _) (fun _ => Accounts.lookUp_failsOwn e w) f v looked
    simp only [kind]
    cases g with
    | unknown => exact .pure _
    | general | taken | mismatch | unavailable => exact .unexpectedAccount ⟨_, kind⟩

/-- Registering lets nothing escape where the password can be kept. -/
lemma register_contained {u : User}
    (out : ∀ f, w.outages .add = some f → Target.add.Owns f.kind)
    (kept : w.outages .add = none → w.accounts.arePresent = true →
      w.accounts.canKeep u.password = true) : Contained (register u) w := by
  refine .attempt_bind fun s v added => ?_
  cases s with
  | ok _ => exact .pure _
  | error f =>
    obtain ⟨g, kind⟩ :=
      FailsOwn.guarded out (fun order => Accounts.add_failsOwn (kept order)) f v added
    simp only [kind]
    cases g with
    | taken => exact .refuse _ _
    | general | unknown | mismatch | unavailable => exact .unexpectedAccount ⟨_, kind⟩

/-- An address is required to be free of the account store, and what that tells decides. -/
lemma requireFree_ok {e : Email} {u : Unit} (h : Ends (requireFree e) w (.ok u) w') :
    w.TellsFree e := by
  rw [requireFree] at h
  obtain ⟨s, v, looked, h⟩ := attempt_bind.1 h
  cases s with
  | ok _ => cases (refuse_inv h).1
  | error f =>
    dsimp only at h
    split at h
    · next kind =>
      obtain ⟨g, broken, told, _⟩ | ⟨order, looked⟩ := guarded_inv looked
      · cases told
        exact .inl ⟨f, broken, kind⟩
      · have told := (Accounts.lookUp_inv looked).1.symm
        exact .inr ⟨order, Accounts.read_of_unknown told kind⟩
    · obtain ⟨⟨_, told⟩, _⟩ := unexpectedAccount_inv h
      cases told

/-- An address of which it is told that it is free passes. -/
lemma requireFree_of_free {e : Email} (free : w.TellsFree e) :
    ∃ w', Ends (requireFree e) w (.ok ()) w' ∧ SameBut [] w w' := by
  have passes {f : Fault} {v : World} (kind : f.kind = .account .unknown)
      (looked : Ends (World.guarded .lookUp (Accounts.lookUp e)) w (.error f) v) :
      Ends (requireFree e) w (.ok ()) v := by
    rw [requireFree, attempt_bind]
    refine ⟨_, v, looked, ?_⟩
    simp only [kind]
    rfl
  obtain ⟨f, broken, kind⟩ | ⟨order, unknown⟩ := free
  · refine ⟨w, passes kind ?_, .refl _ _⟩
    rw [World.guarded, Ends.get_bind, broken]
    rfl
  · have looked := Accounts.lookUp_ends e w
    rw [unknown] at looked
    exact ⟨_, passes rfl (guarded_of_none order looked), (Accounts.lookUp_inv looked).2⟩

/-- Signing up is contained unless the password cannot be kept. -/
lemma signUp_contained (own : w.FailsOwn) {email : Field} {password : SecretField}
    (secondFactor : Bool)
    (kept : ∀ e p, Email.read email = .ok e → Password.read password = .ok p → ¬ w.Unkept e p) :
    Contained (signUp email password secondFactor) w := by
  refine .field_bind fun e address => .field_bind fun p word => ?_
  refine .bind (requireFree_contained own e) fun _ v free => ?_
  have same := requireFree_keeps e free
  refine .bind (register_contained ?_ fun order present => ?_) fun _ _ _ => .log_bind (.pure _)
  · rw [same.outages]
    exact own.outages _
  · rw [same.outages] at order
    rw [same.accounts List.not_mem_nil] at present ⊢
    refine eq_true_of_ne_false fun torn => ?_
    exact kept e p address word ⟨requireFree_ok free, order, present, torn⟩

/-- Signing up with a password that cannot be kept lets that escape. -/
lemma signUp_unkept {email : Field} {password : SecretField} {e : Email} {p : Password}
    (address : Email.read email = .ok e) (word : Password.read password = .ok p)
    (unkept : w.Unkept e p) (secondFactor : Bool) :
    ∃ w', Ends (signUp email password secondFactor) w (.error (.escaped .tornText)) w' := by
  obtain ⟨free, order, present, torn⟩ := unkept
  obtain ⟨v, passed, same⟩ := requireFree_of_free free
  rw [← same.outages] at order
  rw [← same.accounts List.not_mem_nil] at present torn
  have added : Ends (register ⟨e, p, secondFactor⟩) v (.error (.escaped .tornText)) v := by
    rw [register, attempt_bind]
    exact ⟨_, v, guarded_of_none order (Accounts.add_torn present torn), rfl⟩
  refine ⟨v, ?_⟩
  rw [signUp, address, word]
  exact passed.bind (added.bind_error _)

/-- Who signs in is told without an escape if the passwords can be compared. -/
lemma credentialsOf_contained (own : w.FailsOwn) {e : Email} {p : Password}
    (comparable : ¬ w.Incomparable e p) : Contained (credentialsOf e p) w := by
  refine .attempt_bind fun s v run => ?_
  cases s with
  | ok u => exact .pure u
  | error f =>
    -- the fault is the check's or, after a check that passed, the second look-up's
    have kind : ∃ g, f.kind = .account g := by
      obtain ⟨_, w₁, checked, looked⟩ | ⟨_, checked, told⟩ := run.bind_inv
      · have out : ∀ f, w₁.outages .lookUp = some f → Target.lookUp.Owns f.kind := by
          have kept : Keeps [] (World.guarded .check (Accounts.check e p)) :=
            .guarded fun _ _ _ run => (Accounts.check_inv run).2
          rw [(kept checked).outages]
          exact own.outages _
        exact FailsOwn.guarded out (fun _ => Accounts.lookUp_failsOwn e w₁) f v looked
      · cases told
        exact FailsOwn.guarded (own.outages _)
          (fun order => Accounts.check_failsOwn order comparable) f v checked
    obtain ⟨g, kind⟩ := kind
    simp only [kind]
    cases g with
    | unavailable => exact .refuse _ _
    | general | taken | unknown | mismatch => exact .log_bind (.refuse _ _)

/-- Looking up who signs in only notes what goes wrong. -/
lemma credentialsOf_noted {e : Email} {p : Password} {u : User}
    (h : Ends (credentialsOf e p) w (.ok u) w') : Noted w w' := by
  rw [credentialsOf] at h
  obtain ⟨s, v, run, h⟩ := attempt_bind.1 h
  cases s with
  | ok u' =>
    obtain ⟨_, rfl⟩ := Ends.pure_inv h
    obtain ⟨_, w₁, checked, looked⟩ | ⟨_, _, told⟩ := run.bind_inv
    · obtain ⟨_, _, told, _⟩ | ⟨_, checked⟩ := guarded_inv checked
      · cases told
      · obtain ⟨_, _, told, _⟩ | ⟨_, looked⟩ := guarded_inv looked
        · cases told
        · refine (Accounts.check_noted checked).trans ?_
          obtain ⟨_, rfl⟩ := looked.unique (Accounts.lookUp_ends e w₁)
          exact ⟨_, rfl⟩
    · cases told
  | error f =>
    dsimp only at h
    split at h
    · cases (refuse_inv h).1
    · rw [log_bind] at h
      cases (refuse_inv h).1
    · cases (escape_inv h).1

/-- Mailing a challenge lets nothing escape. -/
lemma mailing_contained
    (out : ∀ f, w.outages .send = some f → Target.send.Owns f.kind)
    (own : ∀ m f, (w.mailer.answer m).1 = .error f → Target.send.Owns f.kind) (e : Email)
    (c : Challenge) : Contained (mailing e c) w := by
  refine .attempt_bind fun s v sent => ?_
  cases s with
  | ok _ => exact .log_bind (.pure _)
  | error f =>
    have kind : f.kind = .mail :=
      FailsOwn.guarded out (fun _ => Mailer.send_failsOwn _ own) f v sent
    simp only [kind]
    exact .bind (.refuse _ _) fun _ _ ended => nomatch (refuse_inv ended).1

/-- Challenging an address lets nothing escape. -/
lemma challenge_contained (own : w.FailsOwn) (e : Email) : Contained (challenge e) w := by
  intro f w' run
  rw [challenge, Ends.drawId_bind, Ends.drawCode_bind] at run
  refine Contained.attempt_bind (fun s v stored => ?_) f w' run
  cases s with
  | error g =>
    have issued := FailsOwn.guarded (own.outages _) (w := w.idDrawn.codeDrawn)
      (fun _ => Challenges.issue_failsOwn e (nextChallenge w) own.holdable) g v stored
    refine .bind (.unexpectedChallenge issued) fun _ _ ended => ?_
    obtain ⟨⟨_, told⟩, _⟩ := unexpectedChallenge_inv ended
    cases told
  | ok _ =>
    -- storing a challenge moves neither the outages nor the mailer that mail it
    have kept : SameBut [.challenges] w.idDrawn.codeDrawn v := by
      obtain ⟨_, _, told, _⟩ | ⟨_, stored⟩ := guarded_inv stored
      · cases told
      · exact (Challenges.issue_inv stored).1
    refine mailing_contained (w := v) ?_ ?_ e (nextChallenge w)
    · rw [kept.outages]
      exact own.outages _
    · rw [kept.mailer (by simp)]
      exact own.mailing

/-- Passwords that cannot be compared let that escape. -/
lemma credentialsOf_incomparable {e : Email} {p : Password} (torn : w.Incomparable e p) :
    ∃ w', Ends (credentialsOf e p) w (.error (.escaped .tornText)) w' := by
  obtain ⟨order, u, found, torn⟩ := torn
  have checked : ∃ w', Ends (Accounts.check e p) w (.error .tornText) w' := by
    obtain ⟨r, w', run⟩ := Ends.total (Accounts.check e p) w
    have told := (Accounts.check_inv run).1
    rw [found, Except.bind, Accounts.verdict_of_torn torn] at told
    rw [told] at run
    exact ⟨w', run⟩
  obtain ⟨w', checked⟩ := checked
  refine ⟨w', ?_⟩
  rw [credentialsOf, attempt_bind]
  exact ⟨_, w', (guarded_of_none order checked).bind_error _, rfl⟩

/-- Signing in is contained if a session can be opened, unless the passwords cannot be compared. -/
lemma signIn_contained (plain : Key.IsPlain a.secret) (start : hasDate w.wallSeconds = true)
    (finish : hasDate (w.wallSeconds + a.seconds) = true) (own : w.FailsOwn)
    {email : Field} {password : SecretField}
    (comparable : ∀ e p, Email.read email = .ok e → Password.read password = .ok p →
      ¬ w.Incomparable e p) : Contained (signIn a email password) w := by
  refine .field_bind fun e address => .field_bind fun p word => ?_
  refine .bind (credentialsOf_contained own (comparable e p address word)) fun u v found => ?_
  have noted := credentialsOf_noted found
  cases second : u.secondFactor with
  | true =>
    simp only [if_true]
    exact .bind (challenge_contained (own.noted noted) u.email) fun _ _ _ => .pure _
  | false =>
    simp only [Bool.false_eq_true, if_false]
    obtain ⟨lines, rfl⟩ := noted
    exact .log_bind (.bind (.openSession plain u.email start finish) fun _ _ _ => .pure _)

/-- Signing in with a password that cannot be compared lets that escape. -/
lemma signIn_incomparable {email : Field} {password : SecretField} {e : Email} {p : Password}
    (address : Email.read email = .ok e) (word : Password.read password = .ok p)
    (torn : w.Incomparable e p) :
    ∃ w', Ends (signIn a email password) w (.error (.escaped .tornText)) w' := by
  obtain ⟨w', failed⟩ := credentialsOf_incomparable torn
  refine ⟨w', ?_⟩
  rw [signIn, address, word]
  exact failed.bind_error _

/-- Verifying a code lets nothing escape where its token can be minted. -/
lemma verify_contained (plain : Key.IsPlain a.secret) (start : hasDate w.wallSeconds = true)
    (finish : hasDate (w.wallSeconds + a.seconds) = true) (own : w.FailsOwn)
    (email attemptId code : Field) : Contained (verify a email attemptId code) w := by
  refine .field_bind fun e _ => .field_bind fun id _ => .field_bind fun c _ => ?_
  refine .attempt_bind fun s v taken => ?_
  cases s with
  | error f =>
    exact .unexpectedChallenge (FailsOwn.guarded (own.outages _)
      (fun _ => Challenges.take_failsOwn e ⟨id, c⟩ w) f v taken)
  | ok there =>
    cases there with
    | false => exact .log_bind (.refuse _ _)
    | true =>
      -- the dates are assumed of the world in which the verification began
      have clock : v.wallSeconds = w.wallSeconds := by
        obtain ⟨_, _, told, _⟩ | ⟨_, run⟩ := guarded_inv taken
        · cases told
        · obtain ⟨_, _, same, _⟩ | ⟨same, _⟩ := Challenges.take_inv run
          · exact same.wallSeconds
          · exact same.wallSeconds
      rw [← clock] at start finish
      exact .log_bind (.openSession plain e start finish)

end Service

end SignIn
