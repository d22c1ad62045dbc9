import Mathlib.Logic.Equiv.Basic
import SignIn.Proofs.Renaming
import SignIn.Proofs.Run

/-!
# What is logged

Two runs of the service in which the same happens under other names: callers send other addresses,
passwords and codes in place of some, and other codes are drawn. `journals_alike` says that the
journals of both agree line by line, so that no line tells a password, a code, or more of an address
than its redacted form; but a database that is asked without its table reports the statement with
its parameters, and what it reports is logged. Where the table is always there, the journals are the
same.
-/

namespace SignIn

open World

variable {ρ : Renaming} {lost : Prop} {a : Authority}

/-! ## Incidents -/

/-- What happens to the service and its world, and to the table of accounts behind its back. -/
inductive Incident
  | event (ev : Event)
  /-- From now on the table of accounts, if there is one, holds these rows, or is missing. -/
  | table (rows : Option (List Row))

/-- Accounts whose table, if there is one, holds the given rows or is missing. -/
def Accounts.holding (rows : Option (List Row)) : Accounts → Accounts
  | .directory d => .directory d
  | .table t => .table { t with rows := rows }

namespace World

def befall (a : Authority) (w : World) : Incident → World
  | .event ev => w.step a ev
  | .table rows => { w with accounts := w.accounts.holding rows }

def through (a : Authority) (w : World) (is : List Incident) : World :=
  is.foldl (befall a) w

/-- The world that draws other codes in place of those of the first. -/
def recoded (ρ : Renaming) (w : World) : World :=
  { w with codes := ⟨fun n => (ρ.code ⟨w.codes.draw n⟩).value, w.codes.used⟩ }

end World

/-! ## What is renamed -/

/-- Two addresses that are shown alike. -/
def Email.ShownAlike (e e' : Email) : Prop := e'.redacted = e.redacted

/-- The second request is the first under other names. Fields that have no value are in place of
others that have none, and a text in place of one that opens for an address that is shown alike. -/
inductive Request.Renamed (ρ : Renaming) (a : Authority) : Request → Request → Prop
  | signUp {email email' : Field} {password password' : SecretField}
    (address : Email.read email' = (Email.read email).map ρ.email)
    (word : Password.read password' = (Password.read password).map ρ.password)
    (secondFactor : Bool) :
    Renamed ρ a (.signUp email password secondFactor) (.signUp email' password' secondFactor)
  | signIn {email email' : Field} {password password' : SecretField}
    (address : Email.read email' = (Email.read email).map ρ.email)
    (word : Password.read password' = (Password.read password).map ρ.password) :
    Renamed ρ a (.signIn email password) (.signIn email' password')
  | verify {email email' code code' : Field}
    (address : Email.read email' = (Email.read email).map ρ.email) (attemptId : Field)
    (digits : OneTimeCode.read code' = (OneTimeCode.read code).map ρ.code) :
    Renamed ρ a (.verify email attemptId code) (.verify email' attemptId code')
  | signOut {token : Option String}
    (follows : ∀ t, token.filter (· ≠ "") = some t → ρ.Follows a Email.ShownAlike t) :
    Renamed ρ a (.signOut token) (.signOut (token.map ρ.token))
  | checkToken {token : String} (follows : ρ.Follows a Email.ShownAlike token) :
    Renamed ρ a (.checkToken token) (.checkToken (ρ.token token))

/-- The second incident is the first under other names: a renamed request, a table with renamed
rows, or anything else that happens, which names nothing. -/
inductive Incident.Renamed (ρ : Renaming) (a : Authority) : Incident → Incident → Prop
  | request {r r' : Request} (renamed : r.Renamed ρ a r') :
    Renamed ρ a (.event (.request r)) (.event (.request r'))
  | other {ev : Event} (quiet : ∀ r, ev ≠ .request r) : Renamed ρ a (.event ev) (.event ev)
  | table {rows rows' : Option (List Row)}
    (alike : ∀ e : Email, Row.Alike ρ (Table.find? ⟨rows, true⟩ e.text)
      (Table.find? ⟨rows', true⟩ (ρ.email e).text)) :
    Renamed ρ a (.table rows) (.table rows')

/-- What a caller is told in place of something else. -/
inductive Answer.Renamed (ρ : Renaming) (a : Authority) : Answer → Answer → Prop
  | user (u : User) : Renamed ρ a (.user u) (.user (ρ.user u))
  | signedIn {s s' : SignedIn} (alike : Correspondence.SignedInAlike ρ a s s') :
    Renamed ρ a (.signedIn s) (.signedIn s')
  | session {e : Email} {t t' : String} (minted : ρ.MintedAlike a e t t') :
    Renamed ρ a (.session t) (.session t')
  | signedOut : Renamed ρ a .signedOut .signedOut
  | belongsTo {e e' : Email} (shown : e.ShownAlike e') : Renamed ρ a (.belongsTo e) (.belongsTo e')

/-- If no table may be lost, lines that are alike are the same. -/
lemma Entry.Alike.eq_of_not_lost {line line' : Entry} (h : line.Alike ρ lost line')
    (never : ¬ lost) : line = line' := by
  cases h with
  | same => rfl
  | lookUp loss | insert loss => exact absurd loss never

/-- The text of an address is read as the address. -/
lemma Email.read_text (e : Email) : read (some e.text) = .ok e := by
  rw [read, Field.read, Option.bind_some, ofText?_text]

/-- The text of a password is read as the password. -/
lemma Password.read_text (p : Password) : read (some p.text) = .ok p := by
  rw [read, Field.read, Option.bind_some, ofText?_text]

/-! ## Tokens -/

/-- A token that is minted for the address in place of another one may be submitted in place of the
token of that one. -/
lemma Renaming.MintedAlike.follows (plain : Token.Key.IsPlain a.secret) (faithful : ρ.Faithful)
    {e : Email} {t : String} (minted : ρ.MintedAlike a e t (ρ.token t)) :
    ρ.Follows a Email.ShownAlike t := by
  obtain ⟨expiry, id, date, mint, mint'⟩ := minted
  have told := Authority.sealedClaims_of_mint plain (Authority.exact_claims e date id _) mint
  have told' :=
    Authority.sealedClaims_of_mint plain (Authority.exact_claims (ρ.email e) date id _) mint'
  constructor
  · intro now
    rw [Authority.openAt_of_sealed told, Authority.openAt_of_sealed told']
    cases Token.dated now with
    | error f => exact .error rfl
    | ok now =>
      simp only [Except.bind]
      split
      · exact .ok (show e.ShownAlike (ρ.email e) from faithful.redacted e)
      · exact .error rfl
  · intro now
    rw [Authority.remainingAt_of_sealed told, Authority.remainingAt_of_sealed told']

/-- A text may be submitted in place of itself, whatever it opens for. -/
lemma Renaming.follows_of_unchanged {t : String} (unchanged : ρ.token t = t) :
    ρ.Follows a Email.ShownAlike t where
  opens now := by
    rw [unchanged]
    exact (Matched.refl id (a.openAt now t)).mono fun _ _ same => congrArg Email.redacted same.symm
  remains now := by rw [unchanged]

/-! ## Steps -/

/-- A renamed request is answered alike. -/
lemma Request.Renamed.mirrors (faithful : ρ.Faithful) {r r' : Request}
    (renamed : r.Renamed ρ a r') :
    Mirrors (World.Renamed ρ lost) (Answer.Renamed ρ a) id (r.op a) (r'.op a) := by
  have k := @World.Renamed.correspondence ρ lost faithful
  cases renamed with
  | signUp address word secondFactor =>
    have registered (u : User) := k.register (Accounts.add_renamed faithful u)
    refine (k.signUp (fun _ _ => trivial) address word fun u _ _ => registered u).map
      fun u _ same => ?_
    subst same
    exact .user u
  | signIn address word =>
    exact (k.signIn a (fun _ _ => trivial) address word).map fun _ _ alike => .signedIn alike
  | verify address attemptId digits =>
    refine (k.verify a (fun _ _ => trivial) address digits).map fun _ _ alike => ?_
    obtain ⟨e, minted⟩ := alike
    exact .session minted
  | signOut follows =>
    exact (k.signOut a (fun _ _ shown => shown) follows
      (fun t _ => Bans.contains_renamed faithful t)
      fun t _ n => Bans.revoke_renamed faithful t n).map fun _ _ _ => .signedOut
  | @checkToken token follows =>
    exact (k.checkToken a follows (Bans.contains_renamed faithful token)).map
      fun _ _ shown => .belongsTo shown

/-- Accounts that are one another's in a renaming stay so when they are closed. -/
lemma Accounts.Renamed.close {accounts accounts' : Accounts} (h : Renamed ρ accounts accounts') :
    Renamed ρ accounts.close accounts'.close := by
  cases h with
  | directory users => exact .directory users
  | @table t t' kind rows =>
    rw [Accounts.close, Accounts.close, Table.close, Table.close, kind]
    split
    · exact .table kind rows
    · exact .table rfl fun _ => .missing

/-- Accounts that are one another's in a renaming stay so when their tables are given such rows. -/
lemma Accounts.Renamed.holding {accounts accounts' : Accounts} (h : Renamed ρ accounts accounts')
    {rows rows' : Option (List Row)} (alike : ∀ e : Email, Row.Alike ρ
      (Table.find? ⟨rows, true⟩ e.text) (Table.find? ⟨rows', true⟩ (ρ.email e).text)) :
    Renamed ρ (accounts.holding rows) (accounts'.holding rows') := by
  cases h with
  | directory users => exact .directory users
  | table kind _ => exact .table kind alike

/-- A mailer is like itself. -/
lemma Mailer.Alike.refl (m : Mailer) : Alike m m := by
  cases m with
  | dummy => exact .dummy
  | recorder => exact .recorder _ _ _ _
  | provider p => exact .provider p p.sent

/-- Mailers that are alike stay so when they are closed. -/
lemma Mailer.Alike.close {m m' : Mailer} (h : Alike m m') : Alike m.close m'.close := by
  cases h with
  | dummy => exact .dummy
  | recorder => exact .recorder _ _ _ _
  | provider p sent => exact .provider _ sent

namespace World

variable {w v : World}

/-- A renamed world stays renamed when the same befalls it under other names, unless the table is
lost by it and may not be. -/
lemma Renamed.befall (renamed : w.Renamed ρ lost v) (faithful : ρ.Faithful) {i i' : Incident}
    (same : i.Renamed ρ a i') (present : (w.befall a i).accounts.arePresent = true ∨ lost) :
    (w.befall a i).Renamed ρ lost (v.befall a i') := by
  cases same with
  | @request r r' same =>
    obtain ⟨x, w', run⟩ := Ends.total (r.op a) w
    obtain ⟨x', v', run'⟩ := Ends.total (r'.op a) v
    rw [World.befall, World.befall, run.step, run'.step]
    exact (same.mirrors faithful renamed run run').2
  | @other ev quiet =>
    cases ev with
    | request r => exact absurd rfl (quiet r)
    | advance wall uptime =>
      have wall' := congrArg (· + wall) renamed.wall
      have uptime' := congrArg (· + uptime) renamed.uptime
      exact { renamed with wall := wall', uptime := uptime', present := present }
    | outages o => exact { renamed with outages := rfl, present := present }
    | server o =>
      exact { renamed with
        server := ⟨rfl, renamed.server.bans, renamed.server.challenges⟩
        present := present }
    | close =>
      obtain ⟨n, closed⟩ := Service.close_eq w
      obtain ⟨n', closed'⟩ := Service.close_eq v
      simp only [World.befall, World.step, closed, closed'] at present ⊢
      exact { renamed with
        accounts := renamed.accounts.close
        server := ⟨renamed.server.outages, renamed.server.bans, renamed.server.challenges⟩
        mailer := renamed.mailer.close
        present := present }
  | @table rows rows' alike =>
    exact { renamed with accounts := renamed.accounts.holding alike, present := present }

/-! ## Runs -/

/-- A renamed world stays renamed along a run, unless its table is lost at some time and may not
be. -/
lemma Renamed.through (faithful : ρ.Faithful) {is is' : List Incident}
    (same : List.Forall₂ (Incident.Renamed ρ a) is is') :
    ∀ {w v : World}, w.Renamed ρ lost v →
      (∀ n, (w.through a (is.take n)).accounts.arePresent = true ∨ lost) →
      (w.through a is).Renamed ρ lost (v.through a is') := by
  -- the worlds are generalized, and the accounts of the first are watched along the prefixes
  induction same with
  | nil =>
    intro w v renamed _
    exact renamed
  | cons first _ ih =>
    intro w v renamed present
    exact ih (renamed.befall faithful first (present 1)) fun n => present (n + 1)

/-- New services are the same under any names. -/
lemma renamed_equipped (w : World) {s : Settings} {accounts : Accounts}
    (there : s.accountStore = .ok accounts) :
    (w.equipped s accounts).Renamed ρ lost ((w.recoded ρ).equipped s accounts) where
  wall := rfl
  uptime := rfl
  outages := rfl
  ids := rfl
  used := rfl
  drawn _ := rfl
  accounts := by
    show Accounts.Renamed ρ accounts accounts
    rw [Settings.accountStore] at there
    split at there
    · obtain rfl := Except.ok.inj there
      exact .directory .nil
    · split at there
      · cases there
      · obtain rfl := Except.ok.inj there
        exact .table rfl fun _ => .none
  bans := by
    show Bans.Renamed ρ s.banStore s.banStore
    rw [Settings.banStore]
    cases s.bans with
    | memory => exact .register .nil
    | redis => exact .keyspace
  challenges := by
    show Challenges.Renamed ρ s.challengeStore s.challengeStore
    rw [Settings.challengeStore]
    cases s.challenges with
    | memory => exact .book rfl .nil
    | redis => exact .keyspace _
  server := ⟨rfl, fun _ _ => rfl, fun _ _ _ => ⟨nofun, nofun⟩⟩
  mailer := .refl w.mailer
  present := .inl (read_accountStore there).1
  journal := List.forall₂_same.2 fun line _ => .same line

/-- Nothing but closing the service or taking the table away makes accounts unavailable. -/
lemma present_befall (a : Authority) (w : World) {i : Incident} (unclosed : i ≠ .event .close)
    (kept : i ≠ .table none) (present : w.accounts.arePresent = true) :
    (w.befall a i).accounts.arePresent = true := by
  cases i with
  | event ev =>
    cases ev with
    | request r => exact (step_request a w r).present.trans present
    | advance | outages | server => exact present
    | close => exact absurd rfl unclosed
  | table rows =>
    show (w.accounts.holding rows).arePresent = true
    cases w.accounts with
    | directory d => rfl
    | table t =>
      cases rows with
      | some rows => rfl
      | none => exact absurd rfl kept

/-- Incidents that spare the table leave the accounts present. -/
lemma present_through (a : Authority) {is : List Incident}
    (spared : ∀ i ∈ is, i ≠ .event .close ∧ i ≠ .table none) (w : World)
    (present : w.accounts.arePresent = true) : (w.through a is).accounts.arePresent = true := by
  induction is generalizing w with
  | nil => exact present
  | cons i is ih =>
    obtain ⟨unclosed, kept⟩ := spared i List.mem_cons_self
    exact ih (fun j mem => spared j (List.mem_cons_of_mem i mem)) _
      (present_befall a w unclosed kept present)

/-- Two runs of a new service in which the same happens under other names log the same line by line,
except where a database without its table reports what it was asked. If the table is always there,
they log the same. -/
theorem journals_alike (faithful : ρ.Faithful) (a : Authority) (w : World) {s : Settings}
    {accounts : Accounts} (there : s.accountStore = .ok accounts) {is is' : List Incident}
    (same : List.Forall₂ (Incident.Renamed ρ a) is is') :
    List.Forall₂ (Entry.Alike ρ True) ((w.equipped s accounts).through a is).journal
        (((w.recoded ρ).equipped s accounts).through a is').journal ∧
      ((∀ n, ((w.equipped s accounts).through a (is.take n)).accounts.arePresent = true) →
        ((w.equipped s accounts).through a is).journal =
          (((w.recoded ρ).equipped s accounts).through a is').journal) := by
  constructor
  -- the loss of the table is allowed for in the first part, and excluded in the second
  · exact (Renamed.through faithful same (renamed_equipped w there) fun _ => .inr trivial).journal
  · intro present
    have alike := (Renamed.through faithful same (renamed_equipped w there)
      fun n => .inl (present n) : World.Renamed ρ False _ _).journal
    exact List.forall₂_eq_eq_eq ▸ alike.imp fun _ _ line => line.eq_of_not_lost id

end World

/-! ## A sample -/

/-- A user of the sample, and another one whose address has the same redacted form. -/
def User.first : User := ⟨⟨"alice@example.com", by decide⟩, ⟨"password1", by decide⟩, true⟩

def User.second : User := ⟨⟨"al@example.com", by decide⟩, ⟨"password2", by decide⟩, true⟩

/-- Two users, two codes and two tokens change places. -/
def Renaming.sample (t t' : String) : Renaming where
  email := Equiv.swap User.first.email User.second.email
  password := Equiv.swap User.first.password User.second.password
  code := Equiv.swap ⟨World.sample.codes.draw 0⟩ ⟨World.sample.codes.draw 1⟩
  token := Equiv.swap t t'

/-- The renaming of the sample keeps apart what is apart. -/
lemma Renaming.sample_faithful {t t' : String} (given : t ≠ "") (given' : t' ≠ "") :
    (sample t t').Faithful where
  email := Equiv.injective _
  redacted e := by
    show (Equiv.swap _ _ e : Email).redacted = e.redacted
    rw [Equiv.swap_apply_def]
    split
    · next same =>
      rw [same]
      decide
    · split
      · next same =>
        rw [same]
        decide
      · rfl
  password := Equiv.injective _
  whole p := by
    show (Equiv.swap _ _ p : Password).isWhole = p.isWhole
    rw [Equiv.swap_apply_def]
    split
    · next same => rw [same]; rfl
    · split
      · next same => rw [same]; rfl
      · rfl
  code := Equiv.injective _
  token := Equiv.injective _
  empty := Equiv.swap_apply_of_ne_of_ne given.symm given'.symm

/-- A user signs up. -/
def User.signsUp (u : User) : Request :=
  .signUp (some u.email.text) (some u.password.text) u.secondFactor

def User.signsIn (u : User) : Request :=
  .signIn (some u.email.text) (some u.password.text)

section Sample

variable {t t' : String}

/-- The second user's address is the first one's in the renaming of the sample. -/
lemma Renaming.sample_address : Email.read (some User.second.email.text) =
    (Email.read (some User.first.email.text)).map (sample t t').email := by
  rw [Email.read_text, Email.read_text]
  exact congrArg Except.ok (Equiv.swap_apply_left _ _).symm

/-- The second user's password is the first one's in the renaming of the sample. -/
lemma Renaming.sample_word : Password.read (some User.second.password.text) =
    (Password.read (some User.first.password.text)).map (sample t t').password := by
  rw [Password.read_text, Password.read_text]
  exact congrArg Except.ok (Equiv.swap_apply_left _ _).symm

/-- The second user signs up as the first in the renaming of the sample. -/
lemma Renaming.sample_signsUp :
    Request.Renamed (sample t t') a User.first.signsUp User.second.signsUp :=
  .signUp sample_address sample_word true

/-- The second user signs in as the first in the renaming of the sample. -/
lemma Renaming.sample_signsIn :
    Request.Renamed (sample t t') a User.first.signsIn User.second.signsIn :=
  .signIn sample_address sample_word

end Sample

namespace World

/-- A user signs up and in, meets the challenge, and signs out; then somebody has no token. -/
def visit (u : User) (code token : String) : List Incident :=
  [.event (.request u.signsUp), .event (.request u.signsIn),
    .event (.request (.verify (some u.email.text) (some (AttemptId.mk 0).text) (some code))),
    .event (.request (.signOut (some token))), .event (.request (.checkToken ""))]

/-- A visit of the sample spares the table. -/
lemma visit_spares {u : User} {code token : String} :
    ∀ i ∈ visit u code token, i ≠ .event .close ∧ i ≠ .table none := by
  intro i mem
  simp only [visit, List.mem_cons, List.not_mem_nil, or_false] at mem
  obtain rfl | rfl | rfl | rfl | rfl := mem
  · exact ⟨nofun, nofun⟩
  · exact ⟨nofun, nofun⟩
  · exact ⟨nofun, nofun⟩
  · exact ⟨nofun, nofun⟩
  · exact ⟨nofun, nofun⟩

/-- The visits of the two users of the sample leave the same journal. -/
theorem journals_alike_sample : ∃ t t',
    (Renaming.sample t t').Faithful ∧
      Settings.standard.accountStore = .ok (.directory .empty) ∧
      List.Forall₂ (Incident.Renamed (.sample t t') .sample) (visit .first "000000" t)
        (visit .second "000001" t') ∧
      (∀ n, ((World.sample.equipped .standard (.directory .empty)).through .sample
        ((visit .first "000000" t).take n)).accounts.arePresent = true) ∧
      ((World.sample.equipped .standard (.directory .empty)).through .sample
          (visit .first "000000" t)).journal =
        (((World.sample.recoded (.sample t t')).equipped .standard
          (.directory .empty)).through .sample (visit .second "000001" t')).journal := by
  have plain := Authority.sample_isPlain
  obtain ⟨t, mint⟩ := Authority.exists_mint plain (Authority.claims User.first.email 1700000600 1)
  obtain ⟨t', mint'⟩ :=
    Authority.exists_mint plain (Authority.claims User.second.email 1700000600 1)
  have faithful := Renaming.sample_faithful (Authority.ne_empty_of_mint mint)
    (Authority.ne_empty_of_mint mint')
  have token : (Renaming.sample t t').token t = t' := Equiv.swap_apply_left t t'
  have address : (Renaming.sample t t').email User.first.email = User.second.email :=
    Equiv.swap_apply_left _ _
  have minted : (Renaming.sample t t').MintedAlike .sample User.first.email t
      ((Renaming.sample t t').token t) := by
    refine ⟨1700000600, 1, by decide, mint, ?_⟩
    rw [token, address]
    exact mint'
  have digits : OneTimeCode.read (some "000001") =
      (OneTimeCode.read (some "000000")).map (Renaming.sample t t').code :=
    congrArg Except.ok (Equiv.swap_apply_left _ _).symm
  have signsOut : Request.Renamed (.sample t t') .sample (.signOut (some t))
      (.signOut (some t')) := by
    have renamed := @Request.Renamed.signOut (.sample t t') .sample (some t) fun u given => by
      obtain rfl := Option.some.inj (Option.filter_eq_some_iff.1 given).1
      exact minted.follows plain faithful
    rw [Option.map_some, token] at renamed
    exact renamed
  have checks : Request.Renamed (.sample t t') .sample (.checkToken "") (.checkToken "") := by
    have renamed := @Request.Renamed.checkToken (.sample t t') .sample ""
      (Renaming.follows_of_unchanged faithful.empty)
    rw [faithful.empty] at renamed
    exact renamed
  have same : List.Forall₂ (Incident.Renamed (.sample t t') .sample) (visit .first "000000" t)
      (visit .second "000001" t') :=
    .cons (.request Renaming.sample_signsUp) (.cons (.request Renaming.sample_signsIn)
      (.cons (.request (.verify Renaming.sample_address _ digits))
        (.cons (.request signsOut) (.cons (.request checks) .nil))))
  have present (n : Nat) : ((World.sample.equipped .standard (.directory .empty)).through .sample
      ((visit .first "000000" t).take n)).accounts.arePresent = true :=
    present_through .sample (fun i mem => visit_spares i (List.mem_of_mem_take mem)) _ rfl
  exact ⟨t, t', faithful, rfl, same, present,
    (journals_alike faithful .sample .sample rfl same).2 present⟩

/-- The sample world, but with the accounts in a database. -/
def tabled : World := { World.sample with accounts := .table (.create false) }

/-- The table is lost; then a user signs in, and signs up while nobody is ever found. -/
def lossy (u : User) : List Incident :=
  [.table none, .event (.request u.signsIn),
    .event (.outages fun t => if t = .lookUp then some (.account .unknown) else none),
    .event (.request u.signsUp)]

/-- What is asked of a lost table is logged in full. -/
lemma journal_lossy (a : Authority) {w : World} {t : Table} (there : w.accounts = .table t)
    (order : w.outages = fun _ => none) (u : User) : (w.through a (lossy u)).journal =
      w.journal ++ [Accounts.lookUpLine u.email] ++ [Accounts.insertLine u] := by
  cases w
  cases there
  cases order
  simp only [lossy, User.signsIn, User.signsUp, World.through, List.foldl, World.befall, World.step,
    Request.op, Service.signIn, Service.signUp, Email.read_text, Password.read_text]
  rfl

/-- Two runs in which the same happens under other names, and that do not log the same: not the
whole address may be told, but it is. -/
theorem journals_leak :
    (Renaming.sample "t" "u").Faithful ∧
      List.Forall₂ (Incident.Renamed (.sample "t" "u") .sample) (lossy .first) (lossy .second) ∧
      (tabled.through .sample (lossy .first)).journal ≠
        ((tabled.recoded (.sample "t" "u")).through .sample (lossy .second)).journal := by
  have same : List.Forall₂ (Incident.Renamed (.sample "t" "u") .sample) (lossy .first)
      (lossy .second) :=
    .cons (.table fun _ => .missing) (.cons (.request Renaming.sample_signsIn)
      (.cons (.other nofun) (.cons (.request Renaming.sample_signsUp) .nil)))
  refine ⟨Renaming.sample_faithful (by decide) (by decide), same, ?_⟩
  rw [@journal_lossy .sample tabled (.create false) rfl rfl,
    @journal_lossy .sample (tabled.recoded _) (.create false) rfl rfl]
  decide +kernel

end World

end SignIn
