import Mathlib.Data.List.Forall2
import SignIn.Proofs.Mirror

/-!
# Renamed worlds

A world that holds what another one does under other names: its users have other addresses and
passwords, its challenges other codes, and other tokens are banned in it. `World.Renamed` relates
the two, store by store, and each call of a store keeps it if what the call is given is renamed too.
So do the operations of the service, by `Renamed.correspondence`. The journals of the two worlds
agree line by line, except for what a database reports of a missing table.
-/

namespace SignIn

open World

/-! ## Keyed lists -/

namespace Keyed

variable {κ κ' α α' : Type} [DecidableEq κ] [DecidableEq κ']

/-- What is found under a key is found, renamed, under the key in its place. -/
def Renamed (f : κ → κ') (g : α → α') (m : Keyed κ α) (m' : Keyed κ' α') : Prop :=
  ∀ k, find? (f k) m' = (find? k m).map g

namespace Renamed

variable {f : κ → κ'} {g : α → α'} {m : Keyed κ α} {m' : Keyed κ' α'}

/-- Nothing kept is nothing kept under other names. -/
lemma nil : Renamed f g ([] : Keyed κ α) [] := fun _ => rfl

/-- What is put under a key and under the key in its place stays renamed. -/
lemma put (h : Renamed f g m m') (inj : f.Injective) (k : κ) (v : α) :
    Renamed f g (Keyed.put k v m) (Keyed.put (f k) (g v) m') := by
  intro j
  rw [find?_put, find?_put, h j]
  by_cases same : k = j
  · rw [if_pos same, if_pos (congrArg f same)]
    rfl
  · rw [if_neg same, if_neg (mt (@inj k j) same)]

/-- What is dropped under a key and under the key in its place stays renamed. -/
lemma drop (h : Renamed f g m m') (inj : f.Injective) (k : κ) :
    Renamed f g (Keyed.drop k m) (Keyed.drop (f k) m') := by
  intro j
  rw [find?_drop, find?_drop, h j]
  by_cases same : k = j
  · rw [if_pos same, if_pos (congrArg f same)]
    rfl
  · rw [if_neg same, if_neg (mt (@inj k j) same)]

end Renamed

end Keyed

variable {α : Type} {ρ : Renaming} {lost : Prop}

/-! ## Stores -/

/-- What a table is found to hold for an address and for the one in its place. A row may be that of
no user. -/
inductive Row.Alike (ρ : Renaming) :
    Except TableFault (Option Row) → Except TableFault (Option Row) → Prop
  | missing : Alike ρ (.error .missing) (.error .missing)
  | none : Alike ρ (.ok none) (.ok none)
  | row {r r' : Row} (user : r'.user? = r.user?.map ρ.user) : Alike ρ (.ok (some r)) (.ok (some r'))

/-- Accounts of one kind, in which the same users are found under other addresses. -/
inductive Accounts.Renamed (ρ : Renaming) : Accounts → Accounts → Prop
  | directory {d d' : Directory} (users : Keyed.Renamed ρ.email ρ.user d.users d'.users) :
    Renamed ρ (.directory d) (.directory d')
  | table {t t' : Table} (kind : t'.onFile = t.onFile)
    (rows : ∀ e : Email, Row.Alike ρ (t.find? e.text) (t'.find? (ρ.email e).text)) :
    Renamed ρ (.table t) (.table t')

/-- Bans of one kind, in which other tokens are banned till the same deadlines. -/
inductive Bans.Renamed (ρ : Renaming) : Bans → Bans → Prop
  | register {r r' : Register} (ends : Keyed.Renamed ρ.token id r.ends r'.ends) :
    Renamed ρ (.register r) (.register r')
  | keyspace : Renamed ρ .keyspace .keyspace

def Renaming.pending (ρ : Renaming) (p : Pending) : Pending := ⟨ρ.challenge p.challenge, p.deadline⟩

/-- Challenges of one kind and lifetime, of other addresses and with other codes. -/
inductive Challenges.Renamed (ρ : Renaming) : Challenges → Challenges → Prop
  | book {b b' : Book} (seconds : b'.seconds = b.seconds)
    (pending : Keyed.Renamed ρ.email ρ.pending b.pending b'.pending) :
    Renamed ρ (.book b) (.book b')
  | keyspace (seconds : Int) : Renamed ρ (.keyspace seconds) (.keyspace seconds)

/-- Servers that fail at the same commands, with the same bans of other tokens and the same
challenges of other addresses and with other codes. -/
structure Keyspace.Renamed (ρ : Renaming) (k k' : Keyspace) : Prop where
  outages : k'.outages = k.outages
  bans : ∀ now t, k'.find? now (Bans.key (ρ.token t)) = k.find? now (Bans.key t)
  challenges : ∀ now e c, k'.find? now (Challenges.key (ρ.email e)) = some (ρ.challenge c).payload ↔
    k.find? now (Challenges.key e) = some c.payload

/-- Mailers of one kind. Two providers are the same but for what they have been sent. -/
inductive Mailer.Alike : Mailer → Mailer → Prop
  | dummy : Alike .dummy .dummy
  | recorder (sent sent' : List Message) (closes closes' : Nat) :
    Alike (.recorder sent closes) (.recorder sent' closes')
  | provider (p : Provider) (sent : List MailRequest) :
    Alike (.provider p) (.provider { p with sent := sent })

/-! ## Lines -/

/-- What a database without its table reports of a look-up. -/
def Accounts.lookUpLine (e : Email) : Entry :=
  ⟨.error, source, "User lookup failed for " ++ e.redacted ++ ": " ++ TableFault.lookupText e.text⟩

/-- What a database without its table reports of an insertion. -/
def Accounts.insertLine (u : User) : Entry :=
  ⟨.error, source,
    "User insert failed for " ++ u.email.redacted ++ ": " ++ TableFault.insertText (.ofUser u)⟩

/-- Two lines are the same or, if a table may be lost, tell of its loss, the one what was asked of
it and the other what was asked in its place. -/
inductive Entry.Alike (ρ : Renaming) (lost : Prop) : Entry → Entry → Prop
  | same (line : Entry) : Alike ρ lost line line
  | lookUp (loss : lost) (e : Email) :
    Alike ρ lost (Accounts.lookUpLine e) (Accounts.lookUpLine (ρ.email e))
  | insert (loss : lost) (u : User) :
    Alike ρ lost (Accounts.insertLine u) (Accounts.insertLine (ρ.user u))

/-! ## Worlds -/

/-- The second world is the first under other names. If no table may be lost, there are accounts. -/
structure World.Renamed (ρ : Renaming) (lost : Prop) (w v : World) : Prop where
  wall : v.wall = w.wall
  uptime : v.uptime = w.uptime
  outages : v.outages = w.outages
  ids : v.ids = w.ids
  used : v.codes.used = w.codes.used
  drawn : ∀ n, (⟨v.codes.draw n⟩ : OneTimeCode) = ρ.code ⟨w.codes.draw n⟩
  accounts : Accounts.Renamed ρ w.accounts v.accounts
  bans : Bans.Renamed ρ w.bans v.bans
  challenges : Challenges.Renamed ρ w.challenges v.challenges
  server : Keyspace.Renamed ρ w.keyspace v.keyspace
  mailer : Mailer.Alike w.mailer v.mailer
  present : w.accounts.arePresent = true ∨ lost
  journal : List.Forall₂ (Entry.Alike ρ lost) w.journal v.journal

/-- Worlds that are one another's in a renaming stay so with lines that are alike. -/
lemma World.Renamed.adding {w v : World} (h : Renamed ρ lost w v) {lines lines' : List Entry}
    (alike : List.Forall₂ (Entry.Alike ρ lost) lines lines') :
    Renamed ρ lost (w.adding lines) (v.adding lines') :=
  { h with journal := List.rel_append h.journal alike }

/-- Worlds that are one another's in a renaming stay so with the same line. -/
lemma World.Renamed.noting {w v : World} (h : Renamed ρ lost w v) (level : Level)
    (source text : String) :
    Renamed ρ lost (w.noting level source text) (v.noting level source text) :=
  h.adding (.cons (.same _) .nil)

/-! ## Accounts -/

/-- What is found in two tables is alike after a user and the renamed one were added to them. -/
lemma Row.Alike.added (faithful : ρ.Faithful) {t t' t₁ t₁' : Table} (u : User)
    (rows : ∀ e : Email, Row.Alike ρ (t.find? e.text) (t'.find? (ρ.email e).text))
    (added : ∀ email, t₁.find? email =
      if (ofUser u).email = email then .ok (some (ofUser u)) else t.find? email)
    (added' : ∀ email, t₁'.find? email =
      if (ofUser (ρ.user u)).email = email then .ok (some (ofUser (ρ.user u))) else t'.find? email)
    (e : Email) : Row.Alike ρ (t₁.find? e.text) (t₁'.find? (ρ.email e).text) := by
  rw [added, added']
  by_cases same : u.email = e
  · subst same
    rw [if_pos (show (ofUser u).email = u.email.text from rfl),
      if_pos (show (ofUser (ρ.user u)).email = (ρ.email u.email).text from rfl)]
    exact .row (by rw [user?_ofUser, user?_ofUser, Option.map_some])
  · have other : (ofUser u).email ≠ e.text := fun text => same (Email.text_inj.1 text)
    have other' : (ofUser (ρ.user u)).email ≠ (ρ.email e).text :=
      fun text => same (faithful.email (Email.text_inj.1 text))
    rw [if_neg other, if_neg other']
    exact rows e

namespace Accounts

variable {a a' : Accounts}

/-- Who is read under the address in place of another one is the user in place of the other's. -/
lemma Renamed.read (h : Renamed ρ a a') (e : Email) :
    a'.read (ρ.email e) = (a.read e).map ρ.user := by
  cases h with
  | @directory d d' users =>
    have found : d'.find? (ρ.email e) = (d.find? e).map ρ.user := users e
    rw [read_directory, read_directory, found]
    cases d.find? e with
    | some u | none => rfl
  | @table t t' _ rows =>
    have alike := rows e
    simp only [Accounts.read]
    generalize t.find? e.text = found, t'.find? (ρ.email e).text = found' at alike
    cases alike with
    | missing | none => rfl
    | @row r r' user =>
      simp only [Row.told, user]
      cases r.user? with
      | some u | none => rfl

/-- A table from which nothing can be read is lost. -/
lemma loss_of_missing {t : Table} (present : (table t).arePresent = true ∨ lost) {email : String}
    (missing : t.find? email = .error .missing) : lost := by
  refine present.resolve_left fun there => ?_
  obtain ⟨rows, there⟩ := Option.isSome_iff_exists.1 there
  rw [Table.find?, there] at missing
  cases missing

/-- What looking up an address writes is the same for the address in its place, but for what a
database without its table reports. -/
lemma Renamed.remarks (h : Renamed ρ a a') (faithful : ρ.Faithful)
    (present : a.arePresent = true ∨ lost) (e : Email) :
    List.Forall₂ (Entry.Alike ρ lost) (a.remarks e) (a'.remarks (ρ.email e)) := by
  cases h with
  | directory => exact .nil
  | @table t t' _ rows =>
    have alike := rows e
    have loss : t.find? e.text = .error .missing → lost := loss_of_missing present
    simp only [Accounts.remarks]
    generalize t.find? e.text = found, t'.find? (ρ.email e).text = found' at alike loss
    cases alike with
    -- the line repeats the address that was looked up, and so differs
    | missing => exact .cons (.lookUp (loss rfl) e) .nil
    | none => exact .nil
    | @row r r' user =>
      simp only [user, Option.isSome_map, faithful.redacted]
      split
      · exact .nil
      · exact .cons (.same _) .nil

/-- Looking up an address tells the user who is found, renamed. -/
lemma lookUp_renamed (faithful : ρ.Faithful) (e : Email) :
    Mirrors (World.Renamed ρ lost) (fun u u' => u' = ρ.user u) id (lookUp e)
      (lookUp (ρ.email e)) := by
  intro w v renamed r w' s v' run run'
  obtain ⟨rfl, rfl⟩ := run.unique (lookUp_ends e w)
  obtain ⟨rfl, rfl⟩ := run'.unique (lookUp_ends (ρ.email e) v)
  exact ⟨.of_map (renamed.accounts.read e),
    renamed.adding (renamed.accounts.remarks faithful renamed.present e)⟩

/-- Adding a user ends as adding the renamed user does. -/
lemma add_renamed (faithful : ρ.Faithful) (u : User) :
    Mirrors (World.Renamed ρ lost) Eq id (add u) (add (ρ.user u)) := by
  intro w v renamed r w' s v' run run'
  have accounts := renamed.accounts
  have present := renamed.present
  rw [add, Ends.get_bind] at run run'
  generalize w.accounts = a, v.accounts = a' at accounts present run run'
  cases accounts with
  | @directory d d' users =>
    have found : d'.find? (ρ.user u).email = (d.find? u.email).map ρ.user := users u.email
    simp only [Directory.add?, found] at run run'
    cases taken : d.find? u.email with
    | some _ =>
      simp only [taken, Option.map_some] at run run'
      obtain ⟨rfl, rfl⟩ := Ends.throw_inv run
      obtain ⟨rfl, rfl⟩ := Ends.throw_inv run'
      exact ⟨.error rfl, renamed⟩
    | none =>
      simp only [taken, Option.map_none] at run run'
      obtain ⟨rfl, rfl⟩ := Ends.modify_inv run
      obtain ⟨rfl, rfl⟩ := Ends.modify_inv run'
      exact ⟨.ok rfl, { renamed with
        accounts := .directory (users.put faithful.email u.email u)
        present := .inl rfl }⟩
  | @table t t' kind rows =>
    have alike : Row.Alike ρ (t.find? (Row.ofUser u).email)
        (t'.find? (Row.ofUser (ρ.user u)).email) := rows u.email
    have loss : t.find? (Row.ofUser u).email = .error .missing → lost := loss_of_missing present
    have inserted := insert_spec t (.ofUser u)
    have inserted' := insert_spec t' (.ofUser (ρ.user u))
    have whole : (Row.ofUser (ρ.user u)).password.isWhole = (Row.ofUser u).password.isWhole :=
      faithful.whole u.password
    rw [whole] at inserted'
    simp only at run run'
    generalize t.find? (Row.ofUser u).email = found,
      t'.find? (Row.ofUser (ρ.user u)).email = found',
      (Row.ofUser u).password.isWhole = bound at alike loss inserted inserted'
    cases alike with
    | missing =>
      -- the line repeats the row that was to be inserted, and so differs
      rw [inserted.2, Ends.log_bind] at run
      rw [inserted'.2, Ends.log_bind] at run'
      obtain ⟨rfl, rfl⟩ := Ends.throw_inv run
      obtain ⟨rfl, rfl⟩ := Ends.throw_inv run'
      exact ⟨.error rfl, renamed.adding (.cons (.insert (loss rfl) u) .nil)⟩
    | row =>
      cases bound with
      | false | true =>
        rw [inserted] at run
        rw [inserted'] at run'
        obtain ⟨rfl, rfl⟩ := Ends.throw_inv run
        obtain ⟨rfl, rfl⟩ := Ends.throw_inv run'
        exact ⟨.error rfl, renamed⟩
    | none =>
      cases bound with
      | false =>
        rw [inserted] at run
        rw [inserted'] at run'
        obtain ⟨rfl, rfl⟩ := Ends.throw_inv run
        obtain ⟨rfl, rfl⟩ := Ends.throw_inv run'
        exact ⟨.error rfl, renamed⟩
      | true =>
        obtain ⟨t₁, added, there, kind₁, rows₁⟩ := inserted
        obtain ⟨t₁', added', _, kind₁', rows₁'⟩ := inserted'
        rw [added] at run
        rw [added'] at run'
        obtain ⟨rfl, rfl⟩ := Ends.modify_inv run
        obtain ⟨rfl, rfl⟩ := Ends.modify_inv run'
        exact ⟨.ok rfl, { renamed with
          accounts := .table ((kind₁'.trans kind).trans kind₁.symm)
            (Row.Alike.added faithful u rows rows₁ rows₁')
          present := .inl there }⟩

end Accounts

/-! ## Commands -/

section Commands

variable {c c' : Command} {source : String} {words : ServerFault → String}
  {fault : ServerFault → Fault} {g g' : Keyspace → α} {w w' v v' : World}

/-- Two commands that fail for the same reasons, each sent to its own server, are reported alike. -/
lemma reported_bind_renamed (renamed : w.Renamed ρ lost v)
    (faults : ∀ k k' : Keyspace, k'.outages = k.outages → k'.fault? c' = k.fault? c)
    (told : g' v.keyspace = g w.keyspace)
    (carried : Keyspace.Renamed ρ (w.keyspace.carriedOut w.uptime c)
      (v.keyspace.carriedOut v.uptime c')) {r s : Except Fault α}
    (h : Ends (reported source words fault c >>= fun k => pure (g k)) w r w')
    (h' : Ends (reported source words fault c' >>= fun k => pure (g' k)) v s v') :
    Matched Eq id r s ∧ w'.Renamed ρ lost v' := by
  obtain ⟨rfl, rfl, rfl, rfl⟩ | ⟨f, rfl, rfl, rfl, rfl⟩ :=
    reported_bind_both (faults _ _ renamed.server.outages) h h'
  · exact ⟨.ok told.symm, { renamed with server := carried }⟩
  · have sent : World.Renamed ρ lost
        { w with keyspace := { w.keyspace with sent := w.keyspace.sent ++ [c] } }
        { v with keyspace := { v.keyspace with sent := v.keyspace.sent ++ [c'] } } :=
      { renamed with server := ⟨renamed.server.outages, renamed.server.bans,
          renamed.server.challenges⟩ }
    exact ⟨.error rfl, sent.noting _ _ _⟩

end Commands

/-! ## Bans -/

section Bans

variable {k k' : Keyspace}

/-- A register tells the same of the token in a token's place. -/
lemma Register.contains_renamed {r r' : Register} (ends : Keyed.Renamed ρ.token id r.ends r'.ends)
    (faithful : ρ.Faithful) (now : Int) (t : String) :
    (r'.contains now (ρ.token t)).1 = (r.contains now t).1 ∧
      Keyed.Renamed ρ.token id (r.contains now t).2.ends (r'.contains now (ρ.token t)).2.ends := by
  have found := ends t
  rw [Option.map_id, id] at found
  rw [contains, contains, found]
  cases here : Keyed.find? t r.ends with
  | none => exact ⟨rfl, ends⟩
  | some d =>
    dsimp only
    split
    · next come =>
      rw [sweep, sweep, found, here]
      simp only [come, if_true]
      exact ⟨trivial, ends.drop faithful.token t⟩
    · exact ⟨rfl, ends⟩

/-- Asking for a ban tells the same of the token in a token's place. -/
lemma Bans.contains_renamed (faithful : ρ.Faithful) (t : String) :
    Mirrors (World.Renamed ρ lost) Eq id (contains t) (contains (ρ.token t)) := by
  intro w v renamed r w' s v' run run'
  have bans := renamed.bans
  rw [contains, Ends.get_bind] at run run'
  generalize w.bans = b, v.bans = b' at bans run run'
  cases bans with
  | register ends =>
    obtain ⟨same, ends'⟩ := Register.contains_renamed ends faithful w.uptime t
    simp only [Ends.set_bind, renamed.uptime] at run run'
    obtain ⟨rfl, rfl⟩ := Ends.pure_inv run
    obtain ⟨rfl, rfl⟩ := Ends.pure_inv run'
    exact ⟨.ok same.symm, { renamed with uptime := rfl, bans := .register ends' }⟩
  | keyspace =>
    have carried : Keyspace.Renamed ρ (w.keyspace.carriedOut w.uptime (.probe (key t)))
        (v.keyspace.carriedOut v.uptime (.probe (key (ρ.token t)))) :=
      ⟨renamed.server.outages, renamed.server.bans, renamed.server.challenges⟩
    refine reported_bind_renamed renamed (fun k k' same => ?_) ?_ carried run run'
    · simp only [Keyspace.fault?, Command.word, same]
    · rw [renamed.uptime, renamed.server.bans]

/-- Servers stay one another's in a renaming when a ban is put on both. -/
lemma Keyspace.Renamed.banned (h : Keyspace.Renamed ρ k k') (faithful : ρ.Faithful) (now : Int)
    (t value : String) (seconds : Int) :
    Keyspace.Renamed ρ (k.carriedOut now (.put (Bans.key t) value seconds))
      (k'.carriedOut now (.put (Bans.key (ρ.token t)) value seconds)) where
  outages := by rw [outages_carriedOut, outages_carriedOut, h.outages]
  bans now' u := by
    rw [find?_put, find?_put, h.bans]
    by_cases same : t = u
    · rw [same, if_pos rfl, if_pos rfl]
    · rw [if_neg fun keys => same (Bans.key_inj.1 keys),
        if_neg fun keys => same (faithful.token (Bans.key_inj.1 keys))]
  challenges now' e c := by
    rw [find?_put, find?_put, if_neg (Bans.key_ne _ _), if_neg (Bans.key_ne _ _)]
    exact h.challenges now' e c

/-- Banning a token ends as banning the token in its place does. -/
lemma Bans.revoke_renamed (faithful : ρ.Faithful) (t : String) (n : Int) :
    Mirrors (World.Renamed ρ lost) Eq id (revoke t (.whole n)) (revoke (ρ.token t) (.whole n)) := by
  intro w v renamed r w' s v' run run'
  have bans := renamed.bans
  rw [revoke, Ends.get_bind] at run run'
  generalize w.bans = b, v.bans = b' at bans run run'
  cases bans with
  | @register b b' ends =>
    have found := ends t
    rw [Option.map_id, id] at found
    simp only at run run'
    split at run
    · next fits =>
      rw [if_pos fits] at run'
      obtain ⟨rfl, rfl⟩ := Ends.set_inv run
      obtain ⟨rfl, rfl⟩ := Ends.set_inv run'
      have ends' := ends.put faithful.token t ((Register.endOf w.uptime (.whole n)).later
        ((Keyed.find? t b.ends).getD .zero))
      refine ⟨.ok rfl, { renamed with bans := .register ?_ }⟩
      rw [Register.revoke, Register.revoke, Register.ban, Register.ban, found, renamed.uptime]
      exact ends'
    · next unfit =>
      rw [if_neg unfit] at run'
      obtain ⟨rfl, rfl⟩ := Ends.throw_inv run
      obtain ⟨rfl, rfl⟩ := Ends.throw_inv run'
      exact ⟨.error rfl, renamed⟩
  | keyspace =>
    simp only [Seconds.truncate?] at run run'
    refine reported_bind_renamed renamed (fun k k' same => ?_) rfl ?_ run run'
    · simp only [Keyspace.fault?, Command.word, same]
    · rw [renamed.uptime]
      exact renamed.server.banned faithful _ _ _ _

end Bans

/-! ## Challenges -/

section Challenges

variable {k k' : Keyspace}

/-- Challenges in whose place there is one challenge are one challenge. -/
lemma Renaming.Faithful.challenge_inj (faithful : ρ.Faithful) {c d : Challenge} :
    ρ.challenge c = ρ.challenge d ↔ c = d := by
  refine ⟨fun same => ?_, fun same => congrArg _ same⟩
  obtain ⟨attempt, code⟩ := Challenge.mk.inj same
  exact congr (congrArg Challenge.mk attempt) (faithful.code code)

/-- Payloads in whose place there is one payload are one payload. -/
lemma Renaming.Faithful.payload_inj (faithful : ρ.Faithful) {c d : Challenge} :
    (ρ.challenge c).payload = (ρ.challenge d).payload ↔ c.payload = d.payload := by
  rw [Challenge.payload_inj, Challenge.payload_inj, faithful.challenge_inj]

/-- Servers stay one another's in a renaming when a challenge is put on both. -/
lemma Keyspace.Renamed.challenged (h : Keyspace.Renamed ρ k k') (faithful : ρ.Faithful) (now : Int)
    (e : Email) (c : Challenge) (seconds : Int) :
    Keyspace.Renamed ρ (k.carriedOut now (.put (Challenges.key e) c.payload seconds))
      (k'.carriedOut now (.put (Challenges.key (ρ.email e)) (ρ.challenge c).payload seconds)) where
  outages := by rw [outages_carriedOut, outages_carriedOut, h.outages]
  bans now' t := by
    rw [find?_put, find?_put, if_neg (Bans.key_ne _ _).symm, if_neg (Bans.key_ne _ _).symm, h.bans]
  challenges now' f d := by
    rw [find?_put, find?_put]
    by_cases same : e = f
    · rw [same, if_pos rfl, if_pos rfl]
      split
      -- under the key that was written, payloads agree exactly if their challenges do
      · rw [Option.some_inj, Option.some_inj]
        exact faithful.payload_inj
      · exact ⟨nofun, nofun⟩
    · rw [if_neg fun keys => same (faithful.email (Challenges.key_inj.1 keys)),
        if_neg fun keys => same (Challenges.key_inj.1 keys)]
      exact h.challenges now' f d

/-- Servers stay one another's in a renaming when a challenge is taken from both. -/
lemma Keyspace.Renamed.taken (h : Keyspace.Renamed ρ k k') (faithful : ρ.Faithful) (now : Int)
    (e : Email) (c : Challenge) :
    Keyspace.Renamed ρ (k.carriedOut now (.removeIf (Challenges.key e) c.payload))
      (k'.carriedOut now (.removeIf (Challenges.key (ρ.email e)) (ρ.challenge c).payload)) where
  outages := by rw [outages_carriedOut, outages_carriedOut, h.outages]
  bans now' t := by
    rw [find?_removeIf, find?_removeIf, if_neg fun both => Bans.key_ne _ _ both.1.symm,
      if_neg fun both => Bans.key_ne _ _ both.1.symm, h.bans]
  challenges now' f d := by
    rw [find?_removeIf, find?_removeIf]
    have keys : Challenges.key (ρ.email e) = Challenges.key (ρ.email f) ↔
        Challenges.key e = Challenges.key f := by
      rw [Challenges.key_inj, Challenges.key_inj, faithful.email.eq_iff]
    simp only [keys, h.challenges now e c]
    split
    · exact ⟨nofun, nofun⟩
    · exact h.challenges now' f d

/-- Issuing a challenge ends as issuing the one in its place does. -/
lemma Challenges.issue_renamed (faithful : ρ.Faithful) (e : Email) (c : Challenge) :
    Mirrors (World.Renamed ρ lost) Eq id (issue e c) (issue (ρ.email e) (ρ.challenge c)) := by
  intro w v renamed r w' s v' run run'
  have challenges := renamed.challenges
  rw [issue, Ends.get_bind] at run run'
  generalize w.challenges = b, v.challenges = b' at challenges run run'
  cases challenges with
  | @book b b' seconds pending =>
    simp only [seconds, renamed.uptime] at run run'
    split at run
    · next fits =>
      rw [if_pos fits] at run'
      obtain ⟨rfl, rfl⟩ := Ends.set_inv run
      obtain ⟨rfl, rfl⟩ := Ends.set_inv run'
      refine ⟨.ok rfl, { renamed with uptime := rfl, challenges := .book seconds ?_ }⟩
      rw [Book.issue, Book.issue, seconds]
      exact pending.put faithful.email e _
    · next unfit =>
      rw [if_neg unfit] at run'
      obtain ⟨rfl, rfl⟩ := Ends.throw_inv run
      obtain ⟨rfl, rfl⟩ := Ends.throw_inv run'
      exact ⟨.error rfl, renamed⟩
  | keyspace seconds =>
    simp only [command_eq, faithful.redacted] at run run'
    refine reported_bind_renamed renamed (fun k k' same => ?_) rfl ?_ run run'
    · simp only [Keyspace.fault?, Command.word, same]
    · rw [renamed.uptime]
      exact renamed.server.challenged faithful _ _ _ _

/-- A book tells the same of the challenge in a challenge's place, and the books stay renamed. -/
lemma Book.take_renamed {b b' : Book} (seconds : b'.seconds = b.seconds)
    (pending : Keyed.Renamed ρ.email ρ.pending b.pending b'.pending) (faithful : ρ.Faithful)
    (now : Int) (e : Email) (c : Challenge) :
    (b'.take now (ρ.email e) (ρ.challenge c)).1 = (b.take now e c).1 ∧
      Challenges.Renamed ρ (.book (b.take now e c).2)
        (.book (b'.take now (ρ.email e) (ρ.challenge c)).2) := by
  have consumed : Challenges.Renamed ρ (.book (b.consume e)) (.book (b'.consume (ρ.email e))) :=
    .book seconds (pending.drop faithful.email e)
  rw [take, take, pending e]
  cases Keyed.find? e b.pending with
  | none => exact ⟨rfl, .book seconds pending⟩
  | some p =>
    show (if p.deadline.hasCome now = true then (false, b'.consume (ρ.email e))
        else if ρ.challenge p.challenge = ρ.challenge c then (true, b'.consume (ρ.email e))
        else (false, b')).1 = _ ∧ _
    simp only [Option.map_some, Renaming.pending, faithful.challenge_inj]
    split
    · exact ⟨rfl, consumed⟩
    · split
      · exact ⟨rfl, consumed⟩
      · exact ⟨rfl, .book seconds pending⟩

/-- Taking a challenge ends as taking the one in its place does. -/
lemma Challenges.take_renamed (faithful : ρ.Faithful) (e : Email) (c : Challenge) :
    Mirrors (World.Renamed ρ lost) Eq id (take e c) (take (ρ.email e) (ρ.challenge c)) := by
  intro w v renamed r w' s v' run run'
  have challenges := renamed.challenges
  rw [take, Ends.get_bind] at run run'
  generalize w.challenges = b, v.challenges = b' at challenges run run'
  cases challenges with
  | @book b b' seconds pending =>
    obtain ⟨same, challenges'⟩ := Book.take_renamed seconds pending faithful w.uptime e c
    simp only [Ends.set_bind, renamed.uptime] at run run'
    obtain ⟨rfl, rfl⟩ := Ends.pure_inv run
    obtain ⟨rfl, rfl⟩ := Ends.pure_inv run'
    exact ⟨.ok same.symm, { renamed with uptime := rfl, challenges := challenges' }⟩
  | keyspace seconds =>
    simp only [command_eq, faithful.redacted] at run run'
    refine reported_bind_renamed renamed (fun k k' same => ?_) ?_ ?_ run run'
    · simp only [Keyspace.fault?, Command.word, same]
    · rw [renamed.uptime, Bool.eq_iff_iff, beq_iff_eq, beq_iff_eq]
      exact renamed.server.challenges _ _ _
    · rw [renamed.uptime]
      exact renamed.server.taken faithful _ _ _

end Challenges

/-! ## Mail -/

/-- How a provider answers does not depend on the message. -/
lemma Provider.deliver_alike (p : Provider) (sent : List MailRequest) (m m' : Message) :
    (({ p with sent := sent } : Provider).deliver m').1 = (p.deliver m).1 ∧
      ∃ sent', (({ p with sent := sent } : Provider).deliver m').2 =
        { (p.deliver m).2 with sent := sent' } := by
  unfold deliver
  cases Mail.Url.prepare p.address with
  | error f => exact ⟨rfl, sent, rfl⟩
  | ok url =>
    dsimp only
    split
    · exact ⟨rfl, sent, rfl⟩
    · cases Mail.Url.defect? url with
      | some d => exact ⟨rfl, sent, rfl⟩
      | none =>
        dsimp only
        split
        · exact ⟨rfl, sent, rfl⟩
        · cases p.replies with
          | nil => exact ⟨rfl, _, rfl⟩
          | cons r replies => exact ⟨rfl, _, rfl⟩

/-- Mailing a code ends as mailing the code in its place does. -/
lemma Mailer.send_renamed (faithful : ρ.Faithful) (e : Email) (c c' : OneTimeCode) :
    Mirrors (World.Renamed ρ lost) Eq id (send (Service.codeMessage e c))
      (send (Service.codeMessage (ρ.email e) c')) := by
  intro w v renamed r w' s v' run run'
  have mailer := renamed.mailer
  -- of a message, no more is logged than these two
  have whom : (Service.codeMessage (ρ.email e) c').recipient.redacted =
    (Service.codeMessage e c).recipient.redacted := faithful.redacted e
  have subject : (Service.codeMessage (ρ.email e) c').subject =
    (Service.codeMessage e c).subject := rfl
  generalize Service.codeMessage e c = m, Service.codeMessage (ρ.email e) c' = m' at *
  rw [send, Ends.get_bind] at run run'
  generalize w.mailer = b, v.mailer = b' at mailer run run'
  cases mailer with
  | dummy =>
    simp only [whom, subject] at run run'
    obtain ⟨rfl, rfl⟩ := Ends.log_inv run
    obtain ⟨rfl, rfl⟩ := Ends.log_inv run'
    exact ⟨.ok rfl, renamed.noting _ _ _⟩
  | recorder =>
    obtain ⟨rfl, rfl⟩ := Ends.set_inv run
    obtain ⟨rfl, rfl⟩ := Ends.set_inv run'
    exact ⟨.ok rfl, { renamed with mailer := .recorder _ _ _ _ }⟩
  | provider p sent =>
    obtain ⟨outcome, sent', after⟩ := p.deliver_alike sent m m'
    simp only [Ends.set_bind, outcome, after, whom, subject] at run run'
    have delivered : World.Renamed ρ lost { w with mailer := .provider (p.deliver m).2 }
        { v with mailer := .provider { (p.deliver m).2 with sent := sent' } } :=
      { renamed with mailer := .provider _ _ }
    cases answer : (p.deliver m).1 with
    | ok _ =>
      simp only [answer] at run run'
      obtain ⟨rfl, rfl⟩ := Ends.log_inv run
      obtain ⟨rfl, rfl⟩ := Ends.log_inv run'
      exact ⟨.ok rfl, delivered.noting _ _ _⟩
    | error f =>
      cases f with
      | failed reason message =>
        simp only [answer, Ends.log_bind] at run run'
        obtain ⟨rfl, rfl⟩ := Ends.throw_inv run
        obtain ⟨rfl, rfl⟩ := Ends.throw_inv run'
        exact ⟨.error rfl, delivered.noting _ _ _⟩
      | escaped d =>
        simp only [answer] at run run'
        obtain ⟨rfl, rfl⟩ := Ends.throw_inv run
        obtain ⟨rfl, rfl⟩ := Ends.throw_inv run'
        exact ⟨.error rfl, delivered⟩

/-! ## Operations -/

/-- Every operation ends alike in a world and in the renamed one if what it is given is renamed. -/
lemma World.Renamed.correspondence (faithful : ρ.Faithful) :
    Correspondence ρ (World.Renamed ρ lost) id fun _ => True where
  faithful := faithful
  wall _ _ renamed := renamed.wall
  outages _ _ renamed := renamed.outages
  noting _ _ renamed := renamed.noting
  ids w v renamed := ⟨renamed.ids, { renamed with ids := by rw [idDrawn, idDrawn, renamed.ids] }⟩
  codes w v renamed := by
    refine ⟨by rw [renamed.used, renamed.drawn], { renamed with used := ?_ }⟩
    rw [codeDrawn, codeDrawn, renamed.used]
  own _ _ _ _ _ _ _ := trivial
  lookUp e _ := Accounts.lookUp_renamed faithful e
  issue e _ c := Challenges.issue_renamed faithful e c
  take e _ c := Challenges.take_renamed faithful e c
  send e c := Mailer.send_renamed faithful e c (ρ.code c)

end SignIn
