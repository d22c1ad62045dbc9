import SignIn.Proofs.Backends
import SignIn.Proofs.Turns

/-!
# Accounts in a directory and in a table

A table that starts empty answers every sequence of calls as a directory does, also if it is on file
and the store is closed and built anew in between. Both hold the users that were added, in the order
of their adding (`Keeping.accounts`), and what a call tells and leaves follows from that alone
(`AccountCall.answer`, `AccountCall.after`). This holds as long as the passwords of the users to be
added are whole; a directory keeps a torn one, and a table does not (`table_refuses_torn`).
Addresses are texts here, without unpaired surrogates.

Others may write rows as well. The cells of a row can hold more than texts and truth values, but a
store tells of any such table what it tells of a table of texts (`Table.ofCells`).
-/

namespace SignIn

open World

/-- A call of an account store, or closing the store and building it anew. -/
inductive AccountCall
  | add (u : User)
  | find (e : Email)
  | check (e : Email) (p : Password)
  | reopen
  deriving DecidableEq

inductive AccountReply
  | done
  | found (u : User)
  deriving DecidableEq

/-- The accounts as a store that is built anew finds them. -/
def Accounts.reopened : Accounts → Accounts
  | .directory d => .directory d
  | .table t => .table t.openAgain

namespace AccountCall

def perform : AccountCall → Call AccountReply
  | add u => (fun _ => .done) <$> Accounts.add u
  | find e => .found <$> Accounts.lookUp e
  | check e p => (fun _ => .done) <$> Accounts.check e p
  | reopen => (fun _ => .done) <$>
      (modify fun w => { w with accounts := w.accounts.reopened } : Call Unit)

end AccountCall

abbrev AccountRecord := Record AccountCall AccountReply

/-- Where calls of an account store lead from a world. -/
abbrev World.accounting (w : World) (turns : List (Turn AccountCall)) :
    Play AccountCall AccountReply :=
  w.play AccountCall.perform turns

namespace Record

/-- A call with its answer as far as it is told. -/
def told (x : AccountRecord) : AccountCall × Except Fault AccountReply :=
  (x.call, x.answer.mapError Fault.told)

/-- The user that a call has added. -/
def added? (x : AccountRecord) : Option User :=
  match x.told with
  | (.add u, .ok _) => some u
  | _ => none

end Record

/-- The users that were added, the first one first. -/
def added (h : List AccountRecord) : List User :=
  h.filterMap Record.added?

/-! ## What is held and what is told -/

def userOf (us : List User) (e : Email) : Option User :=
  us.find? fun u => u.email = e

/-- Where users are kept. -/
inductive Keeping
  | inMemory
  | inTable (onFile : Bool)

namespace Keeping

/-- The accounts of some users, in the order of their adding. -/
def accounts (us : List User) : Keeping → Accounts
  | inMemory => .directory ⟨us.map fun u => (u.email, u)⟩
  | inTable onFile => .table ⟨some (us.map .ofUser), onFile⟩

/-- Closing the store does not lose the accounts. -/
def Durable : Keeping → Prop
  | inMemory => True
  | inTable onFile => onFile = true

/-- Turns in which no torn password is to be kept, and in which a store is built anew only where
that does not lose the accounts. -/
structure Bears (k : Keeping) (turns : List (Turn AccountCall)) : Prop where
  whole : ∀ u, .call (.add u) ∈ turns → u.password.isWhole = true
  durable : .call .reopen ∈ turns → k.Durable

/-- What a store bears in some turns it bears in part of them. -/
lemma Bears.mono {k : Keeping} {turns more : List (Turn AccountCall)} (h : k.Bears more)
    (sub : turns ⊆ more) : k.Bears turns :=
  ⟨fun u mem => h.whole u (sub mem), fun mem => h.durable (sub mem)⟩

end Keeping

/-- What is told of a user under an address. -/
def tellUser : Option User → Except Fault User
  | some u => .ok u
  | none => .error (.account .unknown)

namespace AccountCall

/-- The answer to a call if some users have been added. -/
def answer (us : List User) : AccountCall → Except Fault AccountReply
  | add u => if (userOf us u.email).isSome then .error (.account .taken) else .ok .done
  | find e => (tellUser (userOf us e)).map .found
  | check e p => (tellUser (userOf us e)).bind fun u =>
      (Accounts.verdict u p).map fun _ => .done
  | reopen => .ok .done

/-- The users that have been added after a call. -/
def after (us : List User) : AccountCall → List User
  | add u => if (userOf us u.email).isSome then us else us ++ [u]
  | find _ | check _ _ | reopen => us

end AccountCall

section Keeping

variable {w v : World} {us : List User} {k : Keeping}

/-- What is put under a free key comes last. -/
lemma Keyed.put_eq_append {κ α : Type} [DecidableEq κ] {k : κ} {m : Keyed κ α} (x : α)
    (free : find? k m = none) : put k x m = m ++ [(k, x)] := by
  induction m with
  | nil => rfl
  | cons entry m ih =>
    obtain ⟨k', y⟩ := entry
    rw [find?] at free
    split at free
    · cases free
    · next other => rw [put, if_neg other, ih free, List.cons_append]

/-- Users that are kept under their addresses are found as in the list. -/
lemma Keyed.find?_map_users (us : List User) (e : Email) :
    find? e (us.map fun u => (u.email, u)) = userOf us e := by
  induction us with
  | nil => rfl
  | cons u us ih =>
    rw [List.map_cons, find?, ih, userOf, userOf, List.find?_cons]
    by_cases same : u.email = e
    · rw [if_pos same, decide_eq_true same]
    · rw [if_neg same, decide_eq_false same]

/-- A row that was filed of a user matches the user's address and no other. -/
lemma Row.matches_ofUser (u : User) (e : Email) :
    ((ofUser u).email == e.text) = decide (u.email = e) := by
  rw [Bool.eq_iff_iff, beq_iff_eq, decide_eq_true_eq]
  exact Email.text_inj

/-- The rows of users are found as the users are. -/
lemma Row.find?_map_users (us : List User) (e : Email) :
    ((us.map ofUser).find? fun r => r.email == e.text) = (userOf us e).map ofUser := by
  rw [List.find?_map]
  simp only [Function.comp_def, matches_ofUser]
  rfl

/-- A row of an address is there when a user is. -/
lemma Row.any_map_users (us : List User) (e : Email) :
    ((us.map ofUser).any fun r => r.email == e.text) = (userOf us e).isSome := by
  rw [Bool.eq_iff_iff, List.any_eq_true, ← List.find?_isSome, find?_map_users, Option.isSome_map]

namespace Keeping

/-- What is found under an address is the user that was added with it. -/
lemma read_accounts (k : Keeping) (us : List User) (e : Email) :
    (k.accounts us).read e = tellUser (userOf us e) := by
  cases k with
  | inMemory =>
    rw [accounts, Accounts.read_directory, Directory.find?, Keyed.find?_map_users]
    rfl
  | inTable onFile =>
    rw [accounts, Accounts.read, Table.find?]
    dsimp only
    rw [Row.find?_map_users]
    cases userOf us e with
    | none => rfl
    | some u =>
      rw [Option.map_some, Row.told, Row.user?_ofUser]
      rfl

/-- A user with a whole password is added at the end unless the address is taken; then nothing
changes. -/
lemma add_inv {u : User} {r : Except Fault Unit} (h : w.accounts = k.accounts us)
    (whole : u.password.isWhole = true) (run : Ends (Accounts.add u) w r v) :
    (userOf us u.email = none ∧ r = .ok () ∧ v.accounts = k.accounts (us ++ [u])) ∨
      (userOf us u.email).isSome = true ∧ (∃ cause, r = .error (.account .taken cause)) ∧
        v.accounts = w.accounts := by
  rw [Accounts.add, Ends.get_bind] at run
  cases k with
  | inMemory =>
    have found : (⟨us.map fun u => (u.email, u)⟩ : Directory).find? u.email =
        userOf us u.email := by
      rw [Directory.find?, Keyed.find?_map_users]
    cases taken : userOf us u.email with
    | some x =>
      simp only [h, accounts, Directory.add?, found, taken] at run
      obtain ⟨rfl, rfl⟩ := Ends.throw_inv run
      exact .inr ⟨rfl, ⟨_, rfl⟩, rfl⟩
    | none =>
      simp only [h, accounts, Directory.add?, found, taken] at run
      obtain ⟨rfl, rfl⟩ := Ends.modify_inv run
      have placed := Keyed.put_eq_append u (found.trans taken)
      refine .inl ⟨rfl, rfl, ?_⟩
      show Accounts.directory ⟨Keyed.put u.email u (us.map _)⟩ = _
      rw [placed, accounts, List.map_append]
      rfl
  | inTable onFile =>
    have inserted : (⟨some (us.map .ofUser), onFile⟩ : Table).insert (.ofUser u) =
        if (userOf us u.email).isSome = true then .error .duplicate
        else .ok ⟨some (us.map .ofUser ++ [.ofUser u]), onFile⟩ := by
      rw [Table.insert, ← Row.any_map_users,
        show (Row.ofUser u).password.isWhole = true from whole]
      rfl
    cases taken : userOf us u.email with
    | some x =>
      rw [taken, Option.isSome_some, if_pos rfl] at inserted
      simp only [h, accounts, inserted] at run
      obtain ⟨rfl, rfl⟩ := Ends.throw_inv run
      exact .inr ⟨rfl, ⟨_, rfl⟩, rfl⟩
    | none =>
      rw [taken, Option.isSome_none, if_neg Bool.false_ne_true] at inserted
      simp only [h, accounts, inserted] at run
      obtain ⟨rfl, rfl⟩ := Ends.modify_inv run
      refine .inl ⟨rfl, rfl, ?_⟩
      rw [accounts, List.map_append]
      rfl

/-- Accounts that outlast the store are the same when it is built anew. -/
lemma reopened_accounts (durable : k.Durable) (us : List User) :
    (k.accounts us).reopened = k.accounts us := by
  cases k with
  | inMemory => rfl
  | inTable onFile =>
    obtain rfl : onFile = true := durable
    rfl

end Keeping

/-- What a call tells and what it leaves follow from the users that are kept. -/
lemma AccountCall.step {c : AccountCall} {r : Except Fault AccountReply}
    (h : w.accounts = k.accounts us) (bears : k.Bears [.call c]) (run : Ends c.perform w r v) :
    r.mapError Fault.told = c.answer us ∧ v.accounts = k.accounts (c.after us) := by
  cases c with
  | add u =>
    obtain ⟨s, made, rfl⟩ := Ends.map_inv run
    rw [answer, after]
    obtain ⟨free, rfl, added⟩ | ⟨taken, ⟨cause, rfl⟩, same⟩ :=
      Keeping.add_inv h (bears.whole u List.mem_cons_self) made
    · rw [free, Option.isSome_none, if_neg Bool.false_ne_true, if_neg Bool.false_ne_true]
      exact ⟨rfl, added⟩
    · rw [if_pos taken, if_pos taken, same]
      exact ⟨rfl, h⟩
  | find e =>
    obtain ⟨s, made, rfl⟩ := Ends.map_inv run
    obtain ⟨rfl, same⟩ := Accounts.lookUp_inv made
    rw [answer, after, same.accounts List.not_mem_nil, h, k.read_accounts]
    refine ⟨?_, rfl⟩
    cases userOf us e with
    | none => rfl
    | some u => rfl
  | check e p =>
    obtain ⟨s, made, rfl⟩ := Ends.map_inv run
    obtain ⟨rfl, same⟩ := Accounts.check_inv made
    rw [answer, after, same.accounts List.not_mem_nil, h, k.read_accounts]
    refine ⟨?_, rfl⟩
    cases userOf us e with
    | none => rfl
    | some u =>
      obtain told | told | told := Accounts.verdict_cases u p
      · simp only [tellUser, Except.bind, told]
        rfl
      · simp only [tellUser, Except.bind, told]
        rfl
      · simp only [tellUser, Except.bind, told]
        rfl
  | reopen =>
    obtain ⟨s, made, rfl⟩ := Ends.map_inv run
    obtain ⟨rfl, rfl⟩ := Ends.modify_inv made
    refine ⟨rfl, ?_⟩
    show w.accounts.reopened = k.accounts us
    rw [h, Keeping.reopened_accounts (bears.durable List.mem_cons_self)]

end Keeping

/-! ## Runs -/

/-- No call makes two users share an address. -/
lemma AccountCall.distinct_after {us : List User} (c : AccountCall)
    (distinct : (us.map (·.email)).Nodup) : ((c.after us).map (·.email)).Nodup := by
  cases c with
  | add u =>
    rw [after]
    split
    · exact distinct
    · next free =>
      rw [userOf, List.find?_isSome] at free
      rw [List.map_append, List.nodup_append]
      refine ⟨distinct, List.pairwise_singleton .., fun e mem f last same => ?_⟩
      obtain ⟨x, there, rfl⟩ := List.mem_map.1 mem
      rw [List.map_singleton, List.mem_singleton] at last
      exact free ⟨x, there, decide_eq_true (same.trans last)⟩
  | find _ | check _ _ | reopen => exact distinct

section Runs

variable {w v : World} {k k' : Keeping} {h : List AccountRecord} {x : AccountRecord}

/-- One more record adds the user that it tells of, if it does. -/
lemma added_snoc (h : List AccountRecord) (x : AccountRecord) :
    added (h ++ [x]) = added h ++ x.added?.toList := by
  rw [added, List.filterMap_append]
  cases found : x.added? with
  | none => rw [List.filterMap_cons_none found]; rfl
  | some u => rw [List.filterMap_cons_some found]; rfl

/-- The users that are kept after a call are those that were added so far. -/
lemma after_added (told : x.answer.mapError Fault.told = x.call.answer (added h)) :
    x.call.after (added h) = added (h ++ [x]) := by
  obtain ⟨c, now, r⟩ := x
  rw [added_snoc]
  cases c with
  | add u =>
    rw [AccountCall.answer] at told
    rw [AccountCall.after]
    cases r with
    | ok reply =>
      split at told
      · cases told
      · next free => rw [if_neg free]; rfl
    | error f =>
      split at told
      · next taken =>
        rw [if_pos taken]
        exact (List.append_nil _).symm
      · cases told
  | find _ | check _ _ | reopen => exact (List.append_nil _).symm

/-- The users that a store keeps after any turns are those that were added. -/
lemma World.accounts_accounting (start : w.accounts = k.accounts [])
    (turns : List (Turn AccountCall)) (bears : k.Bears turns) :
    (w.accounting turns).world.accounts = k.accounts (added (w.accounting turns).history) := by
  induction turns using List.reverseRecOn with
  | nil => exact start
  | append_singleton turns turn ih =>
    have kept := ih (bears.mono (List.subset_append_left ..))
    cases turn with
    | call c =>
      obtain ⟨r, v, run⟩ := Ends.total c.perform (w.accounting turns).world
      obtain ⟨told, after⟩ :=
        AccountCall.step kept (bears.mono (List.subset_append_right ..)) run
      rw [World.accounting, play_snoc_call run]
      dsimp only
      rw [after, ← after_added told]
    | wait ms =>
      rw [World.accounting, play_snoc]
      exact kept

/-- Histories that tell the same have added the same users. -/
lemma added_congr {h h' : List AccountRecord} (told : h.map Record.told = h'.map Record.told) :
    added h = added h' := by
  have through (h : List AccountRecord) : added h = (h.map Record.told).filterMap fun x =>
      match x with
      | (.add u, .ok _) => some u
      | _ => none := by
    rw [List.filterMap_map]
    rfl
  rw [through, told, ← through]

/-- Two stores that start without users tell the same in any turns. -/
lemma World.told_accounting (start : w.accounts = k.accounts [])
    (start' : v.accounts = k'.accounts []) (turns : List (Turn AccountCall))
    (bears : k.Bears turns) (bears' : k'.Bears turns) :
    (w.accounting turns).history.map Record.told =
      (v.accounting turns).history.map Record.told := by
  induction turns using List.reverseRecOn with
  | nil => rfl
  | append_singleton turns turn ih =>
    have init : turns ⊆ turns ++ [turn] := List.subset_append_left ..
    have last : [turn] ⊆ turns ++ [turn] := List.subset_append_right ..
    have alike := ih (bears.mono init) (bears'.mono init)
    have kept := World.accounts_accounting start turns (bears.mono init)
    have kept' := World.accounts_accounting start' turns (bears'.mono init)
    rw [← added_congr alike] at kept'
    cases turn with
    | call c =>
      obtain ⟨r, w', run⟩ := Ends.total c.perform (w.accounting turns).world
      obtain ⟨s, v', run'⟩ := Ends.total c.perform (v.accounting turns).world
      obtain ⟨told, _⟩ := AccountCall.step kept (bears.mono last) run
      obtain ⟨told', _⟩ := AccountCall.step kept' (bears'.mono last) run'
      rw [World.accounting, World.accounting, play_snoc_call run, play_snoc_call run']
      simp only [List.map_append, List.map_cons, List.map_nil, Record.told, told, told']
      rw [← World.accounting, alike]
    | wait ms =>
      rw [World.accounting, World.accounting, play_snoc, play_snoc]
      exact alike

/-- No two users that were added have the same address. -/
lemma World.distinct_added (start : w.accounts = k.accounts []) (turns : List (Turn AccountCall))
    (bears : k.Bears turns) :
    ((added (w.accounting turns).history).map (·.email)).Nodup := by
  induction turns using List.reverseRecOn with
  | nil => exact List.nodup_nil
  | append_singleton turns turn ih =>
    have init := bears.mono (List.subset_append_left turns [turn])
    have distinct := ih init
    have kept := World.accounts_accounting start turns init
    cases turn with
    | call c =>
      obtain ⟨r, v, run⟩ := Ends.total c.perform (w.accounting turns).world
      obtain ⟨told, _⟩ :=
        AccountCall.step kept (bears.mono (List.subset_append_right ..)) run
      rw [World.accounting, play_snoc_call run, ← after_added told]
      exact c.distinct_after distinct
    | wait ms =>
      rw [World.accounting, play_snoc]
      exact distinct

end Runs

/-! ## Rows that others have written -/

/-- What a cell of a row can hold. A text whose octets are no text cannot be read. -/
inductive Cell
  | null
  | integer (n : Int)
  | real (x : Binary64)
  | text (s : String)
  | garbled (octets : List UInt8)
  | blob (octets : List UInt8)

structure CellRow where
  email : Cell
  password : Cell
  secondFactor : Cell

namespace Cell

/-- The truth value of what a cell holds, if it can be read. -/
def truth? : Cell → Option Bool
  | null => some false
  | integer n => some (n != 0)
  | real (.finite _ mantissa _) => some (mantissa != 0)
  | real _ => some true
  | text s => some (s != "")
  | garbled _ => none
  | blob octets => some (!octets.isEmpty)

end Cell

namespace CellRow

/-- A row is that of an address if its first cell holds the address as a text. -/
def isOf (e : String) (r : CellRow) : Bool :=
  match r.email with
  | .text s => s == e
  | _ => false

/-- The user of an address's row, or why it is none. -/
def user (e : String) (r : CellRow) : Except Cause User :=
  match r.password, r.secondFactor.truth? with
  | .garbled _, _ | _, none => .error (.reported "OperationalError")
  | .text p, some b => (Row.user? ⟨e, p, b⟩).elim (.error .flaw) .ok
  | _, some _ => .error .flaw

/-- The row of texts of which a store tells the same. -/
def seen (r : CellRow) : Option Row :=
  match r.email with
  | .text e =>
    match r.password, r.secondFactor.truth? with
    | .text p, some b => some ⟨e, p, b⟩
    | _, _ => some ⟨e, "", false⟩
  | _ => none

end CellRow

/-- A table with any cells, or none. -/
def Table.ofCells (contents : Option (List CellRow)) (onFile : Bool) : Table :=
  ⟨contents.map (·.filterMap CellRow.seen), onFile⟩

/-- What is told of an address if a table has the given cells. -/
def tellCells (contents : Option (List CellRow)) (e : Email) : Except Fault User :=
  match contents with
  | none => .error (.account .unavailable (some .missingTable))
  | some rows =>
    match rows.find? (·.isOf e.text) with
    | none => .error (.account .unknown)
    | some r => (r.user e.text).mapError fun cause => .account .unavailable (some cause)

section Cells

variable {e : Email}

/-- Some row that is seen of a cell has the address exactly if the cell does. -/
lemma CellRow.seen_isOf (r : CellRow) (e : String) :
    (r.seen.any fun row => row.email == e) = r.isOf e := by
  rw [seen, isOf]
  split
  · split
    · rfl
    · rfl
  · rfl

/-- A row without a password reads as no user. -/
lemma Row.user?_blank (e : String) (b : Bool) : Row.user? ⟨e, "", b⟩ = none := by
  rw [user?]
  cases Email.ofText? e with
  | none => rfl
  | some _ => rfl

/-- A cell that has the address is told as its user is, up to the words of the fault. -/
lemma CellRow.told_seen {r : CellRow} (found : r.isOf e.text = true) :
    (Row.told r.seen).mapError Fault.kind =
      ((r.user e.text).mapError fun cause => Fault.account .unavailable (some cause)).mapError
        Fault.kind := by
  obtain ⟨email, password, secondFactor⟩ := r
  cases email with
  | text s =>
    obtain rfl : s = e.text := eq_of_beq found
    rw [seen, user]
    cases secondFactor.truth? with
    | none =>
      cases password with
      | null | integer _ | real _ | text _ | garbled _ | blob _ =>
        rw [Row.told, Row.user?_blank]
        rfl
    | some b =>
      cases password with
      | text p =>
        rw [Row.told]
        dsimp only
        cases Row.user? ⟨e.text, p, b⟩ with
        | none => rfl
        | some u => rfl
      | null | integer _ | real _ | garbled _ | blob _ =>
        rw [Row.told, Row.user?_blank]
        rfl
  | null | integer _ | real _ | garbled _ | blob _ => cases found

/-- Whatever the cells of a table hold, a store tells of it what it tells of a table of texts. -/
lemma read_ofCells (contents : Option (List CellRow)) (onFile : Bool) (e : Email) :
    ((Accounts.table (.ofCells contents onFile)).read e).mapError Fault.kind =
      (tellCells contents e).mapError Fault.kind := by
  cases contents with
  | none => rfl
  | some rows =>
    rw [Accounts.read, Table.find?, Table.ofCells, tellCells, Option.map_some]
    dsimp only
    rw [List.find?_filterMap]
    simp only [CellRow.seen_isOf]
    cases found : rows.find? (·.isOf e.text) with
    | none => rfl
    | some r => exact CellRow.told_seen (List.find?_some found)

/-- The user of a row has the address of the row. -/
lemma Row.email_of_user? {r : Row} {u : User} (parsed : r.user? = some u) :
    u.email.text = r.email := by
  rw [user?] at parsed
  obtain ⟨email, read, rest⟩ := Option.bind_eq_some_iff.1 parsed
  obtain ⟨password, _, same⟩ := Option.bind_eq_some_iff.1 rest
  cases same
  exact Email.ofText?_eq_some_iff.1 read

/-- Whatever is in a table, a look-up finds a user under their address, or nobody, or fails. -/
lemma Accounts.read_table (t : Table) (e : Email) :
    (∃ u, (table t).read e = .ok u ∧ u.email = e) ∨
      (table t).read e = .error (.account .unknown) ∨
      ∃ cause, (table t).read e = .error (.account .unavailable cause) := by
  rw [read, Table.find?]
  cases t.rows with
  | none => exact .inr (.inr ⟨_, rfl⟩)
  | some rows =>
    dsimp only
    cases found : rows.find? fun r => r.email == e.text with
    | none => exact .inr (.inl rfl)
    | some r =>
      rw [Row.told]
      cases parsed : r.user? with
      | none => exact .inr (.inr ⟨_, rfl⟩)
      | some u =>
        have named := List.find?_some found
        have there : r.email = e.text := eq_of_beq named
        exact .inl ⟨u, rfl, Email.text_inj.1 ((Row.email_of_user? parsed).trans there)⟩

end Cells

/-! ## A table in the place of a directory -/

/-- Users that share no address are filtered by one as they are found by it. -/
lemma filter_userOf {us : List User} (distinct : (us.map (·.email)).Nodup) (e : Email) :
    (us.filter fun u => u.email = e) = (userOf us e).toList := by
  induction us with
  | nil => rfl
  | cons u us ih =>
    rw [List.map_cons, List.nodup_cons] at distinct
    rw [List.filter_cons, userOf, List.find?_cons]
    by_cases same : u.email = e
    · have none : (us.filter fun x => x.email = e) = [] := by
        rw [List.filter_eq_nil_iff]
        intro x mem there
        refine distinct.1 (List.mem_map.2 ⟨x, mem, ?_⟩)
        exact (of_decide_eq_true there).trans same.symm
      rw [decide_eq_true same, if_pos rfl, none]
      rfl
    · rw [decide_eq_false same, if_neg Bool.false_ne_true]
      exact ih distinct.2

/-- The rows of such users are filtered by an address as the users are. -/
lemma Row.filter_map_users {us : List User} (distinct : (us.map (·.email)).Nodup) (e : Email) :
    ((us.map ofUser).filter fun r => r.email == e.text) =
      ((userOf us e).map ofUser).toList := by
  rw [List.filter_map]
  simp only [Function.comp_def, matches_ofUser]
  rw [filter_userOf distinct]
  cases userOf us e with
  | none => rfl
  | some u => rfl

/-- A call that fails to add a user changes no accounts. -/
lemma Accounts.unchanged_of_error {w v : World} {u : User} {f : Fault}
    (run : Ends (add u) w (.error f) v) : v.accounts = w.accounts := by
  obtain ⟨_, ⟨told, _⟩ | ⟨same, _⟩⟩ := add_inv run
  · cases told
  · exact same

/-- What looking up an address in a table tells, whatever others have written into it: a user under
the address whose texts are an address and a password, or nobody, or that the store is unavailable.
Whatever the cells of the table hold, they decide what it is. -/
structure Table.Tells (t : Table) (e : Email) (r : Except Fault User) : Prop where
  outcome : (∃ u, r = .ok u ∧ u.email = e ∧ '@' ∈ u.email.text.toList ∧
      8 ≤ u.password.text.length) ∨
    r = .error (.account .unknown) ∨ ∃ cause, r = .error (.account .unavailable cause)
  cells : ∀ contents file, t = .ofCells contents file →
    r.mapError Fault.kind = (tellCells contents e).mapError Fault.kind

/-- After some turns the second world has told what the first one has, and it keeps one row for each
user that was added. A user that cannot be added changes nothing, and looking up tells of no users
that are none. -/
structure World.Refines (w v : World) (onFile : Bool) (turns : List (Turn AccountCall)) :
    Prop where
  told : (w.accounting turns).history.map Record.told =
    (v.accounting turns).history.map Record.told
  kept : (v.accounting turns).world.accounts =
    .table ⟨some ((added (v.accounting turns).history).map .ofUser), onFile⟩
  single : ∀ e, (((added (v.accounting turns).history).map Row.ofUser).filter
      fun r => r.email == e.text) =
    ((userOf (added (v.accounting turns).history) e).map Row.ofUser).toList
  unchanged : ∀ u f x x', Ends (Accounts.add u) x (.error f) x' → x'.accounts = x.accounts
  looked : ∀ t x e r x', x.accounts = .table t → Ends (Accounts.lookUp e) x r x' → t.Tells e r

/-- What is looked up is what the table tells of the address. -/
lemma Accounts.tells_of_lookUp {t : Table} {x x' : World} {e : Email} {r : Except Fault User}
    (there : x.accounts = .table t) (run : Ends (lookUp e) x r x') : t.Tells e r := by
  obtain ⟨rfl, _⟩ := lookUp_inv run
  rw [there]
  refine ⟨?_, fun contents file same => ?_⟩
  · obtain ⟨u, found, rfl⟩ | nobody | failed := read_table t e
    · exact .inl ⟨u, found, rfl, u.email.mark, u.password.long⟩
    · exact .inr (.inl nobody)
    · exact .inr (.inr failed)
  · rw [same]
    exact read_ofCells contents file e

/-- A table that starts empty refines a directory that does, for all calls with whole passwords to
add and, if it is on file, wherever the store is closed and built anew. -/
theorem table_refines_directory {w v : World} {onFile : Bool}
    (blank : w.accounts = .directory .empty) (created : v.accounts = .table (.create onFile))
    (turns : List (Turn AccountCall)) (durable : .call .reopen ∈ turns → onFile = true)
    (whole : ∀ u, .call (.add u) ∈ turns → u.password.isWhole = true) :
    w.Refines v onFile turns := by
  have start : w.accounts = Keeping.inMemory.accounts [] := blank
  have start' : v.accounts = (Keeping.inTable onFile).accounts [] := created
  have bears : Keeping.inMemory.Bears turns := ⟨whole, fun _ => trivial⟩
  have bears' : (Keeping.inTable onFile).Bears turns := ⟨whole, durable⟩
  exact
    { told := World.told_accounting start start' turns bears bears'
      kept := World.accounts_accounting start' turns bears'
      single := fun e => Row.filter_map_users (World.distinct_added start' turns bears') e
      unchanged := fun u f x x' run => Accounts.unchanged_of_error run
      looked := fun t x e r x' there run => Accounts.tells_of_lookUp there run }

/-- The password of the sample is long enough. -/
lemma Password.long_sample : 8 ≤ "password".length := by
  decide

/-- A user is added, and after the store was built anew the address is refused to another one. -/
def accountTurns : List (Turn AccountCall) :=
  [.call (.add ⟨.sample, ⟨"password", Password.long_sample⟩, false⟩), .call .reopen,
    .call (.add ⟨.sample, ⟨"passphrase", by decide⟩, true⟩), .call (.find .sample),
    .call (.check .sample ⟨"passphrase", by decide⟩)]

def World.filed : World := { World.sample with accounts := .table (.create true) }

/-- A table that is built anew between two calls still answers as a directory does. -/
theorem filed_refines_sample :
    World.sample.accounts = .directory .empty ∧ World.filed.accounts = .table (.create true) ∧
      .call .reopen ∈ accountTurns ∧
      (∀ u, .call (.add u) ∈ accountTurns → u.password.isWhole = true) ∧
      World.sample.Refines .filed true accountTurns ∧
      (World.filed.accounting accountTurns).world.accounts =
        .table ⟨some [⟨Email.sample.text, "password", false⟩], true⟩ := by
  have whole : ∀ u, .call (.add u) ∈ accountTurns → u.password.isWhole = true := by
    intro u mem
    simp only [accountTurns, List.mem_cons, Turn.call.injEq, AccountCall.add.injEq, reduceCtorEq,
      List.not_mem_nil, or_false, false_or] at mem
    obtain rfl | rfl := mem
    · rfl
    · rfl
  have refines := @table_refines_directory World.sample World.filed true rfl rfl accountTurns
    (fun _ => rfl) whole
  exact ⟨rfl, rfl, by simp [accountTurns], whole, refines, refines.kept⟩

/-- A directory adds a user whose password is torn, and a table ends with a fault that is none of an
account store's, and stays empty. -/
theorem table_refuses_torn :
    let turns : List (Turn AccountCall) := [.call (.add ⟨.sample, .torn, false⟩)]
    (World.sample.accounting turns).history.map Record.told =
        [(.add ⟨.sample, .torn, false⟩, .ok .done)] ∧
      (World.filed.accounting turns).history.map Record.told =
        [(.add ⟨.sample, .torn, false⟩, .error (.foreign .tornText))] ∧
      (World.filed.accounting turns).world.accounts = .table (.create true) :=
  ⟨rfl, rfl, rfl⟩

end SignIn
