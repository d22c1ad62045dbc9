import SignIn.Proofs.Views

/-!
# Calls of the stores

For each call of a store that the service makes, one lemma: what the call tells in terms of the
views of the world, what it changes in them, and what it takes to fail.
-/

namespace SignIn

/-- The world after a command that failed: it is noted by the server and in the journal. -/
def World.unanswered (w : World) (c : Command) (source text : String) : World :=
  { w with keyspace := { w.keyspace with sent := w.keyspace.sent ++ [c] } }.noting .error source
    text

/-- A command without an answer changes nothing but the journal. -/
lemma World.SameBut.unanswered (w : World) (c : Command) (source text : String) :
    World.SameBut [] w (w.unanswered c source text) := by
  have sent : World.SameBut [] w
      { w with keyspace := { w.keyspace with sent := w.keyspace.sent ++ [c] } } :=
    .of_keyspace rfl (fun _ _ _ => rfl) (fun _ _ _ => rfl)
  exact sent.trans (.noting ..)

/-- A command whose failure is noted in the journal and reported as a fault. -/
def reported (source : String) (words : ServerFault → String) (fault : ServerFault → Fault)
    (c : Command) : Call Keyspace := do
  match ← (World.command c).run with
  | .ok k => return k
  | .error f =>
    World.log .error source (words f)
    throw (fault f)

/-- A reported command is carried out, or fails and is only noted. -/
lemma reported_inv {source : String} {words : ServerFault → String} {fault : ServerFault → Fault}
    {c : Command} {w w' : World} {r : Except Fault Keyspace}
    (h : Ends (reported source words fault c) w r w') :
    (w.keyspace.fault? c = none ∧ r = .ok w.keyspace ∧
        w' = { w with keyspace := w.keyspace.carriedOut w.uptime c }) ∨
      ∃ f, w.keyspace.fault? c = some f ∧ r = .error (fault f) ∧
        w' = w.unanswered c source (words f) := by
  rw [reported, Ends.command_bind] at h
  obtain ⟨order, outcome⟩ | ⟨f, broken, outcome⟩ := w.keyspace.send_inv w.uptime c
  · rw [outcome] at h
    obtain ⟨rfl, rfl⟩ := Ends.pure_inv h
    exact .inl ⟨order, rfl, rfl⟩
  · rw [outcome, Ends.log_bind] at h
    obtain ⟨rfl, rfl⟩ := Ends.throw_inv h
    exact .inr ⟨f, broken, rfl, rfl⟩

/-- A call that sends one command and tells something of the server's answer. -/
lemma reported_bind_inv {α : Type} {source : String} {words : ServerFault → String}
    {fault : ServerFault → Fault} {c : Command} {g : Keyspace → α} {w w' : World}
    {r : Except Fault α} (h : Ends (reported source words fault c >>= fun k => pure (g k)) w r w') :
    (w.keyspace.fault? c = none ∧ r = .ok (g w.keyspace) ∧
        w' = { w with keyspace := w.keyspace.carriedOut w.uptime c }) ∨
      ∃ f, w.keyspace.fault? c = some f ∧ r = .error (fault f) ∧
        w' = w.unanswered c source (words f) := by
  obtain ⟨k, w₁, asked, rest⟩ | ⟨e, asked, rfl⟩ := h.bind_inv
  · obtain ⟨rfl, rfl⟩ := Ends.pure_inv rest
    obtain ⟨order, told, rfl⟩ | ⟨_, _, told, _⟩ := reported_inv asked
    · cases told
      exact .inl ⟨order, rfl, rfl⟩
    · cases told
  · obtain ⟨_, told, _⟩ | ⟨f, broken, told, rfl⟩ := reported_inv asked
    · cases told
    · cases told
      exact .inr ⟨f, broken, rfl, rfl⟩

/-- A call that sends one command fails with a fault that stands for one of the server's. -/
lemma reported_bind_error {α : Type} {source : String} {words : ServerFault → String}
    {fault : ServerFault → Fault} {c : Command} {g : Keyspace → α} {w w' : World} {e : Fault}
    (h : Ends (reported source words fault c >>= fun k => pure (g k)) w (.error e) w') :
    ∃ f, e = fault f := by
  obtain ⟨_, told, _⟩ | ⟨f, _, told, _⟩ := reported_bind_inv h
  · cases told
  · exact ⟨f, Except.error.inj told⟩

/-- Two calls that send one command each, to servers that fail for the same reason or not at all,
both tell something of an answer or both tell of that reason. -/
lemma reported_bind_both {α : Type} {source : String} {words : ServerFault → String}
    {fault : ServerFault → Fault} {c c' : Command} {g g' : Keyspace → α} {w w' v v' : World}
    (faults : v.keyspace.fault? c' = w.keyspace.fault? c) {r s : Except Fault α}
    (h : Ends (reported source words fault c >>= fun k => pure (g k)) w r w')
    (h' : Ends (reported source words fault c' >>= fun k => pure (g' k)) v s v') :
    (r = .ok (g w.keyspace) ∧ s = .ok (g' v.keyspace) ∧
        w' = { w with keyspace := w.keyspace.carriedOut w.uptime c } ∧
        v' = { v with keyspace := v.keyspace.carriedOut v.uptime c' }) ∨
      ∃ f, r = .error (fault f) ∧ s = .error (fault f) ∧
        w' = w.unanswered c source (words f) ∧ v' = v.unanswered c' source (words f) := by
  obtain ⟨order, told, after⟩ | ⟨f, broken, told, after⟩ := reported_bind_inv h
  · obtain ⟨_, told', after'⟩ | ⟨_, broken, _⟩ := reported_bind_inv h'
    · exact .inl ⟨told, told', after, after'⟩
    · rw [faults, order] at broken
      cases broken
  · obtain ⟨order, _⟩ | ⟨f', broken', told', after'⟩ := reported_bind_inv h'
    · rw [faults, broken] at order
      cases order
    · rw [faults, broken] at broken'
      obtain rfl := Option.some.inj broken'
      exact .inr ⟨f, told, told', after, after'⟩

/-! ## Accounts -/

namespace Accounts

open World

variable {w w' : World}

/-- What looking up an address writes in the journal: nothing, unless the store is at fault. -/
def remarks (a : Accounts) (e : Email) : List Entry :=
  match a with
  | .directory _ => []
  | .table t =>
    match t.find? e.text with
    | .error _ => [⟨.error, source,
        "User lookup failed for " ++ e.redacted ++ ": " ++ TableFault.lookupText e.text⟩]
    | .ok none => []
    | .ok (some r) =>
      if r.user?.isSome then [] else [⟨.error, source, "Corrupt user row for " ++ e.redacted⟩]

/-- Looking up an address tells what is found under it. -/
lemma lookUp_ends (e : Email) (w : World) :
    Ends (lookUp e) w (w.accounts.read e) (w.adding (w.accounts.remarks e)) := by
  rw [lookUp, Ends.get_bind]
  cases w.accounts with
  | directory d =>
    simp only [remarks, read, adding_nil]
    cases d.find? e with
    | some u => rfl
    | none => rfl
  | table t =>
    simp only [remarks, read]
    cases t.find? e.text with
    | error f => rfl
    | ok row =>
      cases row with
      | none =>
        simp only [adding_nil]
        rfl
      | some row =>
        simp only [Row.told]
        cases row.user? with
        | some u =>
          simp only [Option.isSome_some, if_true, adding_nil]
          rfl
        | none => rfl

/-- What is looked up is what the store reads, and only the journal may change. -/
lemma lookUp_inv {e : Email} {r : Except Fault User} (h : Ends (lookUp e) w r w') :
    r = w.accounts.read e ∧ SameBut [] w w' := by
  obtain ⟨rfl, rfl⟩ := h.unique (lookUp_ends e w)
  exact ⟨rfl, .adding ..⟩

/-- Only the own password is right, and only if it is whole. -/
lemma verdict_eq_ok_iff {u : User} {p : Password} :
    verdict u p = .ok () ↔ u.password = p ∧ p.isWhole = true := by
  unfold verdict Password.agrees?
  split
  · next told =>
    split at told
    · next whole =>
      rw [Bool.and_eq_true] at whole
      exact ⟨fun _ => ⟨of_decide_eq_true (Option.some.inj told), whole.2⟩, fun _ => rfl⟩
    · cases told
  · next told =>
    split at told
    · exact ⟨nofun, fun right => absurd right.1 (of_decide_eq_false (Option.some.inj told))⟩
    · cases told
  · next told =>
    split at told
    · cases told
    · next torn =>
      refine ⟨nofun, fun ⟨right, whole⟩ => absurd ?_ torn⟩
      rw [right, whole]
      rfl

/-- Whole passwords are compared. -/
lemma verdict_of_whole {u : User} {p : Password} (own : u.password.isWhole = true)
    (given : p.isWhole = true) :
    verdict u p = if u.password = p then .ok () else .error (.account .mismatch) := by
  rw [verdict, Password.agrees?, own, given]
  by_cases right : u.password = p
  · rw [if_pos right, decide_eq_true right]
    rfl
  · rw [if_neg right, decide_eq_false right]
    rfl

/-- Where one of the passwords is torn there is no comparing. -/
lemma verdict_of_torn {u : User} {p : Password}
    (torn : u.password.isWhole = false ∨ p.isWhole = false) :
    verdict u p = .error .tornText := by
  have apart : (u.password.isWhole && p.isWhole) = false := Bool.and_eq_false_iff.2 torn
  rw [verdict, Password.agrees?, apart]
  rfl

/-- A password is right, or wrong, or cannot be compared. -/
lemma verdict_cases (u : User) (p : Password) :
    verdict u p = .ok () ∨ verdict u p = .error (.account .mismatch) ∨
      verdict u p = .error .tornText := by
  unfold verdict
  split
  · exact .inl rfl
  · exact .inr (.inl rfl)
  · exact .inr (.inr rfl)

/-- Checking a password compares it with that of the user who is found. -/
lemma check_inv {e : Email} {p : Password} {r : Except Fault Unit} (h : Ends (check e p) w r w') :
    r = (w.accounts.read e).bind (verdict · p) ∧ SameBut [] w w' := by
  rw [check] at h
  obtain ⟨u, w₁, looked, h⟩ | ⟨f, looked, rfl⟩ := h.bind_inv
  · obtain ⟨told, same⟩ := lookUp_inv looked
    rw [← told, Except.bind]
    obtain ⟨rfl, rfl⟩ := Ends.except_inv h
    exact ⟨rfl, same⟩
  · obtain ⟨told, same⟩ := lookUp_inv looked
    rw [← told]
    exact ⟨rfl, same⟩

/-- A fresh row is found under its own address, and the rows before it are found as before. -/
lemma find?_append {rows : List Row} {r : Row}
    (fresh : (rows.any fun q => q.email == r.email) = false)
    (email : String) :
    ((rows ++ [r]).find? fun q => q.email == email) =
      if r.email = email then some r else rows.find? fun q => q.email == email := by
  rw [List.find?_append, List.find?_singleton]
  by_cases same : r.email = email
  · have free : (rows.find? fun q => q.email == email) = none := by
      rw [List.find?_eq_none]
      intro q mem taken
      rw [← same] at taken
      rw [List.any_eq_false] at fresh
      exact fresh q mem taken
    rw [free, if_pos same, same, beq_self_eq_true]
    rfl
  · rw [if_neg same, if_neg (by rw [beq_iff_eq]; exact same), Option.or_none]

/-- A directory reads what it finds, and an unknown account where it finds nothing. -/
lemma read_directory (d : Directory) (e : Email) :
    (directory d).read e = match d.find? e with
      | some u => .ok u
      | none => .error (.account .unknown) := rfl

/-- A row tells of an unknown account only where there is no row. -/
lemma told_eq_unknown {r : Option Row} :
    Row.told r = .error (.account .unknown) ↔ r = none := by
  cases r with
  | none => exact ⟨fun _ => rfl, fun _ => rfl⟩
  | some r =>
    rw [Row.told]
    cases r.user? with
    | some u => exact ⟨nofun, nofun⟩
    | none => exact ⟨nofun, nofun⟩

/-- Adding to a directory fails exactly for an address that reads, and then only that address reads
anew. -/
lemma read_add? {d : Directory} {u : User} :
    (d.add? u = none ∧ (directory d).read u.email ≠ .error (.account .unknown)) ∨
      ∃ d', d.add? u = some d' ∧ (directory d).read u.email = .error (.account .unknown) ∧
        ∀ e, (directory d').read e = if u.email = e then .ok u else (directory d).read e := by
  cases added : d.add? u with
  | none =>
    refine .inl ⟨rfl, ?_⟩
    rw [Directory.add?] at added
    split at added
    · next found =>
      rw [read, found]
      nofun
    · cases added
  | some d' =>
    refine .inr ⟨d', rfl, ?_, ?_⟩
    · rw [Directory.add?] at added
      split at added
      · cases added
      · next free => rw [read, free]
    · intro e
      rw [read_directory, read_directory, Directory.find?_add? added e]
      by_cases same : u.email = e
      · rw [if_pos same, if_pos same]
      · rw [if_neg same, if_neg same]

/-- A row of whole texts is added to a table if none is found under its address; then it is what is
found there. -/
lemma insert_spec (t : Table) (r : Row) :
    match t.find? r.email, r.password.isWhole with
    | .error f, _ => f = .missing ∧ t.insert r = .error .missing
    | .ok _, false => t.insert r = .error .unbound
    | .ok (some _), true => t.insert r = .error .duplicate
    | .ok none, true => ∃ t', t.insert r = .ok t' ∧ t'.rows.isSome = true ∧
        t'.onFile = t.onFile ∧
        ∀ email, t'.find? email = if r.email = email then .ok (some r) else t.find? email := by
  cases there : t.rows with
  | none => simp only [Table.find?, Table.insert, there, and_self]
  | some rows =>
    cases whole : r.password.isWhole with
    | false => simp only [Table.find?, Table.insert, there, whole, Bool.not_false, if_true]
    | true =>
      cases taken : rows.any fun q => q.email == r.email with
      | true =>
        obtain ⟨q, mem, same⟩ := List.any_eq_true.1 taken
        simp only [Table.find?, Table.insert, there, whole, taken, Bool.not_true,
          Bool.false_eq_true, if_false, if_true]
        cases found : rows.find? fun q => q.email == r.email with
        | some _ => trivial
        | none => exact absurd same (List.find?_eq_none.1 found q mem)
      | false =>
        have free : (rows.find? fun q => q.email == r.email) = none :=
          List.find?_eq_none.2 (List.any_eq_false.1 taken)
        simp only [Table.find?, Table.insert, there, whole, taken, free, Bool.not_true,
          Bool.false_eq_true, if_false]
        refine ⟨_, rfl, rfl, rfl, fun email => ?_⟩
        simp only [find?_append taken]
        split
        · rfl
        · rfl

/-- A user with a whole password is added to a table that is there, unless somebody is found under
the address. -/
lemma read_insert {t : Table} {u : User} {rows : List Row} (there : t.rows = some rows)
    (whole : u.password.isWhole = true) :
    (t.insert (.ofUser u) = .error .duplicate ∧
        (table t).read u.email ≠ .error (.account .unknown)) ∨
      ∃ t', t.insert (.ofUser u) = .ok t' ∧ t'.rows.isSome = true ∧
        (table t).read u.email = .error (.account .unknown) ∧
        ∀ e, (table t').read e = if u.email = e then .ok u else (table t).read e := by
  have inserted := insert_spec t (.ofUser u)
  rw [show (Row.ofUser u).email = u.email.text from rfl,
    show (Row.ofUser u).password.isWhole = true from whole] at inserted
  cases found : t.find? u.email.text with
  | error f =>
    rw [Table.find?, there] at found
    cases found
  | ok row =>
    simp only [read, found]
    cases row with
    | some q =>
      rw [found] at inserted
      refine .inl ⟨inserted, ?_⟩
      rw [Ne, told_eq_unknown]
      nofun
    | none =>
      rw [found] at inserted
      obtain ⟨t', added, present, _, rows'⟩ := inserted
      refine .inr ⟨t', added, present, rfl, fun e => ?_⟩
      rw [rows']
      by_cases same : u.email = e
      · simp only [same, if_true, Row.told, Row.user?_ofUser]
      · rw [if_neg (mt Email.text_inj.1 same), if_neg same]

/-- A table that is there cannot keep a torn password. -/
lemma insert_torn {t : Table} {u : User} {rows : List Row} (there : t.rows = some rows)
    (torn : u.password.isWhole = false) : t.insert (.ofUser u) = .error .unbound := by
  rw [Table.insert, there, show (Row.ofUser u).password.isWhole = false from torn]
  rfl

/-- Adding a user makes that user be found, unless somebody is found under the address or the
password cannot be kept. -/
lemma add_inv {u : User} {r : Except Fault Unit} (h : Ends (add u) w r w') :
    SameBut [.accounts] w w' ∧
      ((r = .ok () ∧ w.accounts.canKeep u.password = true ∧
        w.accounts.read u.email = .error (.account .unknown) ∧
        ∀ e, w'.accounts.read e = if u.email = e then .ok u else w.accounts.read e) ∨
      w'.accounts = w.accounts ∧
        ((∃ cause, r = .error (.account .taken cause)) ∧
            w.accounts.read u.email ≠ .error (.account .unknown) ∨
          (∃ cause, r = .error (.account .unavailable cause)) ∧ w.accounts.arePresent = false ∨
          r = .error .tornText ∧ w.accounts.arePresent = true ∧
            w.accounts.canKeep u.password = false)) := by
  have out {α : Prop} : .accounts ∉ [Part.accounts] → α := absurd List.mem_cons_self
  rw [add, Ends.get_bind] at h
  cases store : w.accounts with
  | directory d =>
    simp only [store] at h
    obtain ⟨added, taken⟩ | ⟨d', added, free, found⟩ := @read_add? d u
    · rw [added] at h
      obtain ⟨rfl, rfl⟩ := Ends.throw_inv h
      exact ⟨.refl _ _, .inr ⟨store, .inl ⟨⟨none, rfl⟩, taken⟩⟩⟩
    · rw [added] at h
      obtain ⟨rfl, rfl⟩ := Ends.modify_inv h
      have present : (directory d').arePresent = w.accounts.arePresent := by
        rw [store]
        rfl
      have keeping : (directory d').canKeep = w.accounts.canKeep := by
        rw [store]
        rfl
      exact ⟨{ SameBut.refl _ w with present := present, keeping := keeping, accounts := out },
        .inl ⟨rfl, rfl, free, found⟩⟩
  | table t =>
    simp only [store] at h
    cases there : t.rows with
    | none =>
      simp only [Table.insert, there, Ends.log_bind] at h
      obtain ⟨rfl, rfl⟩ := Ends.throw_inv h
      refine ⟨.noting .., .inr ⟨store, .inr (.inl ⟨⟨_, rfl⟩, ?_⟩)⟩⟩
      rw [arePresent, there]
      rfl
    | some rows =>
      cases whole : u.password.isWhole with
      | false =>
        rw [insert_torn there whole] at h
        obtain ⟨rfl, rfl⟩ := Ends.throw_inv h
        refine ⟨.refl _ _, .inr ⟨store, .inr (.inr ⟨rfl, ?_, whole⟩)⟩⟩
        rw [arePresent, there]
        rfl
      | true =>
        obtain ⟨added, taken⟩ | ⟨t', added, present, free, found⟩ := read_insert there whole
        · rw [added] at h
          obtain ⟨rfl, rfl⟩ := Ends.throw_inv h
          exact ⟨.refl _ _, .inr ⟨store, .inl ⟨⟨_, rfl⟩, taken⟩⟩⟩
        · rw [added] at h
          obtain ⟨rfl, rfl⟩ := Ends.modify_inv h
          have present' : (table t').arePresent = w.accounts.arePresent := by
            rw [store, arePresent, arePresent, present, there]
            rfl
          have keeping : (table t').canKeep = w.accounts.canKeep := by
            rw [store]
            rfl
          exact ⟨{ SameBut.refl _ w with present := present', keeping := keeping, accounts := out },
            .inl ⟨rfl, whole, free, found⟩⟩

/-- A user whose password cannot be kept is not added to a store that is there. -/
lemma add_torn {u : User} (present : w.accounts.arePresent = true)
    (torn : w.accounts.canKeep u.password = false) : Ends (add u) w (.error .tornText) w := by
  rw [add, Ends.get_bind]
  cases store : w.accounts with
  | directory d =>
    rw [store] at torn
    cases torn
  | table t =>
    rw [store] at present torn
    obtain ⟨rows, there⟩ := Option.isSome_iff_exists.1 (show t.rows.isSome = true from present)
    simp only [insert_torn there torn]
    rfl

end Accounts

/-! ## Bans -/

namespace Register

/-- A look-up finds a ban that is not over, or drops the token's entry. -/
lemma contains_spec (r : Register) (now : Int) (t : String) :
    (∃ d, Keyed.find? t r.ends = some d ∧ now < d.ends ∧ r.contains now t = (true, r)) ∨
      (∀ d, Keyed.find? t r.ends = some d → d.ends ≤ now) ∧
        ∃ r', r.contains now t = (false, r') ∧
          ∀ u, Keyed.find? u r'.ends = if t = u then none else Keyed.find? u r.ends := by
  rw [contains]
  cases found : Keyed.find? t r.ends with
  | none =>
    refine .inr ⟨nofun, r, rfl, fun u => ?_⟩
    split
    · next same => rw [← same, found]
    · rfl
  | some d =>
    dsimp only
    by_cases come : d.hasCome now = true
    · rw [if_pos come]
      refine .inr ⟨fun d' same => ?_, r.sweep now t, rfl, fun u => ?_⟩
      · cases same
        exact of_decide_eq_true come
      · rw [sweep, found]
        simp only [come, if_true]
        exact Keyed.find?_drop ..
    · rw [if_neg come]
      rw [Deadline.hasCome, decide_eq_true_iff] at come
      exact .inl ⟨d, rfl, by omega, rfl⟩

/-- What a register tells of a token: whether the end of its ban is still to come. -/
lemma contains_eq (r : Register) (now : Int) (t : String) :
    (r.contains now t).1 = match Keyed.find? t r.ends with
      | some d => decide (now < d.ends)
      | none => false := by
  obtain ⟨d, found, live, told⟩ | ⟨ended, r', told, _⟩ := r.contains_spec now t
  · rw [told, found]
    exact (decide_eq_true live).symm
  · rw [told]
    cases found : Keyed.find? t r.ends with
    | none => rfl
    | some d =>
      have past := ended d found
      exact (decide_eq_false (by omega)).symm

/-- A look-up changes nothing that a register tells from then on. -/
lemma contains_contains (r : Register) {now now' : Int} (le : now ≤ now') (t u : String) :
    ((r.contains now t).2.contains now' u).1 = (r.contains now' u).1 := by
  obtain ⟨_, _, _, told⟩ | ⟨ended, r', told, kept⟩ := r.contains_spec now t
  · rw [told]
  · rw [told, contains_eq, contains_eq r now', kept]
    by_cases same : t = u
    · subst same
      rw [if_pos rfl]
      cases found : Keyed.find? t r.ends with
      | none => rfl
      | some d =>
        have past := ended d found
        exact (decide_eq_false (by omega)).symm
    · rw [if_neg same]

end Register

namespace Bans

open World

variable {w w' : World}

/-- A command of the bans is a command whose failure is reported as one of the bans. -/
lemma command_eq (words : String) (c : Command) :
    command words c =
      reported source (fun f => words ++ ": " ++ f.text) (fun f => .ban (some f.cause)) c := rfl

/-- Asking for a ban tells whether the token is banned now. -/
lemma contains_inv {t : String} {r : Except Fault Bool} (h : Ends (contains t) w r w') :
    SameBut [] w w' ∧
      (r = .ok (w.bannedAt w.uptime t) ∨ (∃ f, r = .error f) ∧ w.keyspace.outages ≠ []) := by
  rw [contains, Ends.get_bind] at h
  cases store : w.bans with
  | register b =>
    rw [store, Ends.set_bind] at h
    obtain ⟨rfl, rfl⟩ := Ends.pure_inv h
    refine ⟨{ SameBut.refl [] w with bans := ?_ }, .inl ?_⟩
    · intro _ now le u
      simp only [bannedAt, store]
      exact b.contains_contains le t u
    · rw [bannedAt, store]
  | keyspace =>
    simp only [store, command_eq] at h
    obtain ⟨_, rfl, rfl⟩ | ⟨g, broken, rfl, rfl⟩ := reported_bind_inv h
    · refine ⟨.of_keyspace rfl (fun _ _ _ => rfl) (fun _ _ _ => rfl), .inl ?_⟩
      rw [bannedAt, store]
    · refine ⟨.unanswered .., .inr ⟨⟨_, rfl⟩, fun served => ?_⟩⟩
      rw [Keyspace.fault?_eq_none served trivial] at broken
      cases broken

/-- What is entered in memory is a ban for its length. -/
lemma banSet_register {b : Register} (store : w.bans = .register b) (t : String) (n : Int) :
    w.BanSet { w with bans := .register (b.revoke w.uptime t (.whole n)) } t
      (w.uptime + 1000 * max 1 n) := by
  have found (u : String) : Keyed.find? u (b.revoke w.uptime t (.whole n)).ends =
      if t = u then some ((Register.endOf w.uptime (.whole n)).later
        ((Keyed.find? t b.ends).getD .zero)) else Keyed.find? u b.ends :=
    Keyed.find?_put ..
  have till : (Register.endOf w.uptime (.whole n)).ends = w.uptime + 1000 * max 1 n := rfl
  constructor
  · intro now _ early
    simp only [bannedAt, Register.contains_eq, found, if_true, decide_eq_true_eq, Deadline.later,
      till]
    omega
  -- the later of two ends is the new one, since an older ban is not there or is over
  · intro started free now from' late
    simp only [bannedAt, store, Register.contains_eq] at free
    simp only [bannedAt, Register.contains_eq, found, if_true, decide_eq_false_iff_not,
      Deadline.later, till]
    cases earlier : Keyed.find? t b.ends with
    | none =>
      rw [Option.getD_none]
      show ¬ now < max _ 0
      omega
    | some d =>
      simp only [earlier, decide_eq_false_iff_not] at free
      rw [Option.getD_some]
      omega
  · intro now _ u other
    simp only [bannedAt, store, Register.contains_eq, found, if_neg other.symm]

/-- What is put on the server under the key of a token is a ban for its seconds. -/
lemma banSet_keyspace (store : w.bans = .keyspace) (t value : String) (seconds : Int) :
    w.BanSet
      { w with keyspace := w.keyspace.carriedOut w.uptime (.put (key t) value seconds) } t
      (w.uptime + 1000 * seconds) := by
  constructor
  · intro now _ early
    simp only [bannedAt, store, Keyspace.find?_put, if_true, if_pos early]
    rfl
  · intro _ _ now _ late
    simp only [bannedAt, store, Keyspace.find?_put, if_true]
    rw [if_neg (by omega)]
    rfl
  · intro now _ u other
    simp only [bannedAt, store, Keyspace.find?_put]
    rw [if_neg fun same => other (key_inj.1 same).symm]

/-- Banning a token keeps it banned for the given length, or a second if that is shorter. -/
lemma revoke_inv {t : String} {n : Int} {r : Except Fault Unit}
    (h : Ends (revoke t (.whole n)) w r w') :
    SameBut [.bans] w w' ∧
      (r = .ok () ∧ w.BanSet w' t (w.uptime + 1000 * max 1 n) ∨
        (∃ f, r = .error f) ∧ SameBut [] w w' ∧
          ¬ (w.keyspace.outages = [] ∧ (Seconds.whole (max 1 n)).fits = true)) := by
  have out {α : Prop} : .bans ∉ [Part.bans] → α := absurd List.mem_cons_self
  rw [revoke, Ends.get_bind] at h
  cases store : w.bans with
  | register b =>
    simp only [store] at h
    by_cases fits : (Seconds.whole n).atLeastOne.fits = true
    · rw [if_pos fits] at h
      obtain ⟨rfl, rfl⟩ := Ends.set_inv h
      exact ⟨{ SameBut.refl _ w with bans := out }, .inl ⟨rfl, banSet_register store t n⟩⟩
    · rw [if_neg fits] at h
      obtain ⟨rfl, rfl⟩ := Ends.throw_inv h
      exact ⟨.refl _ _, .inr ⟨⟨_, rfl⟩, .refl _ _, fun both => fits both.2⟩⟩
  | keyspace =>
    simp only [store, Seconds.truncate?, command_eq] at h
    obtain ⟨_, rfl, rfl⟩ | ⟨g, broken, rfl, rfl⟩ := reported_bind_inv h
    · refine ⟨.of_keyspace rfl out fun _ now e => ?_, .inl ⟨rfl, banSet_keyspace store ..⟩⟩
      rw [Keyspace.find?_put, if_neg (key_ne t e)]
    · refine ⟨.mono (.unanswered ..) (List.nil_subset _), .inr ⟨⟨_, rfl⟩, .unanswered .., ?_⟩⟩
      intro both
      have lasting : 0 < max 1 n := by omega
      rw [Keyspace.fault?_eq_none both.1 lasting] at broken
      cases broken

end Bans

/-! ## Challenges -/

namespace Book

/-- What a book tells of a pair: whether it is an address's challenge whose end is still to come. -/
lemma take_eq (b : Book) (now : Int) (e : Email) (c : Challenge) :
    (b.take now e c).1 = match Keyed.find? e b.pending with
      | some p => decide (p.challenge = c ∧ now < p.deadline.ends)
      | none => false := by
  rw [take]
  cases Keyed.find? e b.pending with
  | none => rfl
  | some p =>
    dsimp only
    by_cases come : p.deadline.hasCome now = true
    · rw [if_pos come]
      have past : p.deadline.ends ≤ now := of_decide_eq_true come
      exact (decide_eq_false fun both => by omega).symm
    · rw [if_neg come]
      rw [Deadline.hasCome, decide_eq_true_iff] at come
      by_cases same : p.challenge = c
      · rw [if_pos same]
        exact (decide_eq_true ⟨same, by omega⟩).symm
      · rw [if_neg same]
        exact (decide_eq_false fun both => same both.1).symm

/-- Consuming a challenge makes a later take of that address fail, and of no other. -/
lemma take_consume (b : Book) (now : Int) (e f : Email) (d : Challenge) :
    ((b.consume e).take now f d).1 = if e = f then false else (b.take now f d).1 := by
  rw [take_eq, take_eq, consume, Keyed.find?_drop]
  by_cases same : e = f
  · rw [if_pos same, if_pos same]
  · rw [if_neg same, if_neg same]

/-- A challenge is consumed if it is taken, and else only if it is over. -/
lemma take_spec (b : Book) (now : Int) (e : Email) (c : Challenge) :
    b.take now e c = (true, b.consume e) ∨
      ∃ b', b.take now e c = (false, b') ∧ b'.seconds = b.seconds ∧
        ∀ now', now ≤ now' → ∀ f d, (b'.take now' f d).1 = (b.take now' f d).1 := by
  rw [take]
  cases found : Keyed.find? e b.pending with
  | none => exact .inr ⟨b, rfl, rfl, fun _ _ _ _ => rfl⟩
  | some p =>
    dsimp only
    by_cases come : p.deadline.hasCome now = true
    · rw [if_pos come]
      refine .inr ⟨b.consume e, rfl, rfl, fun now' le f d => ?_⟩
      rw [take_consume]
      by_cases same : e = f
      · have past : p.deadline.ends ≤ now := of_decide_eq_true come
        rw [if_pos same, ← same, take_eq, found]
        exact (decide_eq_false fun both => by omega).symm
      · rw [if_neg same]
    · rw [if_neg come]
      by_cases same : p.challenge = c
      · rw [if_pos same]
        exact .inl rfl
      · rw [if_neg same]
        exact .inr ⟨b, rfl, rfl, fun _ _ _ _ => rfl⟩

end Book

namespace Challenges

open World

variable {w w' : World}

/-- A command of the challenges is a command whose failure is reported as one of the challenges. -/
lemma command_eq (words : String) (e : Email) (c : Command) :
    command words e c =
      reported source (fun f => words ++ " for " ++ e.redacted ++ ": " ++ f.text)
        (fun f => .challenge .unavailable (some f.cause)) c := rfl

/-- What is put into the book is a challenge for the book's seconds. -/
lemma challengeSet_book {b : Book} (store : w.challenges = .book b) (e : Email) (c : Challenge) :
    w.ChallengeSet { w with challenges := .book (b.issue w.uptime e c) } e c
      (w.uptime + 1000 * b.seconds) := by
  intro now _ f d
  have found : Keyed.find? f (b.issue w.uptime e c).pending =
      if e = f then some ⟨c, .after w.uptime (.whole b.seconds)⟩ else Keyed.find? f b.pending :=
    Keyed.find?_put ..
  simp only [pendingAt, store, Book.take_eq, found]
  by_cases same : e = f
  · rw [if_pos same, if_pos same]
    rfl
  · rw [if_neg same, if_neg same]

/-- What is put on the server under the key of an address is a challenge for its seconds. -/
lemma challengeSet_keyspace {lifetime : Int} (store : w.challenges = .keyspace lifetime) (e : Email)
    (c : Challenge) (seconds : Int) :
    w.ChallengeSet
      { w with keyspace := w.keyspace.carriedOut w.uptime (.put (key e) c.payload seconds) } e c
      (w.uptime + 1000 * seconds) := by
  intro now _ f d
  simp only [pendingAt, store, Keyspace.find?_put, key_inj]
  by_cases same : e = f
  · rw [if_pos same, if_pos same]
    by_cases live : now < w.uptime + 1000 * seconds
    · rw [if_pos live]
      by_cases equal : c = d
      · rw [equal, beq_self_eq_true]
        exact (decide_eq_true ⟨rfl, live⟩).symm
      · rw [beq_eq_false_iff_ne.2 fun text => equal
          (Challenge.payload_inj.1 (Option.some.inj text))]
        exact (decide_eq_false fun both => equal both.1).symm
    · rw [if_neg live]
      exact (decide_eq_false fun both => live both.2).symm
  · rw [if_neg same, if_neg same]

/-- Issuing a challenge sets it for the lifetime of challenges. -/
lemma issue_inv {e : Email} {c : Challenge} {r : Except Fault Unit} (h : Ends (issue e c) w r w') :
    SameBut [.challenges] w w' ∧
      (r = .ok () ∧ w.ChallengeSet w' e c (w.uptime + 1000 * w.challenges.lifetime) ∨
        (∃ f, r = .error f) ∧ SameBut [] w w' ∧ ¬ w.KeepsChallenges) := by
  have out {α : Prop} : .challenges ∉ [Part.challenges] → α := absurd List.mem_cons_self
  rw [issue, Ends.get_bind] at h
  cases store : w.challenges with
  | book b =>
    simp only [store] at h
    by_cases fits : (Seconds.whole b.seconds).fits = true
    · rw [if_pos fits] at h
      obtain ⟨rfl, rfl⟩ := Ends.set_inv h
      have lifetime : (b.issue w.uptime e c).seconds = w.challenges.lifetime := by
        rw [store]
        rfl
      exact ⟨{ SameBut.refl _ w with lifetime := lifetime, challenges := out },
        .inl ⟨rfl, challengeSet_book store e c⟩⟩
    · rw [if_neg fits] at h
      obtain ⟨rfl, rfl⟩ := Ends.throw_inv h
      refine ⟨.refl _ _, .inr ⟨⟨_, rfl⟩, .refl _ _, fun order => fits ?_⟩⟩
      have holdable := order.holdable
      rw [store] at holdable
      exact holdable
  | keyspace seconds =>
    simp only [store, command_eq] at h
    obtain ⟨_, rfl, rfl⟩ | ⟨g, broken, rfl, rfl⟩ := reported_bind_inv h
    · refine ⟨.of_keyspace rfl (fun _ now t => ?_) out,
        .inl ⟨rfl, challengeSet_keyspace store e c seconds⟩⟩
      rw [Keyspace.find?_put, if_neg (Bans.key_ne t e).symm]
    · refine ⟨.mono (.unanswered ..) (List.nil_subset _), .inr ⟨⟨_, rfl⟩, .unanswered .., ?_⟩⟩
      intro order
      have lasting := order.lasting
      rw [store] at lasting
      rw [Keyspace.fault?_eq_none order.served lasting] at broken
      cases broken

/-- A challenge that is removed from the server is taken. -/
lemma challengeTaken_keyspace {lifetime : Int} (store : w.challenges = .keyspace lifetime)
    {e : Email} {c : Challenge} (there : w.keyspace.find? w.uptime (key e) = some c.payload) :
    w.ChallengeTaken
      { w with keyspace := w.keyspace.carriedOut w.uptime (.removeIf (key e) c.payload) } e := by
  intro now _ f d
  simp only [pendingAt, store, Keyspace.find?_removeIf, key_inj, there, and_true]
  by_cases same : e = f
  · rw [if_pos same, if_pos same]
    rfl
  · rw [if_neg same, if_neg same]

/-- Taking a challenge tells whether it is pending now, and takes it away if it is. -/
lemma take_inv {e : Email} {c : Challenge} {r : Except Fault Bool} (h : Ends (take e c) w r w') :
    (r = .ok true ∧ w.pendingAt w.uptime e c = true ∧ SameBut [.challenges] w w' ∧
        w.ChallengeTaken w' e) ∨
      SameBut [] w w' ∧ (r = .ok false ∧ w.pendingAt w.uptime e c = false ∨
        (∃ f, r = .error f) ∧ w.keyspace.outages ≠ []) := by
  have out {α : Prop} : .challenges ∉ [Part.challenges] → α := absurd List.mem_cons_self
  rw [take, Ends.get_bind] at h
  cases store : w.challenges with
  | book b =>
    simp only [store, Ends.set_bind] at h
    obtain ⟨rfl, rfl⟩ := Ends.pure_inv h
    obtain told | ⟨b', told, seconds, later⟩ := b.take_spec w.uptime e c
    · simp only [told, pendingAt, store]
      have lifetime : (b.consume e).seconds = w.challenges.lifetime := by
        rw [store]
        rfl
      refine .inl ⟨trivial, trivial,
        { SameBut.refl _ w with lifetime := lifetime, challenges := out }, ?_⟩
      intro now le f d
      simp only [pendingAt, store, b.take_consume]
    · simp only [told, pendingAt, store]
      have lifetime : b'.seconds = w.challenges.lifetime := by
        rw [store]
        exact seconds
      refine .inr ⟨{ SameBut.refl _ w with lifetime := lifetime, challenges := ?_ },
        .inl ⟨trivial, trivial⟩⟩
      intro _ now le f d
      simp only [pendingAt, store]
      exact later now le f d
  -- the server answers with its state before the command, which is what the text is compared with
  | keyspace seconds =>
    simp only [store, command_eq] at h
    obtain ⟨_, rfl, rfl⟩ | ⟨g, broken, rfl, rfl⟩ := reported_bind_inv h
    · have served := w.keyspace.outages_carriedOut w.uptime (.removeIf (key e) c.payload)
      have bans (now : Int) (t : String) : (w.keyspace.carriedOut w.uptime
          (.removeIf (key e) c.payload)).find? now (Bans.key t) =
            w.keyspace.find? now (Bans.key t) := by
        rw [Keyspace.find?_removeIf, if_neg fun both => Bans.key_ne t e both.1.symm]
      by_cases there : w.keyspace.find? w.uptime (key e) = some c.payload
      · refine .inl ⟨?_, ?_, .of_keyspace served (fun _ => bans) out,
          challengeTaken_keyspace store there⟩
        · rw [there, beq_self_eq_true]
        · simp only [pendingAt, store, there, beq_self_eq_true]
      · have other := beq_eq_false_iff_ne.2 there
        refine .inr ⟨.of_keyspace served (fun _ => bans) (fun _ now f => ?_), .inl ⟨?_, ?_⟩⟩
        · rw [Keyspace.find?_removeIf, if_neg fun both => there both.2]
        · rw [other]
        · rw [pendingAt, store]
          exact other
    · refine .inr ⟨.unanswered .., .inr ⟨⟨_, rfl⟩, fun served => ?_⟩⟩
      rw [Keyspace.fault?_eq_none served trivial] at broken
      cases broken

end Challenges

end SignIn
