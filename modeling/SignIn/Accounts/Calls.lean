import SignIn.World

/-!
# Account calls

Looking up, adding and checking a user, in memory or in the database. What the database reports is
logged and never told; a row that is no user counts as the store being unavailable. A torn password
is no report of the database: it ends adding to a table, and every comparison, with a fault that is
none of the account store's.
-/

namespace SignIn.Accounts

/-- The part of the service that writes these log lines. -/
def source : String := "authservice.stores.sql"

def lookUp (e : Email) : Call User := do
  match (← get).accounts with
  | .directory d =>
    match d.find? e with
    | some u => return u
    | none => throw (.account .unknown)
  | .table t =>
    match t.find? e.text with
    | .error f =>
      World.log .error source
        ("User lookup failed for " ++ e.redacted ++ ": " ++ TableFault.lookupText e.text)
      throw (.account .unavailable (some f.cause))
    | .ok none => throw (.account .unknown)
    | .ok (some r) =>
      match r.user? with
      | some u => return u
      | none =>
        World.log .error source ("Corrupt user row for " ++ e.redacted)
        throw (.account .unavailable (some .flaw))

/-- Adds a user whose address is not taken. -/
def add (u : User) : Call Unit := do
  match (← get).accounts with
  | .directory d =>
    match d.add? u with
    | some d => modify fun w => { w with accounts := .directory d }
    | none => throw (.account .taken)
  | .table t =>
    match t.insert (.ofUser u) with
    | .ok t => modify fun w => { w with accounts := .table t }
    | .error .unbound => throw .tornText
    | .error .duplicate => throw (.account .taken (some .duplicateRow))
    | .error .missing =>
      World.log .error source
        ("User insert failed for " ++ u.email.redacted ++ ": " ++
          TableFault.insertText (.ofUser u))
      throw (.account .unavailable (some .missingTable))

/-- What comes of a password for a user. -/
def verdict (u : User) (p : Password) : Except Fault Unit :=
  match u.password.agrees? p with
  | some true => .ok ()
  | some false => .error (.account .mismatch)
  | none => .error .tornText

def check (e : Email) (p : Password) : Call Unit := do
  verdict (← lookUp e) p

def close : Accounts → Accounts
  | .directory d => .directory d
  | .table t => .table t.close

end SignIn.Accounts
