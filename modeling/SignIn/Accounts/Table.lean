import SignIn.Credential.User
import SignIn.Fault

/-!
# Tables

The account store in a database: one table whose rows are texts, keyed by the address. A table in a
file outlives the connection, a table in memory is lost with it. Rows may have been written by
others, so a row need not be a user; a row with a torn text cannot be written.
-/

namespace SignIn

structure Row where
  email : String
  password : SentText
  secondFactor : Bool
  deriving DecidableEq, Repr

namespace Row

def ofUser (u : User) : Row :=
  ⟨u.email.text, u.password.text, u.secondFactor⟩

/-- The user of a row, if its texts are an address and a password. -/
def user? (r : Row) : Option User := do
  let email ← Email.ofText? r.email
  let password ← Password.ofText? r.password
  return ⟨email, password, r.secondFactor⟩

/-- A row that was filed of a user reads back as that user. -/
@[simp] theorem user?_ofUser (u : User) : (ofUser u).user? = some u := by
  simp [ofUser, user?]

end Row

inductive TableFault
  | missing
  /-- A text of the statement is torn. -/
  | unbound
  | duplicate
  deriving DecidableEq, Repr

def TableFault.cause : TableFault → Cause
  | missing => .missingTable
  | unbound => .tornText
  | duplicate => .duplicateRow

/-- The database: its rows, unless the table is missing, and whether it is a file. -/
structure Table where
  rows : Option (List Row)
  onFile : Bool
  deriving DecidableEq

namespace Table

def create (onFile : Bool) : Table := ⟨some [], onFile⟩

def find? (t : Table) (email : String) : Except TableFault (Option Row) :=
  match t.rows with
  | none => .error .missing
  | some rows => .ok (rows.find? fun r => r.email == email)

/-- The table with one more row, unless the address has one. The texts of the row are bound before
the rows are looked at, and after the table. -/
def insert (t : Table) (r : Row) : Except TableFault Table :=
  match t.rows with
  | none => .error .missing
  | some rows =>
    if !r.password.isWhole then .error .unbound
    else if rows.any fun q => q.email == r.email then .error .duplicate
    else .ok { t with rows := some (rows ++ [r]) }

/-- The database without its table, which must be there. -/
def dropRows (t : Table) : Except TableFault Table :=
  match t.rows with
  | none => .error .missing
  | some _ => .ok { t with rows := none }

def close (t : Table) : Table :=
  if t.onFile then t else { t with rows := none }

/-- The database opened anew: a missing table is created. -/
def openAgain (t : Table) : Table :=
  { t with rows := some (t.close.rows.getD []) }

def journalMode (t : Table) : String :=
  if t.onFile then "wal" else "memory"

end Table

/-! ## The text of a failed statement -/

inductive Parameter
  | text (t : SentText)
  | flag (b : Bool)

namespace Parameter

/-- How long a parameter may be before its middle is cut. -/
def lengthLimit : Nat := 300

/-- A text whose middle is cut if it is long. -/
def shortened (cs : List Char) : List Char :=
  if cs.length ≤ lengthLimit then cs
  else
    let half := lengthLimit / 2
    cs.take half ++
      (" ... (" ++ toString (cs.length - lengthLimit) ++ " characters truncated) ... ").toList ++
      cs.drop (cs.length - half)

/-- A parameter in the text of a failed statement. -/
def display : Parameter → String
  | text t => String.ofList (shortened t.quotedChars)
  | flag b => if b then "1" else "0"

def displayAll : List Parameter → String
  | [p] => "(" ++ p.display ++ ",)"
  | ps => "(" ++ ", ".intercalate (ps.map display) ++ ")"

end Parameter

namespace TableFault

/-- What the database says about a missing table. -/
def missingText (statement : String) (ps : List Parameter) : String :=
  "(sqlite3.OperationalError) no such table: users\n[SQL: " ++ statement ++ "]\n[parameters: " ++
    Parameter.displayAll ps ++ "]\n(Background on this error at: https://sqlalche.me/e/21/e3q8)"

/-- What the database says about a failed look-up. -/
def lookupText (email : String) : String :=
  missingText
    "SELECT users.email, users.password, users.requires_2fa \nFROM users \nWHERE users.email = ?"
    [.text email]

/-- What the database says about a failed insertion. -/
def insertText (r : Row) : String :=
  missingText "INSERT INTO users (email, password, requires_2fa) VALUES (?, ?, ?)"
    [.text r.email, .text r.password, .flag r.secondFactor]

end TableFault

end SignIn
