import SignIn.Address.Parts
import SignIn.Fault
import SignIn.Keyed
import SignIn.Number.Decimal
import SignIn.Text.Alphanumeric
import SignIn.Text.Percent

/-!
# Database URLs

The address of a database: its kind and perhaps a connector, perhaps a user, a host and a port, the
name of the database, and further settings. There is a connector for one kind only, whose databases
are files or live in memory; what such a URL says is checked in the order in which it is used, and
the first defect is told.
-/

namespace SignIn.Settings

/-- The address of a database, taken apart. A setting may be given several times. -/
structure DatabaseUrl where
  kind : List Char
  name : Option (List Char)
  password : Option (List Char)
  host : Option (List Char)
  port : Option (List Char)
  database : Option (List Char)
  settings : Keyed String (List String)

namespace DatabaseUrl

/-! ## Reading -/

def isKindChar (c : Char) : Bool :=
  c == '+' || c == '_' || Text.isAlphanumeric c

/-- The part of a text before the last occurrence of a character, and what follows it. -/
def cutLast? (c : Char) (cs : List Char) : Option (List Char × List Char) :=
  if cs.contains c then
    let back := (cs.reverse.takeWhile (· ≠ c)).reverse
    some (cs.take (cs.length - back.length - 1), back)
  else none

/-- The user's name and password, and what follows the `@` behind them. The name has no colon and no
slash; the password ends before the first `@`. -/
def cutUser (cs : List Char) : Option (List Char × Option (List Char)) × List Char :=
  let run := cs.takeWhile fun c => c != ':' && c != '/'
  let rest := cs.drop run.length
  let password := (rest.drop 1).takeWhile (· ≠ '@')
  if rest.head? = some ':' ∧ password.length + 1 < rest.length then
    (some (run, some password), rest.drop (password.length + 2))
  else
    match cutLast? '@' run with
    | some (name, back) => (some (name, none), back ++ rest)
    | none => (none, cs)

/-- A host, perhaps in brackets, and what follows it. -/
def cutHost (cs : List Char) : Option (List Char) × List Char :=
  let bracketed := match cs with
    | '[' :: inner =>
      let run := inner.takeWhile fun c => c != '/' && c != '?'
      match cutLast? ']' run with
      | some (host, back) =>
        if host.isEmpty then none else some (host, back ++ inner.drop run.length)
      | none => none
    | _ => none
  match bracketed with
  | some (host, rest) => (some host, rest)
  | none =>
    let host := cs.takeWhile fun c => c != '/' && c != ':' && c != '?'
    (if host.isEmpty then none else some host, cs.drop host.length)

/-- What follows a sign up to some other character, if the sign is there, and the rest. -/
def cutAfter (sign : Char) (ends : Char → Bool) (cs : List Char) :
    Option (List Char) × List Char :=
  match cs with
  | c :: rest =>
    if c = sign then (some (rest.takeWhile (!ends ·)), rest.dropWhile (!ends ·)) else (none, cs)
  | [] => (none, [])

/-- A name or a value of a query with plus signs and escapes undone. -/
def plain (cs : List Char) : String :=
  String.ofList (Text.Percent.unescape (cs.map fun c => if c = '+' then ' ' else c))

/-- The settings of a query; empty values do not count. -/
def settingsOf (query : List Char) : Keyed String (List String) :=
  (Text.splitOn '&' query).foldl (fun m part =>
    let (name, value) := Address.Parts.cutAt '=' part
    if value.isEmpty then m
    else Keyed.put (plain name) ((Keyed.find? (plain name) m).getD [] ++ [plain value]) m) []

def read? (url : String) : Option DatabaseUrl :=
  let kind := url.toList.takeWhile isKindChar
  match kind, url.toList.drop kind.length with
  | _ :: _, ':' :: '/' :: '/' :: rest =>
    let (user, rest) := cutUser rest
    let (host, rest) := cutHost rest
    let (port, rest) := cutAfter ':' (fun c => c == '/' || c == '?') rest
    let (database, rest) := cutAfter '/' (· == '?') rest
    let (query, _) := cutAfter '?' (· == '\n') rest
    some ⟨kind, user.map (·.1), user.bind (·.2), host, port, database.map Text.Percent.unescape,
      settingsOf (query.getD [])⟩
  | _, _ => none

/-! ## Connectors -/

/-- The kinds of databases and their connectors; the empty connector is a kind's own choice. The
connectors of all kinds but the first are not installed. -/
def connectors : List (String × List String) :=
  [("sqlite", ["", "base", "pysqlite", "aiosqlite", "pysqlcipher"]),
    ("postgresql", ["", "base", "psycopg", "psycopg2", "psycopg2cffi", "psycopg_async", "asyncpg",
      "pg8000"]),
    ("mysql", ["", "base", "aiomysql", "asyncmy", "cymysql", "mariadbconnector", "mysqlconnector",
      "mysqldb", "pymysql", "pyodbc"]),
    ("mariadb", ["", "base", "aiomysql", "asyncmy", "cymysql", "mariadbconnector",
      "mysqlconnector", "mysqldb", "pymysql", "pyodbc"]),
    ("oracle", ["", "base", "cx_oracle", "oracledb", "oracledb_async"]),
    ("mssql", ["", "base", "aioodbc", "pymssql", "pyodbc"])]

def installed : List (String × String) :=
  [("sqlite", ""), ("sqlite", "base"), ("sqlite", "pysqlite")]

def kindDefect? (u : DatabaseUrl) : Option Defect :=
  match Text.splitOn '+' u.kind with
  | kind :: rest =>
    if 1 < rest.length then some .databaseValue
    else
      let kind := String.ofList kind
      let connector := String.ofList (rest.head?.getD [])
      let known := (Keyed.find? kind connectors).getD []
      if !known.contains connector || (connector == "" && !rest.isEmpty) then some .databaseKind
      else if installed.contains (kind, connector) then none
      else some .databaseConnector
  | [] => some .databaseKind

/-! ## Settings of a connection -/

def yesWords : List String := ["true", "yes", "on", "y", "t", "1"]

def noWords : List String := ["false", "no", "off", "n", "f", "0"]

def truthOf : List String → Except Defect Bool
  | [s] =>
    let word := String.ofList (Text.lower (Text.trim Text.isBlank s.toList))
    if yesWords.contains word then .ok true
    else if noWords.contains word then .ok false
    else .error .databaseValue
  | _ => .ok true

def checkNumber : List String → Except Defect Unit
  | [s] => if (Decimal.readFree? s.toList).isSome then .ok () else .error .databaseValue
  | _ => .error .wrongType

def integerOf : List String → Except Defect Int
  | [s] => match Numeral.integer? s.toList with
    | some n => .ok n
    | none => .error .databaseValue
  | _ => .error .wrongType

/-- Checks that an integer has 32 bits. -/
def checkWord (n : Int) : Except Defect Unit :=
  if -(1 <<< 31) ≤ n ∧ n < 1 <<< 31 then .ok () else .error .overflow

/-- The settings that are for the connection and not for the file. -/
def connectionNames : List String :=
  ["uri", "timeout", "isolation_level", "detect_types", "check_same_thread", "cached_statements"]

/-- What the settings of a connection say: whether the database is named by a URL of its own, and
the integers among them. -/
def readSettings (u : DatabaseUrl) : Except Defect (Bool × List Int) := do
  let given := fun name => Keyed.find? name u.settings
  let named ← match given "uri" with
    | some vs => truthOf vs
    | none => pure false
  if let some vs := given "timeout" then checkNumber vs
  let types ← (given "detect_types").mapM integerOf
  if let some vs := given "check_same_thread" then
    let _ ← truthOf vs
  let cached ← (given "cached_statements").mapM integerOf
  return (named, types.toList ++ cached.toList)

/-! ## Files -/

def directories : List String :=
  ["/", "/bin", "/boot", "/dev", "/dev/shm", "/etc", "/home", "/lib", "/media", "/mnt", "/opt",
    "/root", "/run", "/sbin", "/srv", "/tmp", "/usr", "/usr/bin", "/usr/lib", "/usr/local",
    "/usr/share", "/var", "/var/cache", "/var/lib", "/var/log", "/var/tmp"]

/-- The steps of a path without those that lead nowhere or back. -/
def steps (path : List Char) : List (List Char) :=
  let rooted := path.head? == some '/'
  (Text.splitOn '/' path).foldl (fun out step =>
    if step = [] ∨ step = ['.'] then out
    else if step = ['.', '.'] then
      if out.isEmpty || out.getLast? == some ['.', '.'] then
        if rooted then out else out ++ [step]
      else out.dropLast
    else out ++ [step]) []

/-- A directory by its steps from the root. -/
def directoryOf (steps : List (List Char)) : String :=
  String.ofList ('/' :: Text.joinWith '/' steps)

/-- Whether a file can be opened, or made, at a path: the directory must be there, and no directory
may be in its place. Next to the program and above it there is room for files. -/
def canOpen (path : List Char) : Bool :=
  let steps := steps path
  if path.head? = some '/' then
    directories.contains (directoryOf steps.dropLast) && !directories.contains (directoryOf steps)
  else
    let below := steps.dropWhile (· == ['.', '.'])
    below.length == 1

/-- The path in a file's own URL; nothing if its authority is refused. -/
def filePath? (cs : List Char) : Option (List Char) :=
  let path? : Option (List Char) := match cs with
    | '/' :: '/' :: rest =>
      let host := rest.takeWhile (· ≠ '/')
      if host.isEmpty || host == "localhost".toList then some (rest.drop host.length) else none
    | cs => some cs
  path?.map fun path => Text.Percent.unescape (path.takeWhile fun c => c != '?' && c != '#')

/-- Whether the path of a database is none of a file: the database is in memory. -/
def isMemory (path : List Char) : Bool :=
  path.isEmpty || path == ":memory:".toList

/-- What stands in front of the name of a database that is a URL of its own. -/
def fileMark : List Char := "file:".toList

/-- The way in which a database that is named by a URL of its own is opened: an existing file is
read and written, and a file is made if there is none, unless something else is said. -/
def modeOf (settings : Keyed String (List String)) : String :=
  ((Keyed.find? "mode" settings).bind List.head?).getD "rwc"

/-- Whether a database that is named by a URL of its own can be opened with the settings in it. A
file that must be there already is not. -/
def canOpenNamed (path : List Char) (settings : Keyed String (List String)) : Bool :=
  let given := fun name => ((Keyed.find? name settings).bind List.head?)
  let mode := modeOf settings
  let soundCache := ["shared", "private"].contains ((given "cache").getD "private")
  let soundSystem := ((given "vfs").getD "unix").startsWith "unix"
  soundCache && soundSystem &&
    match filePath? path with
    | none => false
    | some path =>
      if mode = "memory" then true
      else if mode = "rwc" then isMemory path || canOpen path
      else mode = "rw" && isMemory path

def fileDefect? (u : DatabaseUrl) (named : Bool) : Option Defect :=
  let fileSettings := u.settings.filter fun (n, _) => !connectionNames.contains n
  let unopened := fun (opens : Bool) => if opens then none else some Defect.databaseFile
  match named, u.database with
  | true, none => some .wrongType
  | true, some path =>
    if fileSettings.any fun (_, vs) => vs.length != 1 then some .wrongType
    else if path.contains (Char.ofNat 0) then some .databaseValue
    else if fileMark.isPrefixOf path then
      unopened (canOpenNamed (path.drop fileMark.length) fileSettings)
    else unopened (isMemory path || canOpen path)
  | false, path =>
    let path := path.getD []
    if isMemory path then none
    else if path.contains (Char.ofNat 0) then some .databaseValue
    else unopened (canOpen path)

/-! ## The whole address -/

/-- Whether an address names what a file has no use for. -/
def namesPlace (u : DatabaseUrl) : Bool :=
  let given := fun (part : Option (List Char)) => !(part.getD []).isEmpty
  given u.name || given u.password || given u.host ||
    (u.port.bind Numeral.integer?).any (· ≠ 0)

def portDefect? (u : DatabaseUrl) : Option Defect :=
  match u.port with
  | none => none
  | some [] => some .wrongType
  | some port => if (Numeral.integer? port).isSome then none else some .databaseValue

/-- Why the database of an address cannot be opened. -/
def openDefect? (u : DatabaseUrl) : Option Defect :=
  if u.namesPlace then some .databaseAddress
  else
    match u.readSettings with
    | .error d => some d
    | .ok (named, words) =>
      match words.mapM checkWord, u.fileDefect? named with
      | .ok _, defect => defect
      | .error _, some .wrongType => some .wrongType
      | .error d, _ => some d

/-- Why there is no database at an address; none if there is one. -/
def defect? (url : String) : Option Defect :=
  match read? url with
  | none => some .databaseAddress
  | some u =>
    match u.portDefect? with
    | some d => some d
    | none =>
      if (Keyed.find? "plugin" u.settings).isSome then some .databaseKind
      else
        match u.kindDefect? with
        | some d => some d
        | none => u.openDefect?

/-- Whether the database of an address that can be opened is a file. -/
def namesFile (u : DatabaseUrl) (named : Bool) : Bool :=
  let path := u.database.getD []
  if named && fileMark.isPrefixOf path then
    modeOf u.settings != "memory" &&
      !((filePath? (path.drop fileMark.length)).map isMemory).getD false
  else !isMemory path

/-- Whether there is a file at an address, so that the database outlives its connections. -/
def isFile (url : String) : Bool :=
  match read? url with
  | none => false
  | some u =>
    match u.readSettings with
    | .ok (named, _) => u.namesFile named
    | .error _ => false

end DatabaseUrl

end SignIn.Settings
