import SignIn.Address.Parts
import SignIn.Json.Basic
import SignIn.Keyed
import SignIn.Number.Decimal
import SignIn.Text.Percent

/-!
# Server URLs

The address of a key-value server: a scheme, perhaps a user and a password, a host and a port, the
number of a database as the path, and further settings as the query, which count more than those
that the service gives itself.
-/

namespace SignIn.Settings.ServerUrl

/-- Why there is no connection to a server. -/
inductive Fault
  /-- The URL is none of a server, or a setting in it has no readable value. -/
  | malformed
  /-- A setting has the name that the connection uses for itself. -/
  | reservedName
  /-- A cache is asked for that the protocol does not know. -/
  | protocolWithoutCache
  /-- What should be settings of a cache or of notices is a text. -/
  | badSettings
  deriving DecidableEq, Repr

def schemes : List String := ["redis://", "rediss://", "unix://"]

/-! ## Settings in the query -/

def integerNames : List String := ["db", "max_connections", "health_check_interval"]

def numberNames : List String := ["socket_timeout", "socket_connect_timeout", "timeout"]

def flagNames : List String := ["ssl_include_verify_flags", "ssl_exclude_verify_flags"]

def flags : List String :=
  ["VERIFY_DEFAULT", "VERIFY_CRL_CHECK_LEAF", "VERIFY_CRL_CHECK_CHAIN", "VERIFY_X509_STRICT",
    "VERIFY_ALLOW_PROXY_CERTS", "VERIFY_X509_TRUSTED_FIRST", "VERIFY_X509_PARTIAL_CHAIN"]

def transportVersions : List String :=
  ["MINIMUM_SUPPORTED", "SSLv3", "TLSv1", "TLSv1_1", "TLSv1_2", "TLSv1_3", "MAXIMUM_SUPPORTED"]

/-- Whether a text is a list of flags with commas between them, perhaps in brackets. -/
def areFlags (value : List Char) : Bool :=
  (Text.splitOn ',' (value.filter fun c => c != '[' && c != ']')).all fun part =>
    flags.contains (String.ofList (Text.trim Text.isBlank part))

/-- How the value of a setting in the query is read. -/
def readQueryValue (name : String) (value : List Char) : Option Json :=
  let text := Json.str (String.ofList value)
  if name ∈ integerNames then (Numeral.integer? value).map Json.int
  else if name ∈ numberNames then (Decimal.readFree? value).map Json.real
  else if name ∈ flagNames then if areFlags value then some text else none
  else if name = "ssl_min_version" then
    if transportVersions.contains (String.ofList value) then some text else none
  else some text

/-- A name or a value of a query with plus signs and escapes undone. -/
def plain (cs : List Char) : List Char :=
  Text.Percent.unescape (cs.map fun c => if c = '+' then ' ' else c)

/-- The settings of a query; the first value of a name counts, and empty values do not. -/
def querySettings (query : List Char) : Option (Keyed String Json) :=
  let pairs := (Text.splitOn '&' query).filterMap fun part =>
    let (name, value) := Address.Parts.cutAt '=' part
    if value.isEmpty then none else some (String.ofList (plain name), plain value)
  let firsts := pairs.foldl (fun m (n, v) =>
    if (Keyed.find? n m).isSome then m else Keyed.put n v m) ([] : Keyed String (List Char))
  firsts.mapM fun (n, v) => (readQueryValue n v).map (n, ·)

/-! ## The connection -/

/-- A setting, if there is a value for it. -/
def setting (name : String) (value : Option Json) : List (String × Json) :=
  (value.map fun v => (name, v)).toList

/-- A setting whose value is a text with escapes, unless it is empty. -/
def textSetting (name : String) (value : List Char) : List (String × Json) :=
  if value.isEmpty then [] else [(name, .str (String.ofList (Text.Percent.unescape value)))]

/-- The settings that a URL says; none if it is no URL of a server. -/
def read (url : String) : Option (Keyed String Json) := do
  let scheme ← schemes.find? fun s => s.toList.isPrefixOf url.toList
  let p ← Address.Parts.read? url.toList
  let fromQuery ← querySettings p.query
  let (name, password) := (Address.Authority.user? p.authority).getD ([], none)
  let said := fromQuery ++ textSetting "username" name ++
    textSetting "password" (password.getD [])
  if scheme = "unix://" then return Keyed.ofEntries said
  let port ← Address.Authority.port? p.authority
  let db := if p.path.isEmpty || (Keyed.find? "db" fromQuery).isSome then none
    else (Numeral.integer? ((Text.Percent.unescape p.path).filter (· ≠ '/'))).map Json.int
  return Keyed.ofEntries (said ++ textSetting "host" (Address.Authority.host p.authority) ++
    setting "port" (port.bind fun n => if n = 0 then none else some (Json.int n)) ++
    setting "db" db)

/-- How long the server may take, in seconds. -/
def timeout : Binary64 := .ofInt 5

/-- What the service says itself about its connection. -/
def own : Keyed String Json :=
  [("decode_responses", .bool true), ("socket_timeout", .real timeout),
    ("socket_connect_timeout", .real timeout)]

/-- Whether the connection speaks the protocol that knows caches, as it does if nothing is said. -/
def knowsCaches (settings : Keyed String Json) : Bool :=
  match Keyed.find? "protocol" settings with
  | some (.str s) => Numeral.integer? s.toList == some 3
  | _ => true

/-- What is wrong with the settings of a connection, if anything is. -/
def fault? (settings : Keyed String Json) : Option Fault :=
  let given := fun name => (Keyed.find? name settings).isSome
  let negative : Bool := match Keyed.find? "max_connections" settings with
    | some (.int n) => n < 0
    | _ => false
  if given "self" then some .reservedName
  else if negative then some .malformed
  else if given "cache" || given "cache_config" then
    some (if !knowsCaches settings then .protocolWithoutCache
      else if given "cache" then .malformed
      else .badSettings)
  else if given "maint_notifications_config" then some .badSettings
  else none

def connection (url : String) : Except Fault (Keyed String Json) :=
  match read url with
  | none => .error .malformed
  | some said =>
    let settings := Keyed.ofEntries (own ++ said)
    match fault? settings with
    | some f => .error f
    | none => .ok settings

end SignIn.Settings.ServerUrl
