import SignIn.Json.Reader
import SignIn.Journal
import SignIn.Settings.Coerce
import SignIn.Settings.EnvFile
import SignIn.Text.Case

/-!
# Loading settings

Settings come from three sources: what the caller gives, the environment, and a file; the first that
has a value for a field counts. All fields are read before anything is said, so that every bad value
is named; only then come the rules that tie fields together, of which the first that is broken is
told.
-/

namespace SignIn.Settings

/-- A bad value: where it is, and what is wrong with it. -/
structure BadValue where
  place : List String
  wrong : Wrong
  deriving DecidableEq, Repr

/-- A rule that ties fields together. -/
inductive Rule
  | secretRequired
  | secretLength
  | providerToken
  deriving DecidableEq, Repr

def Rule.message : Rule → String
  | secretRequired =>
    "SECRET_KEY is required in production mode. " ++
      "Set SECRET_KEY in your environment or .env file. To run in development mode, set DEBUG=true."
  | secretLength => "SECRET_KEY must be at least 32 characters."
  | providerToken => "POSTMARK_AUTH_TOKEN is required when EMAIL_BACKEND=postmark."

/-- The sources that hold texts. -/
inductive TextSource
  | environment
  | file
  deriving DecidableEq, Repr

def TextSource.name : TextSource → String
  | environment => "EnvSettingsSource"
  | file => "DotEnvSettingsSource"

inductive LoadFault
  | badValues (vs : List BadValue)
  | broken (r : Rule)
  /-- A list in a text source is no JSON. -/
  | badList (field : String) (source : TextSource)
  /-- A list in a text source is nested too deeply. -/
  | tooDeep
  deriving DecidableEq, Repr

/-! ## Fields -/

/-- A value, or all the bad values that were met. -/
structure Checked (α : Type) where
  result : Except (List BadValue) α

instance : Pure Checked := ⟨fun a => ⟨.ok a⟩⟩

instance : Functor Checked := ⟨fun f c => ⟨c.result.map f⟩, fun a c => ⟨c.result.map fun _ => a⟩⟩

instance : Seq Checked where
  seq f a :=
    match f.result, (a ()).result with
    | .ok g, .ok x => ⟨.ok (g x)⟩
    | .ok _, .error es => ⟨.error es⟩
    | .error es, .ok _ => ⟨.error es⟩
    | .error es, .error fs => ⟨.error (es ++ fs)⟩

def listField : String := "cors_allowed_origins"

/-- The values of fields that were given, by name. -/
abbrev Given := Keyed String Json

/-- The value of a field, or the standard one if it is not given. -/
def field {α : Type} (given : Given) (name : String) (standard : α)
    (read : Json → Except Wrong α) : Checked α :=
  match Keyed.find? name given with
  | none => pure standard
  | some v => ⟨(read v).mapError fun w => [⟨[name], w⟩]⟩

/-- The texts of a list, with their places. -/
def texts (name : String) : Nat → List Json → Except (List BadValue) (List String)
  | _, [] => .ok []
  | n, v :: vs =>
    match text v, texts name (n + 1) vs with
    | .ok s, .ok ss => .ok (s :: ss)
    | .ok _, .error es => .error es
    | .error w, .ok _ => .error [⟨[name, toString n], w⟩]
    | .error w, .error es => .error (⟨[name, toString n], w⟩ :: es)

/-- The value of the field that holds a list. -/
def originsField (given : Given) : Checked (List String) :=
  match Keyed.find? listField given with
  | none => pure standard.origins
  | some (.arr vs) => ⟨texts listField 0 vs⟩
  | some _ => ⟨.error [⟨[listField], .listKind⟩]⟩

def fields (given : Given) : Checked Settings :=
  Settings.mk
    <$> field given "debug" standard.debug truth
    <*> field given "secret_key" standard.secretKey text
    <*> field given "token_ttl_seconds" standard.tokenSeconds positiveInteger
    <*> field given "secure_cookies" standard.secureCookies truth
    <*> field given "cookie_samesite" standard.sameSite (choice SameSite.word [.lax, .strict])
    <*> field given "user_store_backend" standard.accounts
      (choice AccountBackend.word [.memory, .sql])
    <*> field given "database_url" standard.databaseUrl text
    <*> field given "banned_token_store_backend" standard.bans
      (choice ExpiringBackend.word [.memory, .redis])
    <*> field given "two_fa_code_store_backend" standard.challenges
      (choice ExpiringBackend.word [.memory, .redis])
    <*> field given "redis_url" standard.serverUrl text
    <*> field given "two_fa_code_ttl_seconds" standard.codeSeconds positiveInteger
    <*> field given "email_backend" standard.mail (choice MailBackend.word [.mock, .postmark])
    <*> field given "postmark_auth_token" standard.providerToken text
    <*> field given "postmark_base_url" standard.providerUrl text
    <*> field given "email_sender" standard.sender text
    <*> field given "email_timeout_seconds" standard.mailTimeout positiveNumber
    <*> originsField given

def fieldNames : List String :=
  ["debug", "secret_key", "token_ttl_seconds", "secure_cookies", "cookie_samesite",
    "user_store_backend", "database_url", "banned_token_store_backend",
    "two_fa_code_store_backend", "redis_url", "two_fa_code_ttl_seconds", "email_backend",
    "postmark_auth_token", "postmark_base_url", "email_sender", "email_timeout_seconds", listField]

/-! ## Rules -/

def secretLength : Nat := 32

def secretMadeUp : Entry :=
  ⟨.warning, "authservice.config",
    "Using auto-generated SECRET_KEY. Sessions will not persist across restarts."⟩

/-- Settings with a secret: without one, a fresh one is made up while debugging. -/
def withSecret (fresh : String) (s : Settings) : Except Rule (Settings × List Entry) :=
  if s.secretKey ≠ "" then .ok (s, [])
  else if s.debug then .ok ({ s with secretKey := fresh }, [secretMadeUp])
  else .error .secretRequired

def obeyRules (fresh : String) (s : Settings) : Except Rule (Settings × List Entry) := do
  let (s, entries) ← withSecret fresh s
  if s.secretKey.length < secretLength then throw .secretLength
  if s.mail = .postmark ∧ s.providerToken = "" then throw .providerToken
  return (s, entries)

/-! ## Sources -/

/-- The value of a field from a text; nothing for the list `null`. -/
def fromText (source : TextSource) (name text : String) : Except LoadFault (Option Json) :=
  if name ≠ listField then .ok (some (.str text))
  else
    match Json.read text.toList with
    | .ok .null => .ok none
    | .ok v => .ok (some v)
    | .error .depth => .error .tooDeep
    | .error _ => .error (.badList name source)

/-- The values of the fields among texts under names in any case. -/
def fromTexts (source : TextSource) (texts : List (String × Option String)) :
    Except LoadFault Given := do
  let lower := Keyed.ofEntries (texts.map fun (n, v) =>
    (String.ofList (Text.lower n.toList), v))
  let given ← fieldNames.filterMapM fun name =>
    match Keyed.find? name lower with
    | some (some text) => do
      return (← fromText source name text).map (name, ·)
    | _ => return none
  return given

/-- What settings are loaded from: the caller, the environment, and the text of a file. -/
structure Sources where
  arguments : Given
  environment : Keyed String String
  file : Option String

/-- The values of the fields from all sources. -/
def Sources.given (s : Sources) : Except LoadFault Given := do
  let environment ← fromTexts .environment (s.environment.map fun (n, v) => (n, some v))
  let file ← match s.file with
    | some text => fromTexts .file (EnvFile.read s.environment text)
    | none => pure []
  return s.arguments ++ environment ++ file

/-- The settings of all sources, and what is logged. -/
def load (fresh : String) (sources : Sources) : Except LoadFault (Settings × List Entry) := do
  let given ← sources.given
  match (fields given).result with
  | .error es => throw (.badValues es)
  | .ok s => (obeyRules fresh s).mapError .broken

end SignIn.Settings
