import SignIn.Http.App
import SignIn.Settings.DatabaseUrl
import SignIn.Settings.Load
import SignIn.Settings.ServerUrl

/-!
# Wiring

The service as its settings describe it: which store keeps what, who takes the mail, and what the
cookies look like.
-/

namespace SignIn

namespace Settings

def accountStore (s : Settings) : Except Fault Accounts :=
  match s.accounts with
  | .memory => .ok (.directory .empty)
  | .sql =>
    match DatabaseUrl.defect? s.databaseUrl with
    | some d => .error (.foreign d)
    | none => .ok (.table (.create (DatabaseUrl.isFile s.databaseUrl)))

def banStore (s : Settings) : Bans :=
  match s.bans with
  | .memory => .register .empty
  | .redis => .keyspace

def challengeStore (s : Settings) : Challenges :=
  match s.challenges with
  | .memory => .book (.empty s.codeSeconds)
  | .redis => .keyspace s.codeSeconds

/-- The provider of mail, with its replies to come. -/
def provider (s : Settings) (replies : List Reply) : Provider :=
  ⟨s.providerUrl, s.sender, s.providerToken, .real s.mailTimeout, replies, [], false⟩

def mailer (s : Settings) (replies : List Reply) : Mailer :=
  match s.mail with
  | .mock => .dummy
  | .postmark => .provider (s.provider replies)

def authority (s : Settings) : Authority := ⟨s.secretKey, s.tokenSeconds⟩

def cookiePolicy (s : Settings) : Http.Cookie.Policy :=
  ⟨s.tokenSeconds, s.sameSite.word, s.secureCookies⟩

/-- What the service needs to answer requests. Origins are settled before the service starts. -/
def site (s : Settings) (origins : List String) : Http.Site :=
  ⟨s.authority, s.cookiePolicy, origins⟩

/-- Whether any store is on the server. -/
def usesServer (s : Settings) : Bool :=
  s.bans == .redis || s.challenges == .redis

/-- What it means that there is no connection to the server. -/
def serverDefect : ServerUrl.Fault → Defect
  | .malformed => .serverAddress
  | .reservedName => .wrongType
  | .protocolWithoutCache => .protocolWithoutCache
  | .badSettings => .badServerSettings

/-- The connection to the server, if any store is on it. -/
def serverConnection (s : Settings) : Except Fault (Option (Keyed String Json)) :=
  if s.usesServer then
    match ServerUrl.connection s.serverUrl with
    | .ok c => .ok (some c)
    | .error f => .error (.foreign (serverDefect f))
  else .ok none

def storesReady (s : Settings) : Entry :=
  ⟨.info, "authservice.stores",
    "Stores initialized (users=" ++ s.accounts.word ++ ", banned_tokens=" ++ s.bans.word ++
      ", two_fa_codes=" ++ s.challenges.word ++ ")"⟩

end Settings

end SignIn
