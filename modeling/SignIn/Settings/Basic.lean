import SignIn.Number.Shortest

/-!
# Settings

What can be configured, with the values that hold if nothing is said.
-/

namespace SignIn

inductive SameSite
  | lax
  | strict
  deriving DecidableEq, Repr

inductive AccountBackend
  | memory
  | sql
  deriving DecidableEq, Repr

/-- Where bans or challenges are kept. -/
inductive ExpiringBackend
  | memory
  | redis
  deriving DecidableEq, Repr

inductive MailBackend
  | mock
  | postmark
  deriving DecidableEq, Repr

def SameSite.word : SameSite → String
  | lax => "lax"
  | strict => "strict"

def AccountBackend.word : AccountBackend → String
  | memory => "memory"
  | sql => "sql"

def ExpiringBackend.word : ExpiringBackend → String
  | memory => "memory"
  | redis => "redis"

def MailBackend.word : MailBackend → String
  | mock => "mock"
  | postmark => "postmark"

structure Settings where
  debug : Bool
  secretKey : String
  tokenSeconds : Int
  secureCookies : Bool
  sameSite : SameSite
  accounts : AccountBackend
  databaseUrl : String
  bans : ExpiringBackend
  challenges : ExpiringBackend
  serverUrl : String
  codeSeconds : Int
  mail : MailBackend
  providerToken : String
  providerUrl : String
  sender : String
  mailTimeout : Binary64
  origins : List String

namespace Settings

/-- The settings that hold if nothing is said. The empty secret stands for none. -/
def standard : Settings where
  debug := false
  secretKey := ""
  tokenSeconds := 600
  secureCookies := false
  sameSite := .lax
  accounts := .memory
  databaseUrl := "sqlite:///authservice.db"
  bans := .memory
  challenges := .memory
  serverUrl := "redis://127.0.0.1:6379/0"
  codeSeconds := 600
  mail := .mock
  providerToken := ""
  providerUrl := "https://api.postmarkapp.com/email"
  sender := "no-reply@localhost"
  mailTimeout := .ofInt 10
  origins := ["http://localhost", "http://127.0.0.1"]

end Settings

end SignIn
