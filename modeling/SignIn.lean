import SignIn.Accounts.Calls
import SignIn.Accounts.Directory
import SignIn.Accounts.Table
import SignIn.Address.Authority
import SignIn.Address.Composition
import SignIn.Address.Ip
import SignIn.Address.Label
import SignIn.Address.LabelTable
import SignIn.Address.Parts
import SignIn.Address.Punycode
import SignIn.Bans.Calls
import SignIn.Bans.Register
import SignIn.Bytes.Base64
import SignIn.Challenges.Book
import SignIn.Challenges.Calls
import SignIn.Challenges.Payload
import SignIn.CommandLine
import SignIn.Credential.AttemptId
import SignIn.Credential.Email
import SignIn.Credential.Flaw
import SignIn.Credential.OneTimeCode
import SignIn.Credential.Password
import SignIn.Credential.User
import SignIn.Digest.Hmac
import SignIn.Digest.Sha256
import SignIn.Fault
import SignIn.Http.App
import SignIn.Http.Calendar
import SignIn.Http.Cookie
import SignIn.Http.Form
import SignIn.Http.Message
import SignIn.Http.Origins
import SignIn.Journal
import SignIn.Json.Basic
import SignIn.Json.Coerce
import SignIn.Json.Printer
import SignIn.Json.Reader
import SignIn.Keyed
import SignIn.Keyspace
import SignIn.Lock
import SignIn.Mail.Calls
import SignIn.Mail.Host
import SignIn.Mail.Message
import SignIn.Mail.Provider
import SignIn.Mail.Url
import SignIn.Main
import SignIn.Number.Binary64
import SignIn.Number.Deadline
import SignIn.Number.Decimal
import SignIn.Number.Numeral
import SignIn.Number.Shortest
import SignIn.Refusal
import SignIn.Service
import SignIn.Session
import SignIn.Settings.Basic
import SignIn.Settings.Coerce
import SignIn.Settings.DatabaseUrl
import SignIn.Settings.EnvFile
import SignIn.Settings.Load
import SignIn.Settings.ServerUrl
import SignIn.Text.Alphanumeric
import SignIn.Text.Blank
import SignIn.Text.Case
import SignIn.Text.CodeSet
import SignIn.Text.Digit
import SignIn.Text.Encoding
import SignIn.Text.Hex
import SignIn.Text.Percent
import SignIn.Text.Printable
import SignIn.Text.Quoted
import SignIn.Text.Sent
import SignIn.Text.Split
import SignIn.Text.Utf16
import SignIn.Text.Utf8
import SignIn.Token.Claims
import SignIn.Token.Envelope
import SignIn.Token.Key
import SignIn.Wiring
import SignIn.World
import SignIn.Proofs.JsonText
import SignIn.Proofs.Clocks
import SignIn.Proofs.Minting
import SignIn.Proofs.Calls
import SignIn.Proofs.Lifetime
import SignIn.Proofs.Payloads
import SignIn.Proofs.Views
import SignIn.Proofs.Stores
import SignIn.Proofs.Seals
import SignIn.Proofs.Requests
import SignIn.Proofs.Run
import SignIn.Proofs.Containment
import SignIn.Proofs.Escapes
import SignIn.Proofs.Exchanges
import SignIn.Proofs.Revocation
import SignIn.Proofs.Origin
import SignIn.Proofs.Admission
import SignIn.Proofs.Backends
import SignIn.Proofs.Stages
import SignIn.Proofs.Interleaving
import SignIn.Proofs.Redemption
import SignIn.Proofs.Registration
import SignIn.Proofs.Failures
import SignIn.Proofs.Spellings
import SignIn.Proofs.Mirror
import SignIn.Proofs.Respect
import SignIn.Proofs.Places
import SignIn.Proofs.Locality
import SignIn.Proofs.Independence
import SignIn.Proofs.Commuting
import SignIn.Proofs.Rejections
import SignIn.Proofs.Renaming
import SignIn.Proofs.Logs
import SignIn.Proofs.Turns
import SignIn.Proofs.Transport
import SignIn.Proofs.BanHistory
import SignIn.Proofs.ChallengeHistory
import SignIn.Proofs.Cookies
import SignIn.Proofs.Locking
import SignIn.Proofs.Expiry
import SignIn.Proofs.Persistence
import SignIn.Proofs.Provisioning
import SignIn.Proofs.Canonical
import SignIn.Proofs.JsonGrammar
import SignIn.Proofs.StoredChallenges
import SignIn.Proofs.Banning
