import SignIn.Mail.Message
import SignIn.Mail.Url
import SignIn.Number.Deadline

/-!
# Mail providers

A provider takes a message by one HTTP request. A request is sent only if its address and its token
can be put into one; then the provider's reply decides. Replies are given beforehand, one for each
request, and a provider that has none left accepts.
-/

namespace SignIn

inductive Reply
  /-- A status, its reason, and where the provider says to look instead. -/
  | answer (status : Int) (reason : String) (location : Option String)
  /-- No answer: the name and the text of what went wrong on the way. -/
  | lost (name message : String)
  deriving DecidableEq, Repr

structure MailRequest where
  url : String
  token : String
  body : Json
  timeout : Seconds

/-- A provider: where it is, how it is spoken to, its replies to come, the requests it was sent, and
whether the connection was closed. -/
structure Provider where
  address : String
  sender : String
  token : String
  timeout : Seconds
  replies : List Reply
  sent : List MailRequest
  closed : Bool

inductive DeliveryFault
  /-- The request failed, with the reason and the text of the failure. -/
  | failed (reason : RequestFault) (message : String)
  /-- The failure is none of a request. -/
  | escaped (d : Defect)
  deriving DecidableEq, Repr

namespace Provider

/-- Whether a text may be a header's value: it does not begin with a blank and has one line. -/
def isHeaderValue (s : String) : Bool :=
  match s.toList with
  | [] => true
  | c :: rest => !Text.isBlank c && rest.all fun c => c != '\r' && c != '\n'

/-- The statuses that send a request elsewhere. -/
def redirects : List Int := [301, 302, 303, 307, 308]

/-- What is wrong with a place to look instead, or that the provider named one at all. -/
def redirectFault (location : String) : DeliveryFault :=
  if location.toList.any (0x100 ≤ ·.toNat) then .escaped .wideCharacter
  else
    let octets := location.toList.map fun c => UInt8.ofNat c.toNat
    if (Text.Utf8.decode? octets).isNone then .escaped .malformedText
    else .failed .redirected "Exceeded 0 redirects."

/-- What a reply to a request at the given address means. -/
def judge (url : String) : Reply → Except DeliveryFault Unit
  | .lost name message => .error (.failed (.lost name) message)
  | .answer status reason location =>
    let place := location.getD ""
    if status ∈ redirects ∧ place ≠ "" then .error (redirectFault place)
    else
      let report := fun (side : String) =>
        .error (.failed .badStatus
          (toString status ++ " " ++ side ++ " Error: " ++ reason ++ " for url: " ++ url))
      if 400 ≤ status ∧ status < 500 then report "Client"
      else if 500 ≤ status ∧ status < 600 then report "Server"
      else .ok ()

/-- Delivers a message, and the provider after it. -/
def deliver (p : Provider) (m : Message) : Except DeliveryFault Unit × Provider :=
  match Mail.Url.prepare p.address with
  | .error f => (.error (.failed f.reason f.message), p)
  | .ok url =>
    if !isHeaderValue p.token then
      (.error (.failed .badHeader
        ("Invalid leading whitespace, reserved character(s), or return character(s) in header " ++
          "value: " ++ Text.quoted p.token)), p)
    else if let some d := Mail.Url.defect? url then (.error (.escaped d), p)
    else if !Mail.Url.isHttp url then
      (.error (.failed .otherScheme
        ("No connection adapters were found for " ++ Text.quoted url)), p)
    else
      let request : MailRequest := ⟨url, p.token, m.body p.sender, p.timeout⟩
      let p := { p with sent := p.sent ++ [request] }
      match p.replies with
      | [] => (.ok (), p)
      | r :: replies => (judge url r, { p with replies := replies })

end Provider

end SignIn
