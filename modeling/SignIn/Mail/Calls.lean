import SignIn.World

/-!
# Mail calls

Sending a message. In log lines the recipient is redacted and the content never appears.
-/

namespace SignIn.Mailer

/-- The part of the service that writes these log lines. -/
def source : String := "authservice.email"

def send (m : Message) : Call Unit := do
  let w ← get
  let whom := m.recipient.redacted
  match w.mailer with
  | .dummy =>
    World.log .debug source
      ("Mock email to " ++ whom ++ " with subject " ++ Text.quoted m.subject ++ " (not sent)")
  | .recorder sent closes => set { w with mailer := .recorder (sent ++ [m]) closes }
  | .provider p =>
    let (outcome, p) := p.deliver m
    set { w with mailer := .provider p }
    match outcome with
    | .ok () =>
      World.log .info source
        ("Email sent to " ++ whom ++ " (subject " ++ Text.quoted m.subject ++ ")")
    | .error (.failed reason message) =>
      World.log .warning source ("Postmark send to " ++ whom ++ " failed: " ++ message)
      throw ⟨.mail, some message, some (.request reason)⟩
    | .error (.escaped d) => throw (.foreign d)

/-- The mailer after its connection is closed. -/
def close : Mailer → Mailer
  | .dummy => .dummy
  | .recorder sent closes => .recorder sent (closes + 1)
  | .provider p => .provider { p with closed := true }

end SignIn.Mailer
