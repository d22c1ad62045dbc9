import SignIn.Credential.Email
import SignIn.Json.Basic

/-!
# Messages

What is sent by mail, and the body that a mail provider is sent for it.
-/

namespace SignIn

structure Message where
  recipient : Email
  subject : String
  content : String
  deriving DecidableEq

namespace Message

def markupChar : Char → List Char
  | '&' => "&amp;".toList
  | '<' => "&lt;".toList
  | '>' => "&gt;".toList
  | '"' => "&quot;".toList
  | '\'' => "&#x27;".toList
  | c => [c]

/-- A text as markup that shows it. -/
def markup (s : String) : String :=
  String.ofList (s.toList.flatMap markupChar)

/-- The body that a provider is sent. -/
def body (sender : String) (m : Message) : Json :=
  .obj [
    ("From", .str sender),
    ("To", .str m.recipient.text),
    ("Subject", .str m.subject),
    ("HtmlBody", .str (markup m.content)),
    ("TextBody", .str m.content),
    ("MessageStream", .str "outbound")]

end Message

end SignIn
