import SignIn.Text.Quoted
import SignIn.Text.Utf16

/-!
# Texts as they are sent

An escape in a JSON document can spell half of a surrogate pair alone, so what a caller sends as a
text need not be one: it may be code points of which some are no characters. Such a text is torn. It
has no octets, so it can neither be compared octet by octet nor be bound to a statement.

Only passwords are kept as they are sent. Addresses, ids, codes and tokens are texts: where one of
them is sent torn the library goes on with its characters, the others replaced, and says nothing
about the service that keeps them.
-/

namespace SignIn

/-- Code points that are no text: at least one of them is no character. -/
structure TornText where
  points : List Nat
  torn : points.all Text.Utf8.isScalar = false
  deriving DecidableEq, Repr

/-- A text as a caller sends it. -/
inductive SentText
  | whole (s : String)
  | torn (t : TornText)
  deriving DecidableEq, Repr

namespace SentText

instance : Coe String SentText := ⟨whole⟩

/-- What a list of code points is as a text. -/
def ofPoints (ns : List Nat) : SentText :=
  match h : ns.all Text.Utf8.isScalar with
  | true => whole (String.ofList (ns.map Char.ofNat))
  | false => torn ⟨ns, h⟩

/-- How many code points a text has. -/
def length : SentText → Nat
  | whole s => s.length
  | torn t => t.points.length

def isWhole : SentText → Bool
  | whole _ => true
  | torn _ => false

/-- The text with what is no character replaced. -/
def characters : SentText → String
  | whole s => s
  | torn t => Text.Utf16.replaced t.points

/-- The text in quotes. What is no character is escaped like an unprintable one. -/
def quotedChars : SentText → List Char
  | whole s => Text.quotedChars s.toList
  | torn t =>
    let quote := Text.delimiter (t.points.map Text.Utf16.charOf)
    quote :: t.points.flatMap (fun n =>
      if Text.Utf8.isScalar n then Text.quotedChar quote (Char.ofNat n) else Text.escapeCode n) ++
        [quote]

end SentText

end SignIn
