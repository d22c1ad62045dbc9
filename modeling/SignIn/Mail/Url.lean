import SignIn.Address.Parts
import SignIn.Mail.Host
import SignIn.Text.Alphanumeric

/-!
# Provider addresses

The URL of a mail provider as it is configured, and as it is sent: scheme and host in lower case,
dot segments removed, characters that may not stand in a URL percent-encoded, and escapes of
unreserved characters undone. An address that does not begin like an HTTP one is left alone.
-/

namespace SignIn.Mail.Url

inductive Fault
  | noScheme (url : String)
  | noHost (url : String)
  | badLabel
  | badHost (url : String) (f : Host.Fault)
  deriving DecidableEq, Repr

def Fault.reason : Fault → RequestFault
  | noScheme _ => .noScheme
  | noHost _ | badLabel | badHost .. => .badAddress

/-- What is said about a host in a URL that cannot be used. -/
def hostMessage (url : String) : Host.Fault → String
  | .badChar place c =>
    "Host " ++ Text.quoted (String.ofList place) ++ " contains invalid character " ++
      Text.quoted (String.singleton c)
  | .badEscape place escape =>
    "Host " ++ Text.quoted (String.ofList place) ++
      " contains invalid percent-encoded control character " ++
      Text.quoted (String.ofList escape)
  | .malformed place =>
    Text.quoted (String.ofList place) ++ " is not a valid host or port"
  | .largePort => url
  | .badLabel label => "Name '" ++ String.ofList label ++ "' is not a valid IDNA label"

def Fault.message : Fault → String
  | noScheme url =>
    "Invalid URL " ++ Text.quoted url ++ ": No scheme supplied. " ++
      "Perhaps you meant https://" ++ url ++ "?"
  | noHost url => "Invalid URL " ++ Text.quoted url ++ ": No host supplied"
  | badLabel => "URL has an invalid label."
  | badHost url f => "Failed to parse: " ++ hostMessage url f

/-- A delimiter that may stand inside a component. -/
def isSubDelimiter (c : Char) : Bool :=
  "!$&'()*+,;=".toList.contains c

/-- A character that may stand in the user part. -/
def isUserChar (c : Char) : Bool :=
  Text.Percent.isUnreserved c || isSubDelimiter c || c == ':'

/-- A character that may stand in a path. -/
def isPathChar (c : Char) : Bool :=
  isUserChar c || c == '@' || c == '/'

/-- A character that may stand in a query or a fragment. -/
def isQueryChar (c : Char) : Bool :=
  isPathChar c || c == '?'

/-! ## Percent-encoding -/

def wellEscaped : List Char → Bool
  | '%' :: a :: b :: rest => Host.isHex a && Host.isHex b && wellEscaped rest
  | '%' :: _ => false
  | _ :: rest => wellEscaped rest
  | [] => true

/-- A component with every character outside its set escaped. Percent signs stay if all of them
begin an escape. -/
def encodeComponent (allowed : Char → Bool) (cs : List Char) : List Char :=
  let cs := Host.upperEscapes cs
  let keepPercent := wellEscaped cs
  cs.flatMap fun c =>
    if (keepPercent && c == '%') || (c.toNat < 0x80 && allowed c) then [c]
    else Text.Percent.escapeChar c

/-- The value of a hexadecimal digit, which may be a decimal digit of any script. -/
def digitValue? (c : Char) : Option Nat :=
  (Text.decimal? c).or (Text.hexValue? c)

/-- Undoes the escapes of unreserved characters; none if letters or digits after a percent sign are
no hexadecimal number. -/
def unescapeUnreserved? : List Char → Option (List Char)
  | '%' :: a :: b :: rest =>
    if Text.isAlphanumeric a && Text.isAlphanumeric b then
      match digitValue? a, digitValue? b with
      | some m, some n =>
        let c := Char.ofNat (16 * m + n)
        if Text.Percent.isUnreserved c then (unescapeUnreserved? rest).map (c :: ·)
        else (unescapeUnreserved? rest).map fun r => '%' :: a :: b :: r
      | _, _ => none
    else (unescapeUnreserved? (a :: b :: rest)).map ('%' :: ·)
  | c :: rest => (unescapeUnreserved? rest).map (c :: ·)
  | [] => some []

/-- A whole URL with every character that may not stand in it escaped. -/
def requote (cs : List Char) : List Char :=
  match unescapeUnreserved? cs with
  | some cs => Text.Percent.encodeUrl cs
  | none => cs.flatMap fun c =>
    if Text.Percent.isUrlChar c then [c] else Text.Percent.escapeChar c

/-! ## Components -/

def removeDotSegments (path : List Char) : List Char :=
  let kept := (Text.splitOn '/' path).foldl (fun out seg =>
    if seg = ['.'] then out
    else if seg = ['.', '.'] then out.dropLast
    else out ++ [seg]) []
  let kept :=
    if path.head? = some '/' ∧ kept.head? ≠ some [] then [] :: kept else kept
  let kept :=
    if ['/', '.'] <:+ path ∨ ['/', '.', '.'] <:+ path then kept ++ [[]] else kept
  Text.joinWith '/' kept

/-- A scheme at the head of a URL and what follows its colon. -/
def scheme? (cs : List Char) : Option (List Char × List Char) :=
  match cs with
  | c :: _ =>
    if c.isAlpha then
      let isScheme := fun (c : Char) => c.isAlphanum || c == '+' || c == '.' || c == '-'
      match cs.dropWhile isScheme with
      | ':' :: rest => some (cs.takeWhile isScheme, rest)
      | _ => none
    else none
  | [] => none

/-- Whether a URL is read as it stands; another one is read as if it began with two slashes. -/
def startsLikeUrl (cs : List Char) : Bool :=
  cs.head? == some '/' ||
    match scheme? cs with
    | some (s, _) => !s.contains '.'
    | none => false

structure Parts where
  scheme : Option (List Char)
  authority : Option (List Char)
  path : List Char
  query : Option (List Char)
  fragment : Option (List Char)

def parts (cs : List Char) : Parts :=
  let (scheme, rest) : Option (List Char) × List Char := match scheme? cs with
    | some (s, rest) => (some s, rest)
    | none => (none, cs)
  let ends := fun (c : Char) => c == '/' || c == '\\' || c == '?' || c == '#'
  let (authority, rest) : Option (List Char) × List Char := match rest with
    | '/' :: '/' :: rest => (some (rest.takeWhile (!ends ·)), rest.dropWhile (!ends ·))
    | rest => (none, rest)
  let path := rest.takeWhile fun c => c != '?' && c != '#'
  let rest := rest.dropWhile fun c => c != '?' && c != '#'
  let (query, rest) : Option (List Char) × List Char := match rest with
    | '?' :: rest => (some (rest.takeWhile (· != '#')), rest.dropWhile (· != '#'))
    | rest => (none, rest)
  let fragment := match rest with
    | '#' :: rest => some rest
    | _ => none
  ⟨scheme, authority, path, query, fragment⟩

/-- The host and the port in a URL; neither if nothing follows the slashes. -/
def hostAndPort (url : String) (authority : List Char) :
    Except Fault (List Char × Option Nat) :=
  if authority.isEmpty then .ok ([], none)
  else (Host.read (Address.Authority.cutUser authority).2).mapError (.badHost url)

/-- A host as it is sent in a URL that is not an HTTP one. -/
def foreignHost (host : List Char) : Except Fault (List Char) :=
  if host.all (·.toNat < 0x80) then .ok host
  else
    match Host.asciiName? host with
    | some ascii => .ok ascii
    | none => .error .badLabel

def prepare (configured : String) : Except Fault String := do
  let cs := configured.toList.dropWhile Text.isBlank
  let url := String.ofList cs
  let lower := cs.map Char.toLower
  if cs.contains ':' && !("http".toList.isPrefixOf lower) then return url
  if cs.isEmpty then throw (.noScheme url)
  let p := parts (if startsLikeUrl cs then cs else '/' :: '/' :: cs)
  let scheme := p.scheme.map (·.map Char.toLower)
  let normal := scheme == none || scheme == some "http".toList || scheme == some "https".toList
  let authority := p.authority.getD []
  let user := ((Address.Authority.cutUser authority).1).getD []
  let (host, number) ← hostAndPort url authority
  let clean := fun (allowed : Char → Bool) (x : List Char) =>
    if normal then encodeComponent allowed x else x
  let user := clean isUserChar user
  let host ← if normal then (Host.normal host).mapError (.badHost url) else pure host
  let path := clean isPathChar
    (if normal && !p.path.isEmpty then removeDotSegments p.path else p.path)
  let query := clean isQueryChar (p.query.getD [])
  let fragment := clean isQueryChar (p.fragment.getD [])
  let some scheme := scheme | throw (.noScheme url)
  if host.isEmpty then throw (.noHost url)
  if host.head? = some '*' ∨ host.head? = some '.' then throw .badLabel
  let host ← foreignHost host
  let path := if path.isEmpty ∨ path.head? ≠ some '/' then '/' :: path else path
  let portText : List Char := match number with
    | some n => if n = 0 then [] else ':' :: (toString n).toList
    | none => []
  let userText := if user.isEmpty then [] else user ++ ['@']
  let queryText := if query.isEmpty then [] else '?' :: query
  let fragmentText := if fragment.isEmpty then [] else '#' :: fragment
  return String.ofList (requote
    (scheme ++ "://".toList ++ userText ++ host ++ portText ++ path ++ queryText ++ fragmentText))

/-- Whether a name and a password can be sent: their characters are octets. Nothing is sent without
a password or if both are empty. -/
def areSendable (name : List Char) (password : Option (List Char)) : Bool :=
  match password with
  | none => true
  | some password =>
    (Text.Percent.unescape name ++ Text.Percent.unescape password).all (·.toNat < 0x100)

/-- What is wrong with an address as it is sent that nobody expects: an authority that is refused,
or a name or a password that cannot be sent. -/
def defect? (url : String) : Option Defect :=
  match Address.Parts.read? url.toList with
  | none => some .providerAddress
  | some p =>
    match Address.Authority.user? p.authority with
    | some (name, password) => if areSendable name password then none else some .wideCharacter
    | none => none

/-- Whether an address as it is sent is an HTTP one. -/
def isHttp (url : String) : Bool :=
  let lower := url.toList.map Char.toLower
  "http://".toList.isPrefixOf lower || "https://".toList.isPrefixOf lower

end SignIn.Mail.Url
