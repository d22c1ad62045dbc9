import SignIn.Number.Numeral
import SignIn.Text.Quoted

/-!
# The command line

The options that start the server. A long option may be cut short as long as one option remains
that it can mean; its value follows it or an equals sign. All words are classified before the first
is acted on, so an ambiguous option is reported first; then the words are taken one after the other
until the help is asked for or one of them fails; words that nothing takes are reported last.
-/

namespace SignIn.CommandLine

inductive Flag
  | help
  | host
  | port
  | reload
  deriving DecidableEq, Repr

namespace Flag

def spellings : List (String × Flag) :=
  [("-h", help), ("--help", help), ("--host", host), ("--port", port), ("--reload", reload)]

/-- The name of an option in messages. -/
def name : Flag → String
  | help => "-h/--help"
  | host => "--host"
  | port => "--port"
  | reload => "--reload"

def takesValue : Flag → Bool
  | host | port => true
  | help | reload => false

end Flag

/-- What a word is taken for. -/
inductive Word
  | plain (s : String)
  /-- The separator after which there are no options. -/
  | separator
  /-- An option in one of its spellings, perhaps with a value attached. -/
  | flag (f : Flag) (spelling : String) (attached : Option String)
  | unknown (s : String)
  deriving DecidableEq, Repr

inductive Fault
  | ambiguous (word : String) (spellings : List String)
  | noValue (f : Flag)
  | unusedValue (f : Flag) (value : String)
  | noInteger (f : Flag) (value : String)
  | leftOver (words : List String)
  deriving DecidableEq, Repr

def Fault.message : Fault → String
  | ambiguous word spellings =>
    "ambiguous option: " ++ word ++ " could match " ++ ", ".intercalate spellings
  | noValue f => "argument " ++ f.name ++ ": expected one argument"
  | unusedValue f value =>
    "argument " ++ f.name ++ ": ignored explicit argument " ++ Text.quoted value
  | noInteger f value =>
    "argument " ++ f.name ++ ": invalid int value: " ++ Text.quoted value
  | leftOver words => "unrecognized arguments: " ++ " ".intercalate words

def isDigit (c : Char) : Bool := (Text.decimal? c).isSome

def isNegativeNumber (cs : List Char) : Bool :=
  match cs with
  | '-' :: rest =>
    let rest := if rest.getLast? = some '\n' then rest.dropLast else rest
    let whole := rest.takeWhile isDigit
    match rest.drop whole.length with
    | [] => !whole.isEmpty
    | '.' :: fraction => !fraction.isEmpty && fraction.all isDigit
    | _ => false
  | _ => false

/-- What stands before and after the first equals sign of a word. -/
def cutAtEquals (cs : List Char) : String × Option String :=
  let front := cs.takeWhile (· ≠ '=')
  (String.ofList front,
    if front.length < cs.length then some (String.ofList (cs.drop (front.length + 1))) else none)

/-- The options that a word in one or two dashes can mean. -/
def meanings (word : String) : List (String × Flag × Option String) :=
  let cs := word.toList
  if ['-', '-'].isPrefixOf cs then
    let (front, attached) := cutAtEquals cs
    (Flag.spellings.filter fun (s, _) => front.toList.isPrefixOf s.toList).map
      fun (s, f) => (s, f, attached)
  else
    let short := String.ofList (cs.take 2)
    let rest := cs.drop 2
    let attached := String.ofList (if rest.head? = some '=' then rest.drop 1 else rest)
    Flag.spellings.filterMap fun (s, f) =>
      if s = short then some (s, f, some attached)
      else if cs.isPrefixOf s.toList then some (s, f, none)
      else none

def ofSpelling? (spelling : String) : Option Flag :=
  (Flag.spellings.find? fun (s, _) => s == spelling).map (·.2)

def classify (word : String) : Except Fault Word :=
  let cs := word.toList
  if cs.head? ≠ some '-' then .ok (.plain word)
  else
    match ofSpelling? word with
    | some f => .ok (.flag f word none)
    | none =>
      if cs.length = 1 then .ok (.plain word)
      else
        match meanings word with
        | [(s, f, a)] => .ok (.flag f s a)
        | [] =>
          if isNegativeNumber cs || cs.contains ' ' then .ok (.plain word)
          else .ok (.unknown word)
        | ms => .error (.ambiguous word (ms.map (·.1)))

/-- Classifies all words; those after the separator are plain. -/
def classifyAll : List String → Except Fault (List Word)
  | [] => .ok []
  | w :: ws =>
    if w = "--" then .ok (.separator :: ws.map .plain)
    else do
      let word ← classify w
      return word :: (← classifyAll ws)

/-- What the command line says. An option whose attached value is the separator is given none. -/
structure Arguments where
  host : Option String
  port : Option Int
  reload : Bool
  deriving DecidableEq, Repr

def Arguments.standard : Arguments := ⟨some "127.0.0.1", some 3000, false⟩

/-- What the words come to: arguments and words left over, or a call for help. -/
inductive Progress
  | going (a : Arguments) (leftOver : List String)
  | help

def assign (f : Flag) (value : String) (a : Arguments) : Except Fault Arguments :=
  match f with
  | .host => .ok { a with host := some value }
  | .port =>
    match Numeral.integer? value.toList with
    | some n => .ok { a with port := some n }
    | none => .error (.noInteger .port value)
  | .help | .reload => .ok a

/-- Gives an option the value that is attached to it; the separator is dropped from it. -/
def assignAttached (f : Flag) (value : String) (a : Arguments) : Except Fault Arguments :=
  if value = "--" then
    match f with
    | .host => .ok { a with host := none }
    | .port => .ok { a with port := none }
    | .help | .reload => .ok a
  else assign f value a

/-- Acts on an option with a value attached. The call for help takes no value; behind its short form
its letter may be repeated, and anything else is a value. -/
def actAttached (f : Flag) (spelling attached : String) (a : Arguments) :
    Except Fault (Option Arguments) :=
  if f.takesValue then (assignAttached f attached a).map some
  else if spelling = "-h" ∧ attached ≠ "" then
    match attached.toList.dropWhile (· = 'h') with
    | [] => .ok none
    | value => .error (.unusedValue f (String.ofList value))
  else .error (.unusedValue f attached)

def Word.text : Word → String
  | plain s => s
  | separator => "--"
  | flag _ spelling _ => spelling
  | unknown s => s

def act : List Word → Arguments → List String → Except Fault Progress
  | [], a, left => .ok (.going a left)
  | .flag f spelling (some attached) :: ws, a, left => do
    match ← actAttached f spelling attached a with
    | some a => act ws a left
    | none => return .help
  | .flag .help _ none :: _, _, _ => .ok .help
  | .flag .reload _ none :: ws, a, left => act ws { a with reload := true } left
  | .flag f _ none :: ws, a, left =>
    match ws with
    | .plain v :: ws => do
      let a ← assign f v a
      act ws a left
    | _ => .error (.noValue f)
  | w :: ws, a, left => act ws a (left ++ [w.text])

inductive Request
  | run (a : Arguments)
  | help

def read (words : List String) : Except Fault Request := do
  match ← act (← classifyAll words) .standard [] with
  | .help => return .help
  | .going a [] => return .run a
  | .going _ left => throw (.leftOver left)

/-- The name under which the program is called. -/
def program : String := "main.py"

def usage : String :=
  "usage: " ++ program ++ " [-h] [--host HOST] [--port PORT] [--reload]\n"

def helpText : String :=
  usage ++ "\nRun the auth service HTTP API.\n\noptions:\n" ++
    "  -h, --help   show this help message and exit\n" ++
    "  --host HOST  Interface to bind (default: 127.0.0.1)\n" ++
    "  --port PORT  Port to listen on (default: 3000)\n" ++
    "  --reload     Restart on code changes (development only)\n"

/-- The last line of what is said about a fault. -/
def errorLine (f : Fault) : String :=
  program ++ ": error: " ++ f.message

def application : String := "asgi:app"

end SignIn.CommandLine
