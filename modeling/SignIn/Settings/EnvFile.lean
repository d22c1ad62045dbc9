import SignIn.Keyed
import SignIn.Text.Blank

/-!
# Files of settings

A file of settings is a sequence of bindings, each a name and a value on a line, perhaps with the
word `export` in front and a comment at its end. A value may be quoted, and then run over several
lines and hold escapes. A line that is no binding is passed over. A value may mention earlier names
and those of the environment.
-/

namespace SignIn.Settings.EnvFile

def isLineBlank (c : Char) : Bool :=
  Text.isBlank c && c != '\n'

def unifyLines : List Char → List Char
  | '\x0d' :: '\n' :: rest => '\n' :: unifyLines rest
  | '\x0d' :: rest => '\n' :: unifyLines rest
  | c :: rest => c :: unifyLines rest
  | [] => []

/-- A text without the byte order mark at its start. -/
def withoutMark (cs : List Char) : List Char :=
  if cs.head? = some (Char.ofNat 0xFEFF) then cs.drop 1 else cs

/-- What follows the word `export` and blanks, if they are there. -/
def afterExport (cs : List Char) : List Char :=
  let word := "export".toList
  if word.isPrefixOf cs then
    let rest := cs.drop word.length
    let more := rest.dropWhile isLineBlank
    if more.length < rest.length then more else cs
  else cs

/-- A name and what follows it. A comment has no name. -/
def name? (cs : List Char) : Option (Option (List Char) × List Char) :=
  match cs with
  | '#' :: _ => some (none, cs)
  | '\'' :: rest =>
    let n := rest.takeWhile (· ≠ '\'')
    if n.isEmpty || n.length == rest.length then none
    else some (some n, rest.drop (n.length + 1))
  | cs =>
    let n := cs.takeWhile fun c => c != '=' && c != '#' && !Text.isBlank c
    if n.isEmpty then none else some (some n, cs.drop n.length)

/-- The inside of a quoted value and what follows it: up to the first quote that does not follow a
backslash, which takes the character after it along. -/
def quotedInside? (quote : Char) : List Char → Option (List Char × List Char)
  | [] => none
  | ['\\'] => none
  | '\\' :: c :: rest => (quotedInside? quote rest).map fun (a, b) => ('\\' :: c :: a, b)
  | c :: rest =>
    if c = quote then some ([], rest)
    else (quotedInside? quote rest).map fun (a, b) => (c :: a, b)

/-- The character of an escape inside quotes. -/
def escape? (quote c : Char) : Option Char :=
  if c = '\\' ∨ c = '\'' then some c
  else if quote = '\'' then none
  else match c with
    | '"' => some '"'
    | 'a' => some (Char.ofNat 7)
    | 'b' => some (Char.ofNat 8)
    | 'f' => some (Char.ofNat 12)
    | 'n' => some '\n'
    | 'r' => some (Char.ofNat 13)
    | 't' => some '\t'
    | 'v' => some (Char.ofNat 11)
    | _ => none

def unescape (quote : Char) : List Char → List Char
  | '\\' :: c :: rest =>
    match escape? quote c with
    | some e => e :: unescape quote rest
    | none => '\\' :: unescape quote (c :: rest)
  | c :: rest => c :: unescape quote rest
  | [] => []

/-- A value without quotes, up to a comment after a blank. -/
def uncommented : List Char → List Char
  | [] => []
  | c :: rest =>
    if Text.isBlank c && ((c :: rest).dropWhile Text.isBlank).head? == some '#' then []
    else c :: uncommented rest

/-- A value and what follows it. Blanks in front of the value count only where a comment may follow
them. -/
def value? (cs : List Char) : Option (List Char × List Char) :=
  match cs.dropWhile isLineBlank with
  | '\'' :: rest => (quotedInside? '\'' rest).map fun (a, b) => (unescape '\'' a, b)
  | '"' :: rest => (quotedInside? '"' rest).map fun (a, b) => (unescape '"' a, b)
  | _ =>
    let line := cs.takeWhile (· ≠ '\n')
    some (Text.trim Text.isBlank (uncommented line), cs.drop line.length)

/-- What follows the end of a line, which may hold blanks and a comment; none if anything else is in
front of it. -/
def afterLine? (cs : List Char) : Option (List Char) :=
  let rest := cs.dropWhile isLineBlank
  let rest := if rest.head? = some '#' then rest.dropWhile (· ≠ '\n') else rest
  match rest with
  | [] => some []
  | '\n' :: rest => some rest
  | _ => none

/-- A binding: a name and, if it is given one, a value. -/
abbrev Binding := List Char × Option (List Char)

def skipLine (cs : List Char) : List Char :=
  (cs.dropWhile (· ≠ '\n')).drop 1

/-- The binding at the head of a text, if there is one, and what follows it. -/
def binding (cs : List Char) : Option Binding × List Char :=
  match name? (afterExport cs) with
  | none => (none, skipLine (afterExport cs))
  | some (name, rest) =>
    let rest := rest.dropWhile isLineBlank
    let valued : Option (Option (List Char) × List Char) :=
      match rest with
      | '=' :: more => (value? more).map fun (v, rest) => (some v, rest)
      | rest => some (none, rest)
    match valued with
    | none => (none, skipLine rest)
    | some (value, rest) =>
      match afterLine? rest with
      | some rest => (name.map (·, value), rest)
      | none => (none, skipLine rest)

/-- The bindings of a text; `fuel` bounds their number. -/
def bindings : Nat → List Char → List Binding
  | 0, _ => []
  | fuel + 1, cs =>
    match cs.dropWhile Text.isBlank with
    | [] => []
    | cs =>
      let (b, rest) := binding cs
      b.toList ++ bindings fuel rest

/-- A value in which names in braces after a dollar sign are replaced; a name may be followed by
what stands for it if it has no value. -/
def resolve (lookUp : String → Option (Option String)) : Nat → List Char → List Char
  | 0, cs => cs
  | _, [] => []
  | fuel + 1, '$' :: '\x7b' :: rest =>
    let name := rest.takeWhile fun c => c != '\x7d' && c != ':'
    let more := rest.drop name.length
    let (fallback, more) : List Char × List Char := match more with
      | ':' :: '-' :: tail =>
        let d := tail.takeWhile (· ≠ '\x7d')
        (d, tail.drop d.length)
      | more => ([], more)
    match more with
    | '\x7d' :: tail =>
      (match lookUp (String.ofList name) with
        | some (some v) => v.toList
        | some none => []
        | none => fallback) ++ resolve lookUp fuel tail
    | _ => '$' :: resolve lookUp fuel ('\x7b' :: rest)
  | fuel + 1, c :: rest => c :: resolve lookUp fuel rest

/-- The names of a file with their values, given the environment. -/
def read (environment : Keyed String String) (file : String) : Keyed String (Option String) :=
  let cs := unifyLines (withoutMark file.toList)
  (bindings (cs.length + 1) cs).foldl (fun known (name, value) =>
    let lookUp := fun n => (Keyed.find? n known).or ((Keyed.find? n environment).map some)
    let value := value.map fun v => String.ofList (resolve lookUp (v.length + 1) v)
    Keyed.put (String.ofList name) value known) []

end SignIn.Settings.EnvFile
