import WarehouseSchema.Environment.Basic
import WarehouseSchema.Session
import WarehouseSchema.Text.Basic
import WarehouseSchema.Text.Blank

/-!
Files of variables. A line binds a name to a text: bare up to a comment, or quoted and then over any
number of lines. A bare name has no text. A line that is neither is skipped with a warning. Texts may
refer to other variables.
-/

namespace WarehouseSchema.EnvironmentFile

open Text

def isInlineBlank (c : Char) : Bool := isBlank c && c != '\n' && c != '\r'

/-- A name bound in a file, `none` for a comment. -/
structure Binding where
  name : Option String
  text : Option String
  deriving DecidableEq, Repr

/-- A reading of the front of a text: the result and the rest, or the rest where it fails. -/
abbrev Reading (α : Type) := Except (List Char) (α × List Char)

/-- The text without the word that marks a binding for other programs. -/
def dropExport (cs : List Char) : List Char :=
  let word := "export".toList
  if word.isPrefixOf cs && ((cs.drop word.length).head?.map isInlineBlank).getD false then
    (cs.drop word.length).dropWhile isInlineBlank
  else cs

def takeName (cs : List Char) : Reading (Option String) :=
  match cs with
  | '#' :: _ => .ok (none, cs)
  | '\'' :: rest =>
    match rest.span (· != '\'') with
    | (c :: name, _ :: after) => .ok (some (String.ofList (c :: name)), after)
    | _ => .error cs
  | _ =>
    match cs.span fun c => c != '=' && c != '#' && !isBlank c with
    | ([], _) => .error cs
    | (name, rest) => .ok (some (String.ofList name), rest)

/-- The characters before the first closing quote, a quote behind a backslash not being one. -/
def untilQuote (quote : Char) : List Char → Option (List Char × List Char)
  | [] => none
  | '\\' :: c :: cs =>
    if c = quote then (untilQuote quote cs).map fun (body, rest) => ('\\' :: c :: body, rest)
    else (untilQuote quote (c :: cs)).map fun (body, rest) => ('\\' :: body, rest)
  | c :: cs =>
    if c = quote then some ([], cs)
    else (untilQuote quote cs).map fun (body, rest) => (c :: body, rest)

/-- The characters before the last quote that stands behind a backslash. -/
def untilEscapedQuote (quote : Char) : List Char → Option (List Char × List Char)
  | [] => none
  | '\\' :: c :: cs =>
    if c = quote then
      match untilEscapedQuote quote cs with
      | some (body, rest) => some ('\\' :: c :: body, rest)
      | none => some (['\\'], cs)
    else (untilEscapedQuote quote (c :: cs)).map fun (body, rest) => ('\\' :: body, rest)
  | c :: cs => (untilEscapedQuote quote cs).map fun (body, rest) => (c :: body, rest)

/-- The characters that letters behind a backslash stand for, by the quote around them. -/
def escapes (quote : Char) : List (Char × Char) :=
  [('\\', '\\'), ('\'', '\'')] ++
    if quote = '"' then
      [('"', '"'), ('a', '\x07'), ('b', '\x08'), ('f', '\x0c'), ('n', '\n'), ('r', '\r'),
       ('t', '\t'), ('v', '\x0b')]
    else []

def unescape (known : List (Char × Char)) : List Char → List Char
  | '\\' :: c :: cs =>
    match known.lookup c with
    | some d => d :: unescape known cs
    | none => '\\' :: unescape known (c :: cs)
  | c :: cs => c :: unescape known cs
  | [] => []

/-- A bare text up to its comment: a comment begins with a number sign behind a blank. -/
def untilComment : List Char → List Char
  | [] => []
  | c :: cs =>
    if isBlank c && (cs.dropWhile isBlank).head? = some '#' then [] else c :: untilComment cs

def takeText (cs : List Char) : Reading String :=
  let quotedBy (quote : Char) (body : List Char) : Reading String :=
    match untilQuote quote body <|> untilEscapedQuote quote body with
    | some (body, rest) => .ok (String.ofList (unescape (escapes quote) body), rest)
    | none => .error cs
  match cs with
  | '\'' :: body => quotedBy '\'' body
  | '"' :: body => quotedBy '"' body
  | _ =>
    let line := cs.takeWhile fun c => c != '\n' && c != '\r'
    .ok (String.ofList (dropEndWhile isBlank (untilComment line)), cs.drop line.length)

/-- The rest of a text behind the end of its line, where nothing but a comment may stand before. -/
def takeLineEnd (cs : List Char) : Reading Unit :=
  let rest := cs.dropWhile isInlineBlank
  let rest :=
    match rest with
    | '#' :: _ => rest.dropWhile fun c => c != '\n' && c != '\r'
    | rest => rest
  match rest with
  | [] => .ok ((), [])
  | '\n' :: after => .ok ((), after)
  | rest => .error rest

def takeBinding (cs : List Char) : Except (List Char) (Binding × List Char) := do
  let (name, rest) ← takeName (dropExport cs)
  let rest := rest.dropWhile isInlineBlank
  let (text, rest) ←
    match rest with
    | '=' :: more => do
      let (text, rest) ← takeText (more.dropWhile isInlineBlank)
      pure (some text, rest)
    | rest => pure (none, rest)
  let ((), rest) ← takeLineEnd rest
  return (⟨name, text⟩, rest)

/-- The bindings of a text and the numbers of the lines that are none, within `fuel` steps. -/
def readFrom : Nat → Nat → List Char → List Binding × List Nat
  | 0, _, _ | _, _, [] => ([], [])
  | fuel + 1, line, cs =>
    let start := cs.dropWhile isBlank
    let linesTo (rest : List Char) : Nat := (cs.take (cs.length - rest.length)).count '\n'
    if start = [] then ([], [])
    else
      match takeBinding start with
      | .ok (b, rest) =>
        let (bs, faults) := readFrom fuel (line + linesTo rest) rest
        (b :: bs, faults)
      | .error rest =>
        let rest := (rest.dropWhile (· != '\n')).drop 1
        let (bs, faults) := readFrom fuel (line + linesTo rest) rest
        (bs, line :: faults)

/-- The bindings of a text and the numbers of the lines that are none. -/
def read (text : String) : List Binding × List Nat :=
  readFrom text.length 1 (unifyLines text).toList

/-- A piece of a text: characters, or a reference to a variable. -/
inductive Piece where
  | plain (c : Char)
  | variable (name default : String)

/-- The reference that a text begins with behind its dollar sign and brace. -/
def takeReference (cs : List Char) : Option (Piece × List Char) :=
  let (name, rest) := cs.span fun c => c != '\x7d' && c != ':'
  match rest with
  | '\x7d' :: after => some (.variable (String.ofList name) "", after)
  | ':' :: '-' :: more =>
    match more.span (· != '\x7d') with
    | (default, _ :: after) =>
      some (.variable (String.ofList name) (String.ofList default), after)
    | _ => none
  | _ => none

def piecesFrom : Nat → List Char → List Piece
  | 0, _ | _, [] => []
  | fuel + 1, '$' :: '\x7b' :: cs =>
    match takeReference cs with
    | some (piece, rest) => piece :: piecesFrom fuel rest
    | none => .plain '$' :: piecesFrom fuel ('\x7b' :: cs)
  | fuel + 1, c :: cs => .plain c :: piecesFrom fuel cs

def resolve (known : String → Option String) (text : String) : String :=
  String.ofList ((piecesFrom text.length text.toList).flatMap fun
    | .plain c => [c]
    | .variable name default => ((known name).getD default).toList)

/-- The variables of a file. References see the variables before them, and the environment; where
both have a name, `fileFirst` says which one counts. A variable without a text counts as an empty
one. -/
def bound (fileFirst : Bool) (env : Environment) (bindings : List Binding) : Variables :=
  bindings.foldl step []
where
  step (vars : Variables) (b : Binding) : Variables :=
    match b.name with
    | none => vars
    | some name =>
      let inFile (name : String) : Option String := (List.lookup name vars).map (·.getD "")
      let known (name : String) : Option String :=
        if fileFirst then inFile name <|> env.get? name else env.get? name <|> inFile name
      vars.put name (b.text.map (resolve known))

def warningSource : String := "dotenv.main"

def warningText (line : Nat) : String :=
  "python-dotenv could not parse statement starting at line " ++ natText line

/-- The variables of the file at a path; there are none where no file is. -/
def load (fileFirst : Bool) (env : Environment) (p : Path) : Session Variables := do
  match (← Session.files).read p with
  | .error _ => return []
  | .ok text => do
    let (bindings, faults) := read text
    for line in faults do
      Session.note Severity.warning warningSource (warningText line)
    return bound fileFirst env bindings

end WarehouseSchema.EnvironmentFile
