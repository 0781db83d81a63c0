import WarehouseSchema.Plain
import WarehouseSchema.Yaml.Tag

/-!
Plain data as a YAML document in block style. A text stands plain where it can, else in single
quotes, and in double quotes when it holds characters that have to be escaped. Lines longer than
`bestWidth` are folded at spaces.
-/

namespace WarehouseSchema.Yaml

open Text Number

/-- The width beyond which a line is folded. -/
def bestWidth : Nat := 80

def step : Nat := 2

def spaces (n : Nat) : List Char := List.replicate n ' '

/-! ## Styles -/

/-- A character that can stand as it is in single quotes: a visible one of ASCII, a space or a line
feed. -/
def isDirect (c : Char) : Bool := c == '\n' || (' ' ≤ c && c ≤ '~')

/-- A break or blank, or the end of a text, or the null character. -/
def endsPart (c? : Option Char) : Bool := endsToken c? || c? == some (Char.ofNat 0)

/-- Characters that begin something other than a plain scalar. -/
def leadingIndicators : List Char := "#,[]\x7b\x7d&*!|>'\"%@`".toList

/-- Whether a text begins like something other than a plain scalar. -/
def hasLeadingIndicator (cs : List Char) : Bool :=
  ['-', '-', '-'].isPrefixOf cs || ['.', '.', '.'].isPrefixOf cs ||
    match cs with
    | [] => false
    | c :: rest =>
      leadingIndicators.contains c || ((c == '?' || c == ':' || c == '-') && endsPart rest.head?)

/-- Whether a colon before a blank or a number sign behind one stands after `before`. -/
def hasInnerIndicator (before : Char) : List Char → Bool
  | [] => false
  | c :: rest =>
    (c == ':' && endsPart rest.head?) || (c == '#' && endsPart (some before)) ||
      hasInnerIndicator c rest

/-- Whether one of the characters in `p` stands right before one in `q`. -/
def hasNeighbours (p q : Char → Bool) : List Char → Bool
  | c :: d :: rest => (p c && q d) || hasNeighbours p q (d :: rest)
  | _ => false

def isSpace (c : Char) : Bool := c == ' '

def isFeed (c : Char) : Bool := c == '\n'

def canStandPlain (cs : List Char) : Bool :=
  match cs with
  | [] => false
  | c :: rest =>
    cs.all (fun c => isDirect c && !isFeed c) && !isSpace c && !(cs.getLast?.map isSpace).getD false &&
      !hasLeadingIndicator cs && !hasInnerIndicator c rest && Tag.ofPlain (String.ofList cs) == .text

def canStandSingle (cs : List Char) : Bool :=
  cs.all isDirect && !hasNeighbours isSpace isFeed cs && !hasNeighbours isFeed isSpace cs

def isMultiline (cs : List Char) : Bool := cs.any fun c => c != '\r' && isBreak c

/-! ## Scalars -/

/-- A plain text from a column on, folded at single spaces. -/
def foldPlain (indent : Nat) : Nat → Bool → List Char → List Char
  | _, _, [] => []
  | column, afterSpace, c :: cs =>
    if c = ' ' && !afterSpace && cs.head? != some ' ' && bestWidth < column then
      '\n' :: spaces indent ++ foldPlain indent indent true cs
    else c :: foldPlain indent (column + 1) (c == ' ') cs

/-- The inside of single quotes from a column on, `before` being the character before. A quote and a
line feed are doubled. -/
def foldSingle (indent : Nat) (split : Bool) : Nat → Option Char → List Char → List Char
  | _, before, [] => if before = some '\n' then spaces indent else []
  | column, before, c :: cs =>
    if c = '\n' then
      (if before = some '\n' then ['\n'] else ['\n', '\n']) ++
        foldSingle indent split 0 (some c) cs
    else
      let lead := if before = some '\n' then spaces indent else []
      let column := if before = some '\n' then indent else column
      if c = ' ' && split && before.isSome && before != some ' ' && !cs.isEmpty &&
          cs.head? != some ' ' && bestWidth < column then
        lead ++ '\n' :: spaces indent ++ foldSingle indent split indent (some c) cs
      else if c = '\'' then lead ++ '\'' :: '\'' :: foldSingle indent split (column + 2) (some c) cs
      else lead ++ c :: foldSingle indent split (column + 1) (some c) cs

/-- The letters that stand for characters behind a backslash. -/
def escapeLetters : List (Nat × Char) :=
  [(0, '0'), (7, 'a'), (8, 'b'), (9, 't'), (10, 'n'), (11, 'v'), (12, 'f'), (13, 'r'), (27, 'e'),
   (34, '"'), (92, '\\'), (0x85, 'N'), (0xA0, '_'), (0x2028, 'L'), (0x2029, 'P')]

/-- A code point in upper-case hexadecimal digits. -/
def upperHex (width n : Nat) : List Char := (hexDigits width n).map Char.toUpper

/-- What stands for a character in double quotes, if not itself. -/
def escape? (c : Char) : Option (List Char) :=
  let n := c.toNat
  if ' ' ≤ c && c ≤ '~' && c != '"' && c != '\\' then none
  else
    match escapeLetters.lookup n with
    | some letter => some ['\\', letter]
    | none =>
      if n < 0x100 then some ('\\' :: 'x' :: upperHex 2 n)
      else if n < 0x10000 then some ('\\' :: 'u' :: upperHex 4 n)
      else some ('\\' :: 'U' :: upperHex 8 n)

/-- The break of a folded line in double quotes; a space that follows it is escaped. -/
def foldMark (indent : Nat) (next : Option Char) : List Char :=
  '\\' :: '\n' :: spaces indent ++ if next = some ' ' then ['\\'] else []

/-- The column behind the break of a folded line. -/
def foldColumn (indent : Nat) (next : Option Char) : Nat :=
  if next = some ' ' then indent + 1 else indent

/-- The inside of double quotes. `column` is that before the last `held` characters, and `first`
says whether the text begins here. A line is folded before a space or beside an escape. -/
def foldDouble (indent : Nat) (split : Bool) : Nat → Nat → Bool → List Char → List Char
  | _, _, _, [] => []
  | column, held, first, c :: cs =>
    let inside := split && !first && !cs.isEmpty
    match escape? c with
    | some mark =>
      let column := column + held + mark.length
      if inside && bestWidth + 1 < column then
        mark ++ foldMark indent cs.head? ++
          foldDouble indent split (foldColumn indent cs.head?) 0 false cs
      else mark ++ foldDouble indent split column 0 false cs
    | none =>
      if inside && (c == ' ' || held == 0) && bestWidth < column + held then
        foldMark indent (some c) ++ c :: foldDouble indent split (foldColumn indent (some c)) 1 false cs
      else c :: foldDouble indent split column (held + 1) false cs

/-- A text as a scalar from a column on; further lines of it are indented by `indent`. A key stands
on one line. -/
def writeText (isKey : Bool) (indent column : Nat) (s : String) : List Char :=
  let cs := s.toList
  if canStandPlain cs then if isKey then cs else foldPlain indent column false cs
  else if canStandSingle cs && !(isKey && isMultiline cs) then
    '\'' :: foldSingle indent (!isKey) (column + 1) none cs ++ ['\'']
  else '"' :: foldDouble indent (!isKey) (column + 1) 0 true cs ++ ['"']

/-- The text of a floating-point number, which has a point even before an exponent. -/
def floatText (x : Binary64) : String :=
  match x with
  | .nan => ".nan"
  | .infinite negative => if negative then "-.inf" else ".inf"
  | x =>
    let cs := x.text.toList
    if cs.contains '.' then x.text
    else String.ofList (cs.takeWhile (· != 'e') ++ ['.', '0'] ++ cs.dropWhile (· != 'e'))

/-! ## Documents -/

/-- The greatest length of a key that stands on a line with its value. -/
def keyLimit : Nat := 122

def isSimpleKey (key : String) : Bool :=
  let cs := key.toList
  !cs.isEmpty && !isMultiline cs && cs.length ≤ keyLimit

/-- Data that stands on the line of its key or mark, from a column on; none for filled
collections. -/
def writeInline? (indent column : Nat) : Plain → Option (List Char)
  | .null => some "null".toList
  | .bool b => some (if b then "true".toList else "false".toList)
  | .int n => some (intText n).toList
  | .float x => some (floatText x).toList
  | .text s => some (writeText false indent column s)
  | .list [] => some ['[', ']']
  | .map [] => some ['\x7b', '\x7d']
  | .list (_ :: _) | .map (_ :: _) => none

mutual

/-- Data behind a mark that is followed by a space: the entries of a filled collection start on the
same line, at column `indent`. -/
def writeMarked (indent : Nat) : Plain → List Char
  | .list (p :: ps) => ' ' :: writeItems indent true (p :: ps)
  | .map (e :: es) => ' ' :: writeEntries indent true (e :: es)
  | p => ' ' :: (writeInline? indent indent p).getD []

/-- The items of a list at column `indent`, each behind a hyphen. -/
def writeItems (indent : Nat) (first : Bool) : List Plain → List Char
  | [] => []
  | p :: ps =>
    (if first then [] else '\n' :: spaces indent) ++ '-' :: writeMarked (indent + step) p ++
      writeItems indent false ps

def writeEntries (indent : Nat) (first : Bool) : List (String × Plain) → List Char
  | [] => []
  | (key, p) :: es =>
    let lead := if first then [] else '\n' :: spaces indent
    let entry :=
      if isSimpleKey key then
        let name := writeText true (indent + step) indent key
        name ++ ':' :: writeUnder indent (indent + name.length + 2) p
      else
        '?' :: ' ' :: writeText false (indent + step) (indent + step) key ++
          '\n' :: spaces indent ++ ':' :: writeMarked (indent + step) p
    lead ++ entry ++ writeEntries indent false es

/-- Data behind a key and its colon. A list under a key is not indented. -/
def writeUnder (indent column : Nat) : Plain → List Char
  | .list (p :: ps) => '\n' :: spaces indent ++ writeItems indent true (p :: ps)
  | .map (e :: es) =>
    '\n' :: spaces (indent + step) ++ writeEntries (indent + step) true (e :: es)
  | p => ' ' :: (writeInline? (indent + step) column p).getD []

end

/-- Whether a document of this data has to be closed by a mark, because it is a plain scalar. -/
def isOpenEnded : Plain → Bool
  | .list _ | .map _ => false
  | .text s => canStandPlain s.toList
  | _ => true

def write (p : Plain) : String :=
  let body :=
    match p with
    | .list (q :: qs) => writeItems 0 true (q :: qs)
    | .map (e :: es) => writeEntries 0 true (e :: es)
    | p => (writeInline? step 0 p).getD []
  String.ofList (body ++ '\n' :: if isOpenEnded p then "...\n".toList else [])

end WarehouseSchema.Yaml
