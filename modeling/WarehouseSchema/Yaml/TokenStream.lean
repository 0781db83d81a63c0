import WarehouseSchema.Yaml.Token

/-!
The tokens of a YAML text, up to the end or to the first place that does not fall into tokens.
Indentation opens and closes blocks. A key need not be marked: what may turn out to be one is
remembered, and when a colon follows in time the marks are put before it. Tokens therefore wait
in a queue as long as a mark may still be put before them.
-/

namespace WarehouseSchema.Yaml

/-- What may turn out to be a key: the number of its first token, whether nothing else may stand
there, and its place. -/
structure PossibleKey where
  number : Nat
  required : Bool
  index : Nat
  line : Nat
  column : Nat

/-- The state between two tokens: the place, the depth of brackets, the indentations of open blocks,
whether a key may start here, the possible keys by depth, and the waiting tokens with the count of
those that no longer wait. -/
structure Scanner where
  place : Cursor
  depth : Nat
  indent : Int
  indents : List Int
  keyAllowed : Bool
  keys : List (Nat × PossibleKey)
  queue : List Token
  released : Nat

namespace Scanner

def start (cs : List Char) : Scanner :=
  ⟨Cursor.start cs, 0, -1, [], true, [], [], 0⟩

def push (s : Scanner) (t : Token) : Scanner := { s with queue := s.queue ++ [t] }

def insert (s : Scanner) (number : Nat) (t : Token) : Scanner :=
  let n := number - s.released
  { s with queue := s.queue.take n ++ t :: s.queue.drop n }

/-- The greatest distance between the beginning of a key and its colon. -/
def keyReach : Nat := 1024

/-- Forgets possible keys that lie on another line or too far back; a required one is refused. -/
def dropStaleKeys (s : Scanner) : Except Fault Scanner :=
  let isStale (k : PossibleKey) : Bool :=
    k.line != s.place.line || decide (keyReach < s.place.index - k.index)
  if s.keys.any fun k => isStale k.2 && k.2.required then notToken
  else .ok { s with keys := s.keys.filter fun k => !isStale k.2 }

/-- Forgets the possible key at this depth of brackets; a required one is refused. -/
def dropKey (s : Scanner) : Except Fault Scanner :=
  match s.keys.lookup s.depth with
  | none => .ok s
  | some k =>
    if k.required then notToken
    else .ok { s with keys := s.keys.filter fun e => e.1 != s.depth }

/-- Remembers that a key may start here. -/
def saveKey (s : Scanner) : Except Fault Scanner :=
  if s.keyAllowed then do
    let required := s.depth == 0 && s.indent == s.place.column
    let s ← s.dropKey
    let key : PossibleKey :=
      ⟨s.released + s.queue.length, required, s.place.index, s.place.line, s.place.column⟩
    return { s with keys := (s.depth, key) :: s.keys }
  else .ok s

/-- The ends of the blocks that lie deeper than a column, and the indentations that remain. -/
def closeBlocks (column : Int) : Int → List Int → List Token × Int × List Int
  | indent, [] => ([], indent, [])
  | indent, outer :: indents =>
    if column < indent then
      let (ends, rest) := closeBlocks column outer indents
      (.blockEnd :: ends, rest)
    else ([], indent, outer :: indents)

/-- Closes the blocks that lie deeper than a column; inside brackets there are none to close. -/
def unwind (s : Scanner) (column : Int) : Scanner :=
  if s.depth ≠ 0 then s
  else
    let (ends, indent, indents) := closeBlocks column s.indent s.indents
    { s with queue := s.queue ++ ends, indent, indents }

/-- Opens a block at a column unless one that is as deep is open; `number` is the place of its mark
in the queue. -/
def openBlock (s : Scanner) (column : Nat) (number : Nat) (mark : Token) : Scanner :=
  if s.indent < column then
    { s.insert number mark with indent := column, indents := s.indent :: s.indents }
  else s

def nextNumber (s : Scanner) : Nat := s.released + s.queue.length

def take (s : Scanner) (n : Nat) (t : Token) : Scanner :=
  { s with place := s.place.skip n }.push t

/-- Blanks, comments and line breaks before the next token. -/
def skipBlanksFrom (depth : Nat) : Nat → Bool → Cursor → Bool × Cursor
  | 0, allowed, c => (allowed, c)
  | fuel + 1, allowed, c =>
    let c := c.skipSpaces.skipComment
    if (c.peek.map isBreak).getD false then
      skipBlanksFrom depth fuel (allowed || depth == 0) c.takeBreak.2
    else (allowed, c)

/-- Goes to the next token; outside brackets a key may start on a new line. -/
def skipBlanks (s : Scanner) : Scanner :=
  let c := s.place
  let c := if c.index = 0 && (c.peek.map isByteOrderMark).getD false then c.next else c
  let (keyAllowed, place) := skipBlanksFrom s.depth (c.rest.length + 1) s.keyAllowed c
  { s with place, keyAllowed }

/-- A mark between documents, or a directive. -/
def betweenDocuments (s : Scanner) : Except Fault Scanner := do
  let s ← (s.unwind (-1)).dropKey
  return { s with keyAllowed := false }

def openBracket (s : Scanner) (t : Token) : Except Fault Scanner := do
  let s ← s.saveKey
  return { s with depth := s.depth + 1, keyAllowed := true }.take 1 t

def closeBracket (s : Scanner) (t : Token) : Except Fault Scanner := do
  let s ← s.dropKey
  return { s with depth := s.depth - 1, keyAllowed := false }.take 1 t

def separator (s : Scanner) : Except Fault Scanner := do
  let s ← { s with keyAllowed := true }.dropKey
  return s.take 1 .flowEntry

/-- Opens a block for a mark of an entry or a key, which needs a place where a key may start. -/
def openForMark (s : Scanner) (mark : Token) : Except Fault Scanner :=
  if s.depth ≠ 0 then .ok s
  else if s.keyAllowed then .ok (s.openBlock s.place.column s.nextNumber mark)
  else notToken

def entryMark (s : Scanner) : Except Fault Scanner := do
  let s ← s.openForMark .blockSequenceStart
  let s ← { s with keyAllowed := true }.dropKey
  return s.take 1 .blockEntry

def keyMark (s : Scanner) : Except Fault Scanner := do
  let s ← s.openForMark .blockMappingStart
  let s ← { s with keyAllowed := s.depth == 0 }.dropKey
  return s.take 1 .key

/-- The colon before a value. What may have been a key becomes one. -/
def valueMark (s : Scanner) : Except Fault Scanner := do
  match s.keys.lookup s.depth with
  | some k =>
    let s := { s with keys := s.keys.filter fun e => e.1 != s.depth }
    let s := s.insert k.number .key
    let s := if s.depth = 0 then s.openBlock k.column k.number .blockMappingStart else s
    return { s with keyAllowed := false }.take 1 .value
  | none =>
    let s ← s.openForMark .blockMappingStart
    let s ← { s with keyAllowed := s.depth == 0 }.dropKey
    return s.take 1 .value

/-- A token with a text, which may be a key or the beginning of one. -/
def textToken (s : Scanner) (read : Cursor → Except Fault (Token × Cursor)) :
    Except Fault Scanner := do
  let s ← s.saveKey
  let (token, place) ← read s.place
  return { s with place, keyAllowed := false }.push token

def blockScalar (s : Scanner) (folded : Bool) : Except Fault Scanner := do
  let s ← { s with keyAllowed := true }.dropKey
  let (token, place) ← takeBlockScalar folded s.indent s.place.next
  return { s with place }.push token

/-- A plain scalar; a key may start behind it when it ends with a line. -/
def plainScalar (s : Scanner) : Except Fault Scanner := do
  let s ← s.saveKey
  let plain := takePlain (s.depth ≠ 0) (s.indent + 1) s.place
  return { s with place := plain.after, keyAllowed := plain.lineEnded }.push
    (.scalar (String.ofList plain.text) true)

/-- Characters that do not begin a plain scalar. -/
def isIndicator (ch : Char) : Bool := "-?:,[]\x7b\x7d#&*!|>'\"%@`".toList.contains ch

/-- Whether a plain scalar may start with `ch` when `next` follows. -/
def startsPlain (s : Scanner) (ch : Char) (next : Option Char) : Bool :=
  !(endsToken (some ch) || isIndicator ch) ||
    (!endsToken next && (ch == '-' || (s.depth == 0 && (ch == '?' || ch == ':'))))

/-- Reads the next token, which begins with `ch`. -/
def dispatch (s : Scanner) (ch : Char) : Except Fault Scanner :=
  let c := s.place
  let after := c.peekAt 1
  let marks := s.depth ≠ 0 || endsToken after
  if ch = '%' && c.column = 0 then do
    let s ← s.betweenDocuments
    let (token, place) ← takeDirective s.place
    return { s with place }.push token
  else if c.column = 0 && c.atMarker '-' then do
    return (← s.betweenDocuments).take 3 .documentStart
  else if c.column = 0 && c.atMarker '.' then do
    return (← s.betweenDocuments).take 3 .documentEnd
  else if ch = '[' then s.openBracket .flowSequenceStart
  else if ch = '\x7b' then s.openBracket .flowMappingStart
  else if ch = ']' then s.closeBracket .flowSequenceEnd
  else if ch = '\x7d' then s.closeBracket .flowMappingEnd
  else if ch = ',' then s.separator
  else if ch = '-' && endsToken after then s.entryMark
  else if ch = '?' && marks then s.keyMark
  else if ch = ':' && marks then s.valueMark
  else if ch = '*' then
    s.textToken fun c => do
      let (name, c) ← takeAnchor c.next
      return (.reference name, c)
  else if ch = '&' then
    s.textToken fun c => do
      let (name, c) ← takeAnchor c.next
      return (.anchor name, c)
  else if ch = '!' then s.textToken takeTag
  else if ch = '|' && s.depth = 0 then s.blockScalar false
  else if ch = '>' && s.depth = 0 then s.blockScalar true
  else if ch = '\'' || ch = '"' then s.textToken fun c => takeQuoted ch c.next
  else if s.startsPlain ch after then s.plainScalar
  else notToken

/-- The end of the text closes all blocks. -/
def finish (s : Scanner) : Except Fault Scanner := do
  let s ← (s.unwind (-1)).dropKey
  return { s with keys := [], keyAllowed := false }.push .streamEnd

/-- One step: blanks and the next token; true at the end of the text. -/
def step (s : Scanner) : Except Fault (Scanner × Bool) := do
  let s ← s.skipBlanks.dropStaleKeys
  let s := s.unwind s.place.column
  match s.place.peek with
  | none => return (← s.finish, true)
  | some ch => return (← s.dispatch ch, false)

/-- Releases the tokens before which no mark can be put any more. -/
def release (s : Scanner) : Except Fault (List Token × Scanner) :=
  if s.queue.isEmpty then .ok ([], s)
  else do
    let s ← s.dropStaleKeys
    let n :=
      match (s.keys.map (·.2.number)).min? with
      | some number => number - s.released
      | none => s.queue.length
    return (s.queue.take n,
      { s with queue := s.queue.drop n, released := s.released + (s.queue.take n).length })

end Scanner

/-- Tokens, and the fault behind them unless they are all. -/
structure TokenStream where
  tokens : List Token
  fault : Option Fault

namespace TokenStream

/-- The tokens that a scanner releases in at most `fuel` steps, behind those in `done`, which are in
reverse order. -/
def from_ : Nat → List Token → Scanner → TokenStream
  | 0, done, _ => ⟨done.reverse, some (.yaml .scanner)⟩
  | fuel + 1, done, s =>
    match s.step with
    | .error fault => ⟨done.reverse, some fault⟩
    | .ok (s, true) => ⟨(s.queue.reverse ++ done).reverse, none⟩
    | .ok (s, false) =>
      match s.release with
      | .error fault => ⟨done.reverse, some fault⟩
      | .ok (tokens, s) => from_ fuel (tokens.reverse ++ done) s

/-- The tokens of a text; a text with characters that may not stand in a document has none. -/
def ofChars (cs : List Char) : TokenStream :=
  if cs.all isAdmitted then from_ (cs.length + 2) [] (Scanner.start cs)
  else ⟨[], some (.yaml .reader)⟩

end TokenStream

end WarehouseSchema.Yaml
