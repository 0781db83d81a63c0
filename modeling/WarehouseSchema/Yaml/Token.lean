import WarehouseSchema.Yaml.Cursor

/-!
Tokens of YAML, and how those with a text are read: scalars in their five styles, anchors, tags and
directives. What begins like such a token but does not end like one is refused.
-/

namespace WarehouseSchema.Yaml

inductive Token where
  | version (major minor : Nat)
  | handle (name address : String)
  | directive
  | documentStart
  | documentEnd
  | blockSequenceStart
  | blockMappingStart
  | blockEnd
  | flowSequenceStart
  | flowSequenceEnd
  | flowMappingStart
  | flowMappingEnd
  | blockEntry
  | flowEntry
  | key
  | value
  | reference (anchor : String)
  | anchor (name : String)
  | tag (handle : Option String) (ending : String)
  | scalar (text : String) (plain : Bool)
  | streamEnd
  deriving DecidableEq, Repr

def notToken {α : Type} : Except Fault α := .error (.yaml .scanner)

/-! ## Anchors, tags and directives -/

/-- The name of an anchor or of a reference to one, behind its mark. -/
def takeAnchor (c : Cursor) : Except Fault (String × Cursor) :=
  let name := c.run isWordChar
  let c := c.skip name.length
  if name.isEmpty then notToken
  else if endsToken c.peek || (c.peek.map "?:,]\x7d%@`".toList.contains).getD false then
    .ok (String.ofList name, c)
  else notToken

/-- The octets that escapes in a tag's address stand for. -/
def takeOctets : Nat → Cursor → Except Fault (List UInt8 × Cursor)
  | 0, c => .ok ([], c)
  | fuel + 1, c =>
    if c.peek != some '%' then .ok ([], c)
    else do
      let c := c.next
      let digits := c.rest.take 2
      match hexNumber? digits with
      | some n =>
        if digits.length < 2 then notToken
        else
          let (more, c) ← takeOctets fuel (c.skip 2)
          return (UInt8.ofNat n :: more, c)
      | none => notToken

/-- The address of a tag; escaped octets have to be a text. -/
def takeAddressFrom : Nat → Cursor → Except Fault (List Char × Cursor)
  | 0, c => .ok ([], c)
  | fuel + 1, c => do
    match c.peek with
    | some '%' =>
      let (octets, c) ← takeOctets c.rest.length c
      match String.fromUTF8? ⟨octets.toArray⟩ with
      | some s =>
        let (more, c) ← takeAddressFrom fuel c
        return (s.toList ++ more, c)
      | none => notToken
    | some ch =>
      if isAddressChar ch then
        let (more, c) ← takeAddressFrom fuel c.next
        return (ch :: more, c)
      else return ([], c)
    | none => return ([], c)

/-- The address of a tag, which is not empty. -/
def takeAddress (c : Cursor) : Except Fault (String × Cursor) := do
  let (cs, after) ← takeAddressFrom (c.rest.length + 1) c
  if after.index = c.index then notToken else return (String.ofList cs, after)

/-- The handle of a tag: an exclamation mark, or a word between two. -/
def takeHandle (c : Cursor) : Except Fault (String × Cursor) :=
  if c.peek != some '!' then notToken
  else if c.peekAt 1 == some ' ' then .ok ("!", c.next)
  else
    let word := c.next.run isWordChar
    let after := c.skip (word.length + 1)
    if after.peek == some '!' then .ok (String.ofList ('!' :: word ++ ['!']), after.next)
    else notToken

/-- Whether an exclamation mark stands before the next end of a word. -/
def hasSecondMark (c : Cursor) : Bool :=
  (c.rest.takeWhile fun ch => !endsWord (some ch)).contains '!'

def takeTag (c : Cursor) : Except Fault (Token × Cursor) := do
  let (token, c) ← (
    if c.peekAt 1 == some '<' then do
      let (address, c) ← takeAddress (c.skip 2)
      if c.peek == some '>' then return (Token.tag none address, c.next) else notToken
    else if endsToken (c.peekAt 1) then return (Token.tag none "!", c.next)
    else do
      let (handle, c) ← if hasSecondMark c.next then takeHandle c else pure ("!", c.next)
      let (ending, c) ← takeAddress c
      return (Token.tag (some handle) ending, c) : Except Fault (Token × Cursor))
  if endsWord c.peek then return (token, c) else notToken

def takeNumber (c : Cursor) : Except Fault (Nat × Cursor) :=
  let ds := c.run Text.isDigit
  if ds.isEmpty then notToken else .ok (Text.digitsValue ds, c.skip ds.length)

def takeDirectiveValue (name : List Char) (c : Cursor) : Except Fault (Token × Cursor) :=
  if name = "YAML".toList then do
    let (major, c) ← takeNumber c.skipSpaces
    if c.peek != some '.' then notToken
    else
      let (minor, c) ← takeNumber c.next
      if endsWord c.peek then return (.version major minor, c) else notToken
  else if name = "TAG".toList then do
    let (handle, c) ← takeHandle c.skipSpaces
    if c.peek != some ' ' then notToken
    else
      let (address, c) ← takeAddress c.skipSpaces
      if endsWord c.peek then return (.handle handle address, c) else notToken
  else .ok (.directive, c.skipLine)

/-- The rest of a line that may hold spaces and a comment only, and its break. -/
def skipBareLine (c : Cursor) : Except Fault Cursor :=
  let c := c.skipSpaces.skipComment
  if endsLine c.peek then .ok c.takeBreak.2 else notToken

def takeDirective (c : Cursor) : Except Fault (Token × Cursor) := do
  let name := c.next.run isWordChar
  let c := c.skip (name.length + 1)
  if name.isEmpty || !endsWord c.peek then notToken
  else
    let (token, c) ← takeDirectiveValue name c
    return (token, ← skipBareLine c)

/-! ## Block scalars -/

/-- What the header of a block scalar says about its final line breaks. -/
inductive Chomping where
  | strip
  | clip
  | keep
  deriving DecidableEq

/-- The sign in the header of a block scalar. -/
def chomping? : Option Char → Option Chomping
  | some '+' => some .keep
  | some '-' => some .strip
  | _ => none

/-- The indentation that the header of a block scalar gives; zero is refused. -/
def takeIncrement (c : Cursor) : Except Fault (Option Nat × Cursor) :=
  match c.peek with
  | some ch =>
    if Text.isDigit ch then
      if ch = '0' then notToken else .ok (some (Text.digitValue ch), c.next)
    else .ok (none, c)
  | none => .ok (none, c)

/-- The header of a block scalar, a sign and a digit in either order. -/
def takeBlockHeader (c : Cursor) : Except Fault (Chomping × Option Nat × Cursor) := do
  let (chomping, increment, c) ←
    match chomping? c.peek with
    | some chomping => do
      let (increment, c) ← takeIncrement c.next
      pure (chomping, increment, c)
    | none => do
      let (increment, c) ← takeIncrement c
      match increment, chomping? c.peek with
      | some _, some chomping => pure (chomping, increment, c.next)
      | _, _ => pure (Chomping.clip, increment, c)
  if endsWord c.peek then return (chomping, increment, ← skipBareLine c) else notToken

/-- Line breaks and spaces before the first line of a block scalar, and the widest indentation among
them. -/
def takeLeadingBreaks : Nat → Nat → Cursor → List Char × Nat × Cursor
  | 0, widest, c => ([], widest, c)
  | fuel + 1, widest, c =>
    match c.peek with
    | some ch =>
      if ch = ' ' then
        let c := c.next
        takeLeadingBreaks fuel (max widest c.column) c
      else if isBreak ch then
        let (br, c) := c.takeBreak
        let (more, widest, c) := takeLeadingBreaks fuel widest c
        (br ++ more, widest, c)
      else ([], widest, c)
    | none => ([], widest, c)

/-- The place behind spaces, but not further than column `indent`. -/
def skipIndent (indent : Nat) (c : Cursor) : Cursor :=
  c.skip (min (c.run (· == ' ')).length (indent - c.column))

/-- Line breaks between the lines of a block scalar, and the indentation after them. -/
def takeBlockBreaks (indent : Nat) : Nat → Cursor → List Char × Cursor
  | 0, c => ([], c)
  | fuel + 1, c =>
    let c := skipIndent indent c
    match c.peek with
    | some ch =>
      if isBreak ch then
        let (br, c) := c.takeBreak
        let (more, c) := takeBlockBreaks indent fuel c
        (br ++ more, c)
      else ([], c)
    | none => ([], c)

def beforeBlank (c : Cursor) : Bool := c.peek == some ' ' || c.peek == some '\t'

/-- The lines of a block scalar, `breaks` being the breaks before the next one. -/
def takeBlockLines (folded : Bool) (chomping : Chomping) (indent : Nat) :
    Nat → List Char → List Char → Cursor → List Char × Cursor
  | 0, _, _, c => ([], c)
  | fuel + 1, ending, breaks, c =>
    if c.column = indent && c.peek.isSome then
      let flush := !beforeBlank c
      let body := c.run fun ch => !isBreak ch
      let (br, c) := (c.skip body.length).takeBreak
      let (more, c) := takeBlockBreaks indent (c.rest.length + 1) c
      let goesOn := c.column = indent && c.peek.isSome
      let between :=
        if !goesOn then []
        else if folded && br = ['\n'] && flush && !beforeBlank c then
          if more.isEmpty then [' '] else []
        else br
      let (tail, c) := takeBlockLines folded chomping indent fuel br more c
      (breaks ++ body ++ between ++ tail, c)
    else
      let tail :=
        match chomping with
        | .strip => []
        | .clip => ending
        | .keep => ending ++ breaks
      (tail, c)

/-- A block scalar from behind its mark; `parent` is the indentation around it. -/
def takeBlockScalar (folded : Bool) (parent : Int) (c : Cursor) :
    Except Fault (Token × Cursor) := do
  let (chomping, increment, c) ← takeBlockHeader c
  let least := max 1 (parent + 1).toNat
  let fuel := c.rest.length + 1
  let (indent, breaks, c) :=
    match increment with
    | none =>
      let (breaks, widest, c) := takeLeadingBreaks fuel 0 c
      (max least widest, breaks, c)
    | some n =>
      let indent := least + n - 1
      let (breaks, c) := takeBlockBreaks indent fuel c
      (indent, breaks, c)
  let (text, c) := takeBlockLines folded chomping indent fuel [] breaks c
  return (.scalar (String.ofList text) false, c)

/-! ## Quoted scalars -/

/-- The characters that stand for others behind a backslash. -/
def escapes : List (Char × Nat) :=
  [('0', 0), ('a', 7), ('b', 8), ('t', 9), ('\t', 9), ('n', 10), ('v', 11), ('f', 12), ('r', 13),
   ('e', 27), (' ', 32), ('"', 34), ('\\', 92), ('/', 47), ('N', 0x85), ('_', 0xA0), ('L', 0x2028),
   ('P', 0x2029)]

/-- The count of hexadecimal digits behind an escape for a code point. -/
def escapeWidth? : Char → Option Nat
  | 'x' => some 2
  | 'u' => some 4
  | 'U' => some 8
  | _ => none

def lastCodePoint : Nat := 0x10FFFF

/-- Blank lines inside a quoted scalar; a mark of a document is refused there. -/
def takeQuotedBreaks : Nat → Cursor → Except Fault (List Char × Cursor)
  | 0, c => .ok ([], c)
  | fuel + 1, c =>
    if c.atDocumentMarker then notToken
    else
      let c := c.skipRun fun ch => ch == ' ' || ch == '\t'
      if (c.peek.map isBreak).getD false then do
        let (br, c) := c.takeBreak
        let (more, c) ← takeQuotedBreaks fuel c
        return (br ++ more, c)
      else .ok ([], c)

/-- The character that an escape stands for, from behind its backslash. -/
def takeEscape (c : Cursor) : Except Fault (List Char × Cursor) :=
  match c.peek with
  | none => notToken
  | some ch =>
    match escapes.lookup ch, escapeWidth? ch with
    | some n, _ => .ok ([Char.ofNat n], c.next)
    | none, some width =>
      let digits := c.next.rest.take width
      match hexNumber? digits with
      | some n =>
        if digits.length < width then notToken
        else if lastCodePoint < n then .error (.codePoint n)
        else .ok ([Char.ofNat n], c.skip (width + 1))
      | none => notToken
    | none, none =>
      if isBreak ch then
        let c := c.takeBreak.2
        takeQuotedBreaks (c.rest.length + 1) c
      else notToken

/-- A character of a quoted scalar that is neither blank nor special. -/
def isQuotedPlain (ch : Char) : Bool :=
  !(ch == '\'' || ch == '"' || ch == '\\' || ch == ' ' || ch == '\t' || isBreak ch)

/-- The part of a quoted scalar up to a blank or the closing quote. -/
def takeQuotedWord (double : Bool) : Nat → Cursor → Except Fault (List Char × Cursor)
  | 0, c => .ok ([], c)
  | fuel + 1, c => do
    let body := c.run isQuotedPlain
    let c := c.skip body.length
    let goOn (part : List Char × Cursor) : Except Fault (List Char × Cursor) := do
      let (more, c) ← takeQuotedWord double fuel part.2
      return (body ++ part.1 ++ more, c)
    match double, c.peek with
    | false, some '\'' =>
      if c.peekAt 1 == some '\'' then goOn (['\''], c.skip 2) else return (body, c)
    | false, some '"' => goOn (['"'], c.next)
    | false, some '\\' => goOn (['\\'], c.next)
    | true, some '\'' => goOn (['\''], c.next)
    | true, some '\\' => goOn (← takeEscape c.next)
    | _, _ => return (body, c)

/-- Blanks inside a quoted scalar: a single line break is a space, further ones stay. -/
def takeQuotedBlanks (c : Cursor) : Except Fault (List Char × Cursor) :=
  let blanks := c.run fun ch => ch == ' ' || ch == '\t'
  let c := c.skip blanks.length
  match c.peek with
  | none => notToken
  | some ch =>
    if isBreak ch then do
      let (br, c) := c.takeBreak
      let (more, c) ← takeQuotedBreaks (c.rest.length + 1) c
      if br != ['\n'] then return (br ++ more, c)
      else if more.isEmpty then return ([' '], c)
      else return (more, c)
    else .ok (blanks, c)

/-- Words and blanks of a quoted scalar up to the closing quote. -/
def takeQuotedFrom (quote : Char) : Nat → Cursor → Except Fault (List Char × Cursor)
  | 0, _ => notToken
  | fuel + 1, c => do
    let (word, c) ← takeQuotedWord (quote == '"') (c.rest.length + 1) c
    if c.peek == some quote then return (word, c.next)
    else
      let (blanks, c) ← takeQuotedBlanks c
      let (more, c) ← takeQuotedFrom quote fuel c
      return (word ++ blanks ++ more, c)

def takeQuoted (quote : Char) (c : Cursor) : Except Fault (Token × Cursor) := do
  let (text, c) ← takeQuotedFrom quote (c.rest.length + 1) c
  return (.scalar (String.ofList text) false, c)

/-! ## Plain scalars -/

/-- An indicator that ends plain scalars inside brackets. -/
def isFlowIndicator (ch : Char) : Bool := ",?[]\x7b\x7d".toList.contains ch

/-- Whether a plain scalar ends before the first of these characters. -/
def endsPlain (flow : Bool) : List Char → Bool
  | [] => true
  | ch :: rest =>
    endsToken (some ch) ||
      (ch == ':' && (endsToken rest.head? ||
        (flow && (rest.head?.map ",[]\x7b\x7d".toList.contains).getD false))) ||
      (flow && isFlowIndicator ch)

/-- The characters of a plain scalar up to a blank. -/
def plainWord (flow : Bool) : List Char → List Char
  | [] => []
  | ch :: rest => if endsPlain flow (ch :: rest) then [] else ch :: plainWord flow rest

/-- Blank lines inside a plain scalar; `none` before a mark of a document. -/
def takePlainBreaks : Nat → Cursor → Option (List Char) × Cursor
  | 0, c => (some [], c)
  | fuel + 1, c =>
    match c.peek with
    | some ch =>
      if ch = ' ' then takePlainBreaks fuel c.next
      else if isBreak ch then
        let (br, c) := c.takeBreak
        if c.atDocumentMarker then (none, c)
        else
          let (more, c) := takePlainBreaks fuel c
          (more.map (br ++ ·), c)
      else (some [], c)
    | none => (some [], c)

/-- Blanks inside a plain scalar, and whether a line ended; there are none before a mark of a
document. -/
def takePlainBlanks (c : Cursor) : List Char × Bool × Cursor :=
  let spaces := c.run (· == ' ')
  let c := c.skip spaces.length
  if (c.peek.map isBreak).getD false then
    let (br, c) := c.takeBreak
    if c.atDocumentMarker then ([], true, c)
    else
      match takePlainBreaks (c.rest.length + 1) c with
      | (none, c) => ([], true, c)
      | (some more, c) =>
        if br != ['\n'] then (br ++ more, true, c)
        else if more.isEmpty then ([' '], true, c)
        else (more, true, c)
  else (spaces, false, c)

/-- A plain scalar with the place behind it, and whether a line ended behind its last word. -/
structure PlainScalar where
  text : List Char
  lineEnded : Bool
  after : Cursor

/-- Words and blanks of a plain scalar, `blanks` standing before the next word. -/
def takePlainFrom (flow : Bool) (indent : Int) :
    Nat → List Char → Bool → Cursor → PlainScalar
  | 0, _, ended, c => ⟨[], ended, c⟩
  | fuel + 1, blanks, ended, c =>
    let word := plainWord flow c.rest
    if c.peek == some '#' || word.isEmpty then ⟨[], ended, c⟩
    else
      let (more, ended, c) := takePlainBlanks (c.skip word.length)
      if more.isEmpty || c.peek == some '#' || (!flow && (c.column : Int) < indent) then
        ⟨blanks ++ word, ended, c⟩
      else
        let tail := takePlainFrom flow indent fuel more ended c
        ⟨blanks ++ word ++ tail.text, tail.lineEnded, tail.after⟩

/-- A plain scalar; outside brackets its lines are indented by `indent` at least. -/
def takePlain (flow : Bool) (indent : Int) (c : Cursor) : PlainScalar :=
  takePlainFrom flow indent (c.rest.length + 1) [] false c

end WarehouseSchema.Yaml
