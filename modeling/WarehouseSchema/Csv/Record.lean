import WarehouseSchema.Fault

/-!
Records of comma-separated values. A field may stand in quotes, where commas and line ends belong to
it and a doubled quote is one; behind the closing quote it goes on as a bare field. Lines without
anything but blanks do not count. A record is as wide as the one before it: a shorter one is filled
up with empty fields, a longer one is refused, but the first record after the header may have more
fields than the header.
-/

namespace WarehouseSchema.Csv

/-- A blank that may stand alone on a line that does not count. -/
def isFieldBlank (c : Char) : Bool := c == ' ' || c == '\t'

def endsField (c : Char) : Bool := c == ',' || c == '\n' || c == '\r'

def takeBare (cs : List Char) : List Char × List Char := cs.span fun c => !endsField c

/-- The characters of a field behind its opening quote and what follows the field; `none` when the
closing quote is missing. -/
def takeQuoted : List Char → Option (List Char × List Char)
  | [] => none
  | '"' :: '"' :: cs => (takeQuoted cs).map fun (body, rest) => ('"' :: body, rest)
  | '"' :: cs => some (takeBare cs)
  | c :: cs => (takeQuoted cs).map fun (body, rest) => (c :: body, rest)

def takeField (cs : List Char) : Option (List Char × List Char) :=
  match cs with
  | '"' :: body => takeQuoted body
  | _ => some (takeBare cs)

def fieldText (cs : List Char) : String := String.ofList (cs.takeWhile (·.toNat != 0))

/-- The fields of the record at the front of a text and what follows its line end, within `fuel`
fields; `none` when a closing quote is missing. -/
def takeFields : Nat → List Char → Option (List String × List Char)
  | 0, cs => some ([], cs)
  | fuel + 1, cs => do
    let (field, rest) ← takeField cs
    match rest with
    | ',' :: more => do
      let (fields, rest) ← takeFields fuel more
      return (fieldText field :: fields, rest)
    | '\r' :: '\n' :: more | '\r' :: more | '\n' :: more => return ([fieldText field], more)
    | rest => return ([fieldText field], rest)

/-- The text at the next line that counts, and the number of lines passed over, within `fuel`
lines. A comma right behind a carriage return that ends such a line is passed over with it. -/
def skipBlankLines : Nat → List Char → List Char × Nat
  | 0, cs => (cs, 0)
  | fuel + 1, cs =>
    let go (rest : List Char) : List Char × Nat :=
      let (rest, n) := skipBlankLines fuel rest
      (rest, n + 1)
    match cs.dropWhile isFieldBlank with
    | [] => ([], 0)
    | '\n' :: rest => go rest
    | '\r' :: '\n' :: rest => go rest
    | '\r' :: ',' :: rest => go rest
    | '\r' :: rest => go rest
    | _ => (cs, 0)

/-- The records of a text, at most `limit` of them. `index` counts the records before, `width` is the
width of the last one and `line` the number of lines passed. -/
def takeRecords : (limit index width line : Nat) → List Char →
    Except CsvFault (List (List String))
  | 0, _, _, _, _ => .ok []
  | limit + 1, index, width, line, cs =>
    let (cs, blank) := skipBlankLines (cs.length + 1) cs
    let line := line + blank
    if cs = [] then .ok []
    else
      match takeFields (cs.length + 1) cs with
      | none => .error (.openQuote line)
      | some (fields, rest) =>
        if 2 ≤ index && width < fields.length then
          .error (.fieldCount width (line + 1) fields.length)
        else
          let filled := if index = 0 then fields
            else fields ++ List.replicate (width - fields.length) ""
          match takeRecords limit (index + 1) filled.length (line + 1) rest with
          | .ok records => .ok (filled :: records)
          | .error fault => .error fault

/-- The characters of a text without the mark of its byte order. -/
def dropMark (cs : List Char) : List Char :=
  match cs with
  | c :: rest => if c.toNat = 0xFEFF then rest else cs
  | [] => []

/-- The records of a text, the first one being the header, at most `limit` of them. -/
def readRecords (limit : Nat) (text : String) : Except CsvFault (List (List String)) :=
  takeRecords limit 0 0 0 (dropMark text.toList)

end WarehouseSchema.Csv
