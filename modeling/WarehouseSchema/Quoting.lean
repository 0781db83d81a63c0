import WarehouseSchema.Text.Basic

/-!
Quoted identifiers and literals. A quoted text stands between two quotes, and a quote inside it is
written twice. Main statements: `scan`, which reads up to the first quote that is not doubled, takes
back what was quoted from any text that does not begin with a quote, so that quoting is injective.
-/

namespace WarehouseSchema

open Text

namespace Quoting

def identifierQuote : List Char := ['"']

def literalQuote : List Char := ['\'']

/-- The text between two quotes, each quote inside written twice. -/
def quoteChars (quote cs : List Char) : List Char :=
  quote ++ replaceAll quote (quote ++ quote) cs ++ quote

/-- The text with each occurrence of one character doubled. -/
def double (q : Char) (cs : List Char) : List Char :=
  cs.flatMap fun c => if c = q then [q, q] else [c]

theorem replaceFrom_single (q : Char) (cs : List Char) :
    replaceFrom [q] [q, q] 0 cs = double q cs := by
  induction cs with
  | nil => rfl
  | cons c cs ih =>
    rw [replaceFrom]
    by_cases h : c = q
    · subst h
      simp [double, ih]
    · have hq : q ≠ c := fun e => h e.symm
      simp [double, ih, h, hq]

/-- Quoting with a single character writes that character twice inside. -/
theorem quoteChars_single (q : Char) (cs : List Char) :
    quoteChars [q] cs = q :: double q cs ++ [q] := by
  simp [quoteChars, replaceAll, replaceFrom_single]

/-- What stands before the first quote that is not doubled, and the rest behind that quote; `none`
when there is no such quote. -/
def scan (q : Char) : List Char → Option (List Char × List Char)
  | [] => none
  | c :: cs =>
    if c = q then
      match cs with
      | [] => some ([], [])
      | d :: ds => if d = q then (scan q ds).map fun (s, rest) => (q :: s, rest)
        else some ([], d :: ds)
    else (scan q cs).map fun (s, rest) => (c :: s, rest)

/-- Reading after an opening quote takes back what was quoted. -/
theorem scan_double (q : Char) (cs rest : List Char) (h : rest.head? ≠ some q) :
    scan q (double q cs ++ q :: rest) = some (cs, rest) := by
  induction cs with
  | nil =>
    cases rest with
    | nil => simp [double, scan]
    | cons d ds =>
      have hd : d ≠ q := by simpa using h
      simp [double, scan, hd]
  | cons c cs ih =>
    by_cases hc : c = q
    · subst hc
      simpa [double, scan] using ih
    · have hd : double q (c :: cs) ++ q :: rest = c :: (double q cs ++ q :: rest) := by
        simp [double, hc]
      rw [hd, scan.eq_def]
      simp [hc, ih]

end Quoting

def quoteIdentifierWith (quote name : String) : String :=
  String.ofList (Quoting.quoteChars quote.toList name.toList)

def quoteIdentifier (name : String) : String := quoteIdentifierWith "\"" name

def quoteIdentifiersWith (quote : String) (names : List String) : String :=
  ",".intercalate (names.map (quoteIdentifierWith quote))

def quoteIdentifiers (names : List String) : String := quoteIdentifiersWith "\"" names

def quoteQualifiedWith (quote schema object : String) : String :=
  quoteIdentifierWith quote schema ++ "." ++ quoteIdentifierWith quote object

def quoteQualified (schema object : String) : String := quoteQualifiedWith "\"" schema object

def quoteLiteral (text : String) : String := quoteIdentifierWith "'" text

end WarehouseSchema
