/-!
Cutting, replacing and padding of characters. Main statement: joining the parts that `splitOn`
gives with the separator between them restores the text.
-/

namespace WarehouseSchema.Text

/-- The parts between the occurrences of `sep`; there is always at least one. -/
def splitOn (sep : Char) : List Char → List (List Char)
  | [] => [[]]
  | c :: cs =>
    if c = sep then [] :: splitOn sep cs
    else
      match splitOn sep cs with
      | [] => [[c]]
      | part :: parts => (c :: part) :: parts

theorem splitOn_ne_nil (sep : Char) (cs : List Char) : splitOn sep cs ≠ [] := by
  cases cs with
  | nil => simp [splitOn]
  | cons c cs =>
    rw [splitOn]
    split
    · simp
    · split <;> simp

theorem intercalate_splitOn (sep : Char) (cs : List Char) :
    [sep].intercalate (splitOn sep cs) = cs := by
  induction cs with
  | nil => rfl
  | cons c cs ih =>
    rw [splitOn]
    cases h : splitOn sep cs with
    | nil => exact absurd h (splitOn_ne_nil sep cs)
    | cons part parts =>
      rw [h] at ih
      by_cases hc : c = sep
      · subst hc
        rw [if_pos rfl, ← ih]
        simp [List.intercalate, List.intersperse]
      · rw [if_neg hc, ← ih]
        cases parts <;> simp [List.intercalate, List.intersperse]

/-- `replaceFrom pat rep k cs` drops `k` characters and then puts `rep` for each occurrence of
`pat`, from the left and without overlap. -/
def replaceFrom (pat rep : List Char) : Nat → List Char → List Char
  | _, [] => []
  | k + 1, _ :: cs => replaceFrom pat rep k cs
  | 0, c :: cs =>
    if pat.isPrefixOf (c :: cs) then rep ++ replaceFrom pat rep (pat.length - 1) cs
    else c :: replaceFrom pat rep 0 cs

/-- The characters with `rep` for each occurrence of the non-empty `pat`. -/
def replaceAll (pat rep cs : List Char) : List Char :=
  if pat = [] then cs else replaceFrom pat rep 0 cs

def lines (s : String) : List String := (splitOn '\n' s.toList).map String.ofList

/-- The characters with a line feed for each carriage return, alone or before a line feed. -/
def unifyLinesChars : List Char → List Char
  | [] => []
  | '\r' :: '\n' :: cs => '\n' :: unifyLinesChars cs
  | c :: cs => (if c = '\r' then '\n' else c) :: unifyLinesChars cs

/-- The text with every line ended by a line feed. -/
def unifyLines (s : String) : String := String.ofList (unifyLinesChars s.toList)

def repeated (c : Char) (n : Nat) : String := String.ofList (List.replicate n c)

/-- The text with spaces after it up to `width` characters. -/
def padEnd (width : Nat) (s : String) : String := s ++ repeated ' ' (width - s.length)

/-- The text with spaces before it up to `width` characters. -/
def padStart (width : Nat) (s : String) : String := repeated ' ' (width - s.length) ++ s

/-- Whether `part` occurs in the text as a run of neighbouring characters. -/
def occursIn (part : List Char) : List Char → Bool
  | [] => part.isEmpty
  | c :: cs => part.isPrefixOf (c :: cs) || occursIn part cs

end WarehouseSchema.Text
