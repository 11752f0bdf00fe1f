/-!
# Searching and cutting texts

Cutting a text at a separator, taking off a known beginning, and looking for one text inside
another. Main statement: a beginning is taken off exactly from the texts that start with it.
-/

namespace TamperWatch.Text

/-- The pieces of a text between the separators; there is always at least one. -/
def pieces (separator : Char) (s : String) : List String :=
  (s.toList.splitOn separator).map String.ofList

/-- What follows a given beginning, if the characters have it. -/
def dropHead? : List Char → List Char → Option (List Char)
  | [], cs => some cs
  | _ :: _, [] => none
  | h :: hs, c :: cs => if h = c then dropHead? hs cs else none

/-- What follows a given beginning of a text, if the text has it. -/
def after? (head : String) (s : String) : Option String :=
  (dropHead? head.toList s.toList).map String.ofList

/-- Some part of the characters `cs` is `part`. -/
def occursIn (part : List Char) : List Char → Bool
  | [] => part.isEmpty
  | c :: cs => part.isPrefixOf (c :: cs) || occursIn part cs

/-- A text holds another one. -/
def holds (s part : String) : Bool :=
  occursIn part.toList s.toList

/-- A beginning can be taken off exactly where it stands. -/
theorem dropHead?_eq_some_iff {head cs rest : List Char} :
    dropHead? head cs = some rest ↔ cs = head ++ rest := by
  induction head generalizing cs with
  | nil => simp [dropHead?, eq_comm]
  | cons h hs ih =>
    cases cs with
    | nil => simp [dropHead?]
    | cons c cs =>
      by_cases hc : h = c
      · simp [dropHead?, hc, ih]
      · simp [dropHead?, hc, eq_comm]

example : pieces '.' "a..b" = ["a", "", "b"] := by decide
example : after? "lab/" "lab/x" = some "x" := by decide
example : holds "XTS_AES_128_KEY (R/W)" "128" = true := by decide

end TamperWatch.Text
