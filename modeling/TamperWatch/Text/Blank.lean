/-!
# Blank characters

The characters with the Unicode property White_Space, and cutting a class of characters off the
two ends of a text. Main statement: of characters of the class alone nothing is left
(`Text.stripList_eq_nil`).
-/

namespace TamperWatch.Text

/-- A character of the Unicode property White_Space. -/
def isBlank (c : Char) : Bool :=
  let n := c.toNat
  (0x9 ≤ n && n ≤ 0xd) || n == 0x20 || n == 0x85 || n == 0xa0 || n == 0x1680 ||
    (0x2000 ≤ n && n ≤ 0x200a) || n == 0x2028 || n == 0x2029 || n == 0x202f || n == 0x205f ||
    n == 0x3000

/-- The characters left when those of a class are cut off at both ends. -/
def stripList (p : Char → Bool) (cs : List Char) : List Char :=
  ((cs.dropWhile p).reverse.dropWhile p).reverse

/-- A text without the characters of a class at its two ends. -/
def strip (p : Char → Bool) (s : String) : String :=
  String.ofList (stripList p s.toList)

/-- A text without blanks at its two ends. -/
def trim (s : String) : String :=
  strip isBlank s

/-- Nothing is left of characters of the class alone. -/
theorem stripList_eq_nil {p : Char → Bool} {cs : List Char} (h : ∀ c ∈ cs, p c = true) :
    stripList p cs = [] := by
  have : cs.dropWhile p = [] := by
    induction cs with
    | nil => rfl
    | cons c cs ih =>
      rw [List.dropWhile_cons_of_pos (h c List.mem_cons_self)]
      exact ih fun d hd => h d (List.mem_cons_of_mem c hd)
  simp [stripList, this]

example : trim "\u00a0 a b\u3000\n" = "a b" := by decide
example : trim "\u200ba\ufeff" = "\u200ba\ufeff" := by decide

end TamperWatch.Text
