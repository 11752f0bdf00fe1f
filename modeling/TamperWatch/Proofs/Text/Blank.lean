import Mathlib.Data.List.DropRight
import TamperWatch.Text.Blank

/-!
# Texts without blanks at their ends

Cutting a class of characters off the two ends of a text takes away characters of the class only
(`Text.exists_eq_stripList`) and leaves none at either end. So it leaves nothing for a second cut,
and more of them at the ends change nothing. Main statements: a trimmed text is trimmed to itself
(`Text.trim_trim`), and a text between blanks is trimmed as without them (`Text.trim_padded`).
-/

namespace TamperWatch.Text

/-- What is left starts with the first character that the cut at the front kept. -/
lemma dropWhile_stripList (p : Char → Bool) (cs : List Char) :
    (stripList p cs).dropWhile p = stripList p cs := by
  rw [List.dropWhile_eq_self_iff]
  intro hpos
  have hhead := (List.rdropWhile_prefix p (l := cs.dropWhile p)).getElem hpos
  show ¬p ((cs.dropWhile p).rdropWhile p)[0] = true
  rw [hhead]
  exact List.dropWhile_get_zero_not p cs _

/-- A stripped list has nothing left to strip at its end. -/
lemma rdropWhile_stripList (p : Char → Bool) (cs : List Char) :
    (stripList p cs).rdropWhile p = stripList p cs :=
  List.rdropWhile_idempotent p (cs.dropWhile p)

/-- To strip twice is to strip once. -/
lemma stripList_stripList (p : Char → Bool) (cs : List Char) :
    stripList p (stripList p cs) = stripList p cs := by
  show ((stripList p cs).dropWhile p).rdropWhile p = stripList p cs
  rw [dropWhile_stripList, rdropWhile_stripList]

/-- What is cut off at the two ends is of the class. -/
lemma exists_eq_stripList (p : Char → Bool) (cs : List Char) :
    ∃ before after, cs = before ++ stripList p cs ++ after ∧
      (∀ c ∈ before, p c = true) ∧ ∀ c ∈ after, p c = true := by
  refine ⟨cs.takeWhile p, (cs.dropWhile p).rtakeWhile p, ?_, fun c => List.mem_takeWhile_imp,
    fun c => List.mem_rtakeWhile_imp⟩
  have hback : stripList p cs ++ (cs.dropWhile p).rtakeWhile p = cs.dropWhile p := by
    unfold stripList List.rtakeWhile
    rw [← List.reverse_append, List.takeWhile_append_dropWhile, List.reverse_reverse]
  rw [List.append_assoc, hback, List.takeWhile_append_dropWhile]

/-- What is left does not begin with a character of the class. -/
lemma head?_stripList {p : Char → Bool} {cs : List Char} {c : Char}
    (h : (stripList p cs).head? = some c) : p c = false := by
  obtain ⟨rest, hrest⟩ := List.head?_eq_some_iff.1 h
  have hkept := dropWhile_stripList p cs
  rw [hrest] at hkept
  by_contra hc
  rw [List.dropWhile_cons_of_pos (Bool.not_eq_false _ ▸ hc)] at hkept
  have hlength := (List.dropWhile_suffix (l := rest) p).length_le
  rw [hkept, List.length_cons] at hlength
  omega

/-- What is left does not end with a character of the class. -/
lemma getLast?_stripList {p : Char → Bool} {cs : List Char} {c : Char}
    (h : (stripList p cs).getLast? = some c) : p c = false := by
  obtain ⟨hne, hlast⟩ := List.mem_getLast?_eq_getLast h
  rw [hlast]
  exact Bool.eq_false_iff.2 (List.rdropWhile_eq_self_iff.1 (rdropWhile_stripList p cs) hne)

/-- A text is left as it is if neither of its ends is of the class. -/
lemma stripList_eq_self {p : Char → Bool} {cs : List Char}
    (hhead : ∀ c, cs.head? = some c → p c = false)
    (hlast : ∀ c, cs.getLast? = some c → p c = false) : stripList p cs = cs := by
  have hfront : cs.dropWhile p = cs := by
    cases cs with
    | nil => rfl
    | cons c cs => exact List.dropWhile_cons_of_neg (by simp [hhead c rfl])
  have hback : cs.rdropWhile p = cs := by
    rw [List.rdropWhile_eq_self_iff]
    intro hne
    simp [hlast _ (List.getLast?_eq_some_getLast hne)]
  show (cs.dropWhile p).rdropWhile p = cs
  rw [hfront, hback]

/-- To trim twice is to trim once. -/
lemma trim_trim (s : String) : trim (trim s) = trim s := by
  unfold trim strip
  rw [String.toList_ofList, stripList_stripList]

/-- Characters that are cut off anyway change nothing at either end. -/
lemma stripList_padded {p : Char → Bool} {before after : List Char} (cs : List Char)
    (hbefore : ∀ c ∈ before, p c = true) (hafter : ∀ c ∈ after, p c = true) :
    stripList p (before ++ cs ++ after) = stripList p cs := by
  have hfront : (before ++ cs ++ after).dropWhile p = (cs ++ after).dropWhile p := by
    rw [List.append_assoc]
    exact List.dropWhile_append_of_pos hbefore
  have hback : ∀ rest : List Char, (rest ++ after).rdropWhile p = rest.rdropWhile p := by
    intro rest
    unfold List.rdropWhile
    rw [List.reverse_append,
      List.dropWhile_append_of_pos fun c hc => hafter c (List.mem_reverse.1 hc)]
  show ((before ++ cs ++ after).dropWhile p).rdropWhile p = (cs.dropWhile p).rdropWhile p
  rw [hfront, List.dropWhile_append]
  split
  · rename_i hnone
    rw [List.isEmpty_iff.1 hnone, List.dropWhile_eq_nil_iff.2 hafter]
  · exact hback _

/-- Blanks around a text do not change what is left of it once it is trimmed. -/
lemma trim_padded {before after cs : List Char} (hbefore : ∀ c ∈ before, isBlank c = true)
    (hafter : ∀ c ∈ after, isBlank c = true) :
    trim (String.ofList (before ++ cs ++ after)) = trim (String.ofList cs) := by
  unfold trim strip
  rw [String.toList_ofList, String.toList_ofList, stripList_padded cs hbefore hafter]

/-- Blanks around a text are trimmed away. -/
lemma trim_append {before after : String} (s : String)
    (hbefore : ∀ c ∈ before.toList, isBlank c = true)
    (hafter : ∀ c ∈ after.toList, isBlank c = true) : trim (before ++ s ++ after) = trim s := by
  have htext : before ++ s ++ after =
      String.ofList (before.toList ++ s.toList ++ after.toList) := by
    simp [String.append_assoc]
  rw [htext, trim_padded hbefore hafter, String.ofList_toList]

/-- Nothing is left exactly of the texts that hold blanks only. -/
lemma trim_eq_empty_iff {s : String} : trim s = "" ↔ ∀ c ∈ s.toList, isBlank c = true := by
  constructor
  · intro h
    obtain ⟨before, after, hs, hbefore, hafter⟩ := exists_eq_stripList isBlank s.toList
    have hnone : stripList isBlank s.toList = [] := by
      rw [← String.toList_ofList (l := stripList isBlank s.toList)]
      exact String.toList_eq_nil_iff.2 h
    rw [hs, hnone, List.append_nil]
    intro c hc
    exact (List.mem_append.1 hc).elim (hbefore c) (hafter c)
  · intro h
    unfold trim strip
    rw [stripList_eq_nil h, String.ofList_nil]

/-- A text without blanks is trimmed to itself. -/
lemma trim_eq_self {cs : List Char} (h : ∀ c ∈ cs, isBlank c = false) :
    trim (String.ofList cs) = String.ofList cs := by
  have hself : stripList isBlank cs = cs :=
    stripList_eq_self (fun c hc => h c (List.mem_of_head? hc))
      (fun c hc => h c (List.mem_of_getLast? hc))
  rw [trim, strip, String.toList_ofList, hself]

end TamperWatch.Text
