import TamperWatch.Proofs.Text.Blank
import TamperWatch.Proofs.Text.Numeral

/-!
# Tokens

A token is compared without the blanks around it and in lower case. The two commute, and each is
done once and for all (`Text.trim_toLower`, `Text.toLower_toLower`). Quotes around a text are cut
off exactly where they were put, if no quote is first or last in the text (`Text.strip_quoted`).
-/

namespace TamperWatch.Text

/-- Letter case does not matter for blanks. -/
lemma isBlank_toLower (c : Char) : isBlank c.toLower = isBlank c := by
  by_cases hc : c.isUpper = true
  · have hrange : 'A' ≤ c ∧ c ≤ 'Z' := by
      simpa [Char.isUpper, Char.le_def] using hc
    obtain ⟨k, hk, rfl⟩ := Numeral.exists_eq_ofNat hrange
    revert k
    decide
  · rw [Char.toLower_eq_of_not_isUpper hc]

/-- To strip and to replace characters commute if replaced ones are stripped alike. -/
lemma stripList_map {p : Char → Bool} {f : Char → Char} (h : ∀ c, p (f c) = p c)
    (cs : List Char) : stripList p (cs.map f) = (stripList p cs).map f := by
  have hclass : p ∘ f = p := funext h
  unfold stripList
  rw [List.dropWhile_map, hclass, ← List.map_reverse, List.dropWhile_map, hclass, List.map_reverse]

/-- To trim and to lower the letter case commute. -/
lemma trim_toLower (s : String) : trim s.toLower = (trim s).toLower := by
  rw [← String.toList_inj]
  simp [trim, strip, String.toLower, String.toList_map, stripList_map isBlank_toLower]

/-- To lower the letter case twice is to lower it once. -/
lemma toLower_toLower (s : String) : s.toLower.toLower = s.toLower := by
  rw [← String.toList_inj]
  simp [String.toLower, String.toList_map]

/-- What neither begins nor ends with a character has none of it to strip. -/
lemma stripList_beq_eq_self {q : Char} {cs : List Char} (hhead : cs.head? ≠ some q)
    (hlast : cs.getLast? ≠ some q) : stripList (· == q) cs = cs := by
  refine stripList_eq_self (fun c hc => beq_false_of_ne ?_) (fun c hc => beq_false_of_ne ?_)
  · rintro rfl
    exact hhead hc
  · rintro rfl
    exact hlast hc

/-- A text that begins with a character outside the class still begins with it after the cut. -/
lemma head?_stripList_of_neg {p : Char → Bool} {cs : List Char} {c : Char} (hc : p c = false)
    (h : cs.head? = some c) : (stripList p cs).head? = some c := by
  obtain ⟨rest, rfl⟩ := List.head?_eq_some_iff.1 h
  obtain ⟨before, after, hs, hbefore, hafter⟩ := exists_eq_stripList p (c :: rest)
  have hkept : ∀ cut : List Char, (∀ d ∈ cut, p d = true) → c ∉ cut := by
    intro cut hcut hmem
    simp [hcut c hmem] at hc
  cases before with
  | cons d before =>
    rw [List.cons_append, List.cons_append] at hs
    exact absurd (List.mem_cons.2 (.inl (List.cons.inj hs).1)) (hkept _ hbefore)
  | nil =>
    cases hcore : stripList p (c :: rest) with
    | nil =>
      rw [hcore, List.nil_append, List.nil_append] at hs
      exact absurd (hs ▸ List.mem_cons_self) (hkept _ hafter)
    | cons d core =>
      rw [hcore, List.nil_append, List.cons_append] at hs
      rw [List.head?_cons, (List.cons.inj hs).1]

/-- Which end is cut first does not matter. -/
lemma stripList_reverse (p : Char → Bool) (cs : List Char) :
    stripList p cs.reverse = (stripList p cs).reverse := by
  obtain ⟨before, after, hs, hbefore, hafter⟩ := exists_eq_stripList p cs
  have hself : stripList p (stripList p cs).reverse = (stripList p cs).reverse := by
    refine stripList_eq_self (fun c hc => ?_) (fun c hc => ?_)
    · exact getLast?_stripList (List.head?_reverse ▸ hc)
    · exact head?_stripList (List.getLast?_reverse ▸ hc)
  conv_lhs => rw [hs, List.reverse_append, List.reverse_append, ← List.append_assoc]
  rw [stripList_padded _ (by simpa using hafter) (by simpa using hbefore), hself]

/-- A text that ends with a character outside the class still ends with it after the cut. -/
lemma getLast?_stripList_of_neg {p : Char → Bool} {cs : List Char} {c : Char} (hc : p c = false)
    (h : cs.getLast? = some c) : (stripList p cs).getLast? = some c := by
  rw [← List.head?_reverse, ← stripList_reverse]
  exact head?_stripList_of_neg hc (by rwa [List.head?_reverse])

/-- Quotes around a text can be cut off again, if its trimmed form has none at its ends. -/
lemma strip_quoted {s : String} {q : Char} (hq : isBlank q = false)
    (hhead : (trim s).toList.head? ≠ some q) (hlast : (trim s).toList.getLast? ≠ some q) :
    strip (· == q) (String.singleton q ++ s ++ String.singleton q) = s := by
  rw [trim, strip, String.toList_ofList] at hhead hlast
  have hends : stripList (· == q) s.toList = s.toList :=
    stripList_beq_eq_self (fun h => hhead (head?_stripList_of_neg hq h))
      (fun h => hlast (getLast?_stripList_of_neg hq h))
  have htext : (String.singleton q ++ s ++ String.singleton q).toList = [q] ++ s.toList ++ [q] := by
    simp
  rw [strip, htext, stripList_padded _ (by simp) (by simp), hends, String.ofList_toList]

/-- A text between characters that are no blanks has no blanks to trim away. -/
lemma trim_enclosed (first last : Char) (hfirst : isBlank first = false)
    (hlast : isBlank last = false) (s : String) :
    trim (String.singleton first ++ s ++ String.singleton last) =
      String.singleton first ++ s ++ String.singleton last := by
  have htext : (String.singleton first ++ s ++ String.singleton last).toList =
      [first] ++ s.toList ++ [last] := by
    simp
  have hself : stripList isBlank ([first] ++ s.toList ++ [last]) =
      [first] ++ s.toList ++ [last] := by
    refine stripList_eq_self (fun c hc => ?_) (fun c hc => ?_)
    · cases hc
      exact hfirst
    · rw [List.getLast?_concat] at hc
      cases hc
      exact hlast
  rw [trim, strip, htext, hself, ← htext, String.ofList_toList]

end TamperWatch.Text
