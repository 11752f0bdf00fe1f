import Mathlib.Data.List.Infix
import TamperWatch.Text.Search

/-!
# Texts inside joined texts

A beginning can be taken off exactly from the texts that have it (`Text.after?_eq_some_iff`), and a
text holds another one exactly if that one is an infix of it (`Text.holds_iff`). Where texts are
joined by a separator that shares no character with what is looked for, nothing is found across a
joint. Main statement: texts so joined hold a text exactly if one of them does
(`Text.holds_intercalate`).
-/

namespace TamperWatch.Text

/-- A beginning can be taken off exactly from the texts that have it. -/
lemma after?_eq_some_iff {head s rest : String} : after? head s = some rest ↔ s = head ++ rest := by
  constructor
  · intro h
    obtain ⟨cs, hcs, rfl⟩ := Option.map_eq_some_iff.1 h
    rw [← String.toList_inj, String.toList_append, String.toList_ofList]
    exact dropHead?_eq_some_iff.1 hcs
  · rintro rfl
    refine Option.map_eq_some_iff.2 ⟨rest.toList, ?_, String.ofList_toList⟩
    exact dropHead?_eq_some_iff.2 (String.toList_append ..)

/-- A search finds a part exactly if it is an infix. -/
lemma occursIn_iff {part cs : List Char} : occursIn part cs = true ↔ part <:+: cs := by
  induction cs with
  | nil => simp [occursIn]
  | cons c cs ih =>
    rw [occursIn, Bool.or_eq_true, List.isPrefixOf_iff_prefix, ih, List.infix_cons_iff]

/-- A text holds another exactly if that is an infix of it. -/
lemma holds_iff {s part : String} : holds s part = true ↔ part.toList <:+: s.toList :=
  occursIn_iff

/-- What occurs around a character that is no part of it stands before or after that character. -/
lemma infix_append_cons {part xs ys : List Char} {c : Char} (h : c ∉ part) :
    part <:+: xs ++ c :: ys ↔ part <:+: xs ∨ part <:+: ys := by
  constructor
  · intro hpart
    rcases List.infix_append_iff.1 hpart with hxs | hys | ⟨left, right, rfl, hleft, hright⟩
    · exact .inl hxs
    · rcases List.infix_cons_iff.1 hys with hhead | hys
      · rcases List.prefix_cons_iff.1 hhead with rfl | ⟨rest, rfl, _⟩
        · exact .inl List.nil_infix
        · exact absurd List.mem_cons_self h
      · exact .inr hys
    · rcases List.prefix_cons_iff.1 hright with rfl | ⟨rest, rfl, _⟩
      · rw [List.append_nil]
        exact .inl hleft.isInfix
      · exact absurd (List.mem_append_right _ List.mem_cons_self) h
  · rintro (hxs | hys)
    · exact hxs.trans (List.prefix_append _ _).isInfix
    · exact hys.trans ((List.suffix_cons _ _).trans (List.suffix_append _ _)).isInfix

/-- A part without the characters of a separator lies on one side of it. -/
lemma infix_append_separator {part xs sep ys : List Char} (hne : sep ≠ [])
    (h : ∀ c ∈ sep, c ∉ part) : part <:+: xs ++ sep ++ ys ↔ part <:+: xs ∨ part <:+: ys := by
  rw [List.append_assoc]
  induction sep generalizing xs with
  | nil => exact absurd rfl hne
  | cons c sep ih =>
    obtain ⟨hc, hsep⟩ := List.forall_mem_cons.1 h
    rw [List.cons_append, infix_append_cons hc]
    cases sep with
    | nil => rfl
    | cons d sep =>
      -- Nothing but an empty part stands between two characters of the separator.
      have hrest : part <:+: [] ++ (d :: sep ++ ys) ↔ part <:+: [] ∨ part <:+: ys :=
        ih (List.cons_ne_nil d sep) hsep
      have hnil : part <:+: [] → part <:+: xs := fun hnil => hnil.trans List.nil_infix
      rw [List.nil_append] at hrest
      rw [hrest]
      tauto

/-- A text without the characters of a separator is held by what stands on one side of it. -/
lemma holds_append_separator {s sep s' part : String} (hne : sep ≠ "")
    (h : ∀ c ∈ sep.toList, c ∉ part.toList) :
    holds (s ++ sep ++ s') part = (holds s part || holds s' part) := by
  have hsep : sep.toList ≠ [] := fun hnil => hne (String.toList_eq_nil_iff.1 hnil)
  rw [Bool.eq_iff_iff, Bool.or_eq_true, holds_iff, holds_iff, holds_iff, String.toList_append,
    String.toList_append, infix_append_separator hsep h]

/-- Texts that are joined hold what one of them holds. -/
lemma holds_intercalate {sep part : String} (hne : sep ≠ "") (hpart : part ≠ "")
    (h : ∀ c ∈ sep.toList, c ∉ part.toList) (ss : List String) :
    holds (sep.intercalate ss) part = ss.any (holds · part) := by
  induction ss with
  | nil =>
    have hnil : part.toList ≠ [] := fun hnil => hpart (String.toList_eq_nil_iff.1 hnil)
    cases hlist : part.toList with
    | nil => exact absurd hlist hnil
    | cons c cs => simp [holds, occursIn, hlist]
  | cons s ss ih =>
    cases ss with
    | nil => simp
    | cons s' ss =>
      rw [String.intercalate_cons_cons, holds_append_separator hne h, ih]
      rfl

/-- A text with a character that another one lacks is not found in it. -/
lemma holds_eq_false_of_mem {s part : String} {c : Char} (hc : c ∈ part.toList)
    (hs : c ∉ s.toList) : holds s part = false := by
  by_contra hholds
  have hfound : part.toList <:+: s.toList := holds_iff.1 (Bool.not_eq_false _ ▸ hholds)
  exact hs (hfound.subset hc)

end TamperWatch.Text
