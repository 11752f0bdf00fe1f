import Mathlib.Data.List.Basic
import TamperWatch.Text.Search

/-!
# Texts in pieces

Cutting a text at a separator undoes joining texts by it. There is one piece more than there are
separators (`Text.length_pieces`), and joined texts are cut into the pieces of both
(`Text.pieces_append`); without a separator between them the two pieces at the joint are one
(`Text.exists_pieces_append`). Main statement: a text is cut into two pieces exactly if it is the
two, joined by the separator, and neither of them holds another one (`Text.pieces_eq_pair_iff`).
-/

namespace TamperWatch.Text

variable {separator : Char} {s t u : String}

/-- A text has at least one piece. -/
lemma pieces_ne_nil (separator : Char) (s : String) : pieces separator s ≠ [] := by
  intro h
  exact List.splitOn_ne_nil separator s.toList (List.map_eq_nil_iff.1 h)

/-- A text without the separator is one piece. -/
lemma pieces_eq_singleton (h : separator ∉ s.toList) : pieces separator s = [s] := by
  simp [pieces, List.splitOn_eq_singleton h]

/-- Joined by the separator, two texts are cut where they were joined. -/
lemma pieces_append (separator : Char) (s t : String) :
    pieces separator (s ++ String.singleton separator ++ t) =
      pieces separator s ++ pieces separator t := by
  have hjoined : (s ++ String.singleton separator ++ t).toList =
      s.toList ++ separator :: t.toList := by simp
  unfold pieces
  rw [hjoined, List.splitOn_append_cons_self, List.map_append]

/-- The pieces joined by the separator are the text. -/
lemma intercalate_pieces (separator : Char) (s : String) :
    (String.singleton separator).intercalate (pieces separator s) = s := by
  rw [← String.toList_inj, String.toList_intercalate, pieces, List.map_map]
  have hlists : String.toList ∘ String.ofList = id := funext fun _ => String.toList_ofList
  rw [hlists, List.map_id, String.toList_singleton, List.intercalate_splitOn]

/-- A text has one piece more than separators. -/
lemma length_pieces (separator : Char) (s : String) :
    (pieces separator s).length = s.toList.count separator + 1 := by
  rw [pieces, List.length_map]
  induction s.toList with
  | nil => rfl
  | cons c cs ih =>
    rw [List.splitOn_cons_eq_if_modifyHead, List.count_cons]
    split
    · rw [List.length_cons, ih]
    · rw [List.length_modifyHead, ih, Nat.add_zero]

/-- A text is cut in two exactly where its only separator stands. -/
lemma pieces_eq_pair_iff :
    pieces separator s = [t, u] ↔
      s = t ++ String.singleton separator ++ u ∧ separator ∉ t.toList ∧ separator ∉ u.toList := by
  constructor
  · intro h
    have hjoined : s = t ++ String.singleton separator ++ u := by
      rw [← intercalate_pieces separator s, h, String.intercalate_cons_cons,
        String.intercalate_singleton]
    have hcount : s.toList.count separator + 1 = 2 := by
      rw [← length_pieces, h]
      rfl
    rw [hjoined] at hcount
    simp only [String.toList_append, String.toList_singleton, List.count_append,
      List.count_singleton_self] at hcount
    refine ⟨hjoined, List.count_eq_zero.1 ?_, List.count_eq_zero.1 ?_⟩ <;> omega
  · rintro ⟨rfl, ht, hu⟩
    rw [pieces_append, pieces_eq_singleton ht, pieces_eq_singleton hu]
    rfl

/-- A text with one separator is two pieces. -/
lemma exists_pair_iff :
    s.toList.count separator = 1 ↔
      ∃ t u, s = t ++ String.singleton separator ++ u ∧ separator ∉ t.toList ∧
        separator ∉ u.toList := by
  have hlength : s.toList.count separator = 1 ↔ (pieces separator s).length = 2 := by
    rw [length_pieces]
    omega
  rw [hlength, List.length_eq_two]
  exact exists_congr fun t => exists_congr fun u => pieces_eq_pair_iff

/-- Where two texts meet, the last piece of the first and the first piece of the second are one. -/
lemma splitOn_append (separator : Char) (cs ds : List Char) :
    ∃ front last first back, cs.splitOn separator = front ++ [last] ∧
      ds.splitOn separator = first :: back ∧
      (cs ++ ds).splitOn separator = front ++ (last ++ first) :: back := by
  obtain ⟨first, back, hds⟩ := List.exists_cons_of_ne_nil (List.splitOn_ne_nil separator ds)
  induction cs with
  | nil => exact ⟨[], [], first, back, rfl, hds, hds⟩
  | cons c cs ih =>
    obtain ⟨front, last, first', back', hcs, hds', hboth⟩ := ih
    rw [List.cons_append, List.splitOn_cons_eq_if_modifyHead, List.splitOn_cons_eq_if_modifyHead,
      hcs, hboth]
    split
    · exact ⟨[] :: front, last, first', back', rfl, hds', rfl⟩
    · cases front with
      | nil => exact ⟨[], c :: last, first', back', rfl, hds', rfl⟩
      | cons f front => exact ⟨(c :: f) :: front, last, first', back', rfl, hds', rfl⟩

/-- Joined without a separator, the last piece of one text and the first of the other grow
together. -/
lemma exists_pieces_append (separator : Char) (s t : String) :
    ∃ front last first back, pieces separator s = front ++ [last] ∧
      pieces separator t = first :: back ∧
      pieces separator (s ++ t) = front ++ (last ++ first) :: back := by
  obtain ⟨front, last, first, back, hs, ht, hboth⟩ := splitOn_append separator s.toList t.toList
  refine ⟨front.map String.ofList, String.ofList last, String.ofList first,
    back.map String.ofList, ?_, ?_, ?_⟩
  · simp [pieces, hs]
  · simp [pieces, ht]
  · simp [pieces, hboth, String.ofList_append]

/-- A text in front makes the first piece longer, if it holds no separator. -/
lemma exists_pieces_append_left (h : separator ∉ s.toList) (t : String) :
    ∃ first, pieces separator (s ++ t) = (s ++ first) :: (pieces separator t).tail := by
  obtain ⟨front, last, first, back, hs, ht, hboth⟩ := exists_pieces_append separator s t
  rw [pieces_eq_singleton h] at hs
  obtain ⟨rfl, rfl⟩ : front = [] ∧ last = s := by
    cases front with
    | nil => exact ⟨rfl, (List.cons.inj hs).1.symm⟩
    | cons f front => simp at hs
  exact ⟨first, by rw [hboth, ht, List.nil_append, List.tail_cons]⟩

/-- A text behind makes the last piece longer, if it holds no separator. -/
lemma eq_or_eq_of_mem_tail_pieces_append (h : separator ∉ t.toList) {line : String}
    (hline : line ∈ (pieces separator (s ++ t)).tail) :
    ∃ l ∈ (pieces separator s).tail, line = l ∨ line = l ++ t := by
  obtain ⟨front, last, first, back, hs, ht, hboth⟩ := exists_pieces_append separator s t
  rw [pieces_eq_singleton h] at ht
  obtain ⟨rfl, rfl⟩ := List.cons.inj ht
  rw [hboth] at hline
  rw [hs]
  cases front with
  | nil => cases hline
  | cons f front =>
    rcases List.mem_append.1 hline with hline | hline
    · exact ⟨line, List.mem_append_left _ hline, .inl rfl⟩
    · exact ⟨last, List.mem_append_right _ (List.mem_singleton.2 rfl),
        .inr (List.mem_singleton.1 hline)⟩

end TamperWatch.Text
