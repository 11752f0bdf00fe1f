import Mathlib

/-!
# The order of doubles

Two doubles are ordered unless one of them is not a number: then neither is below the other
(`FloatOrder.not_lt_of_isNaN`), nor equal to it. All others have a place in one linear order
(`FloatOrder.compare_eq_lt_iff`). Main statements: one double is at most another exactly if both are
numbers and the other is not below it (`FloatOrder.le_iff`), and what is at most a double is below
everything above that (`FloatOrder.lt_of_le_of_lt`).
-/

namespace TamperWatch.FloatOrder

open Float.Model

/-- Two doubles cannot be compared exactly if one of them is not a number. -/
lemma compare_eq_none_iff {a b : UnpackedFloat} :
    a.compare b = none ↔ a.isNaN = true ∨ b.isNaN = true := by
  fun_cases UnpackedFloat.compare a b <;> simp_all [UnpackedFloat.isNaN]

/-- Signs in the other order compare the other way round. -/
lemma compare_sign_swap (s t : UnpackedFloat.Sign) : compare t s = (compare s t).swap := by
  cases s <;> cases t <;> rfl

/-- Compared the other way round, two doubles are in the opposite order. -/
lemma compare_swap (a b : UnpackedFloat) : b.compare a = (a.compare b).map Ordering.swap := by
  fun_cases UnpackedFloat.compare a b
  -- no number on the left
  case case1 => exact compare_eq_none_iff.2 (.inr rfl)
  -- two infinities
  case case3 s t => exact congrArg some (compare_sign_swap s t)
  -- two finite doubles of one sign: by exponents and then by significands
  case case13 | case16 =>
    simp [UnpackedFloat.compare, Ordering.swap_then, Int.compare_swap, Nat.compare_swap]
  all_goals simp_all [UnpackedFloat.compare]

/-- One float is below another exactly if their unpacked forms compare so. -/
lemma lt_iff {a b : Float} : a < b ↔ a.toModel.unpack.compare b.toModel.unpack = some .lt := by
  show a.lt b = true ↔ _
  unfold Float.lt
  rw [decide_eq_true_iff]
  exact beq_iff_eq

/-- One float is at most another exactly if their unpacked forms compare so. -/
lemma le_iff_any {a b : Float} :
    a ≤ b ↔ (a.toModel.unpack.compare b.toModel.unpack).any Ordering.isLE = true := by
  show a.le b = true ↔ _
  unfold Float.le
  rw [decide_eq_true_iff]
  rfl

/-- A double that is not a number is neither below nor above another. -/
theorem not_lt_of_isNaN {a b : Float} (h : a.isNaN = true ∨ b.isNaN = true) : ¬a < b := by
  have hnone : a.toModel.unpack.compare b.toModel.unpack = none := compare_eq_none_iff.2 h
  rw [lt_iff, hnone]
  exact nofun

/-- One double is at most another exactly if both are numbers and the other is not below it. -/
theorem le_iff {a b : Float} : a ≤ b ↔ a.isNaN = false ∧ b.isNaN = false ∧ ¬b < a := by
  have hnan : a.toModel.unpack.compare b.toModel.unpack = none ↔ a.isNaN = true ∨ b.isNaN = true :=
    compare_eq_none_iff
  rw [lt_iff, le_iff_any, compare_swap a.toModel.unpack]
  cases horder : a.toModel.unpack.compare b.toModel.unpack with
  | none =>
    have hnot : ¬(a.isNaN = false ∧ b.isNaN = false) := by
      rintro ⟨ha, hb⟩
      rcases hnan.1 horder with h | h
      · exact Bool.false_ne_true (ha.symm.trans h)
      · exact Bool.false_ne_true (hb.symm.trans h)
    exact ⟨nofun, fun h => absurd ⟨h.1, h.2.1⟩ hnot⟩
  | some order =>
    have hnumber : ¬(a.isNaN = true ∨ b.isNaN = true) := fun h =>
      Option.some_ne_none order (horder.symm.trans (hnan.2 h))
    obtain ⟨ha, hb⟩ := not_or.1 hnumber
    rw [and_iff_right (Bool.eq_false_iff.2 ha), and_iff_right (Bool.eq_false_iff.2 hb)]
    cases order <;> decide

/-- Where one double is not below another, it is at least the other if both are numbers. -/
lemma le_iff_of_not_lt {a b : Float} (h : ¬b < a) : a ≤ b ↔ a.isNaN = false ∧ b.isNaN = false := by
  rw [le_iff, and_iff_left h]

/-- The place of a number in their order, from the lowest up: negative infinity, negative numbers,
zero, positive numbers, infinity. Finite numbers of one sign go by exponents and then by
significands. -/
def place? : UnpackedFloat → Option (ℤ ×ₗ ℤ ×ₗ ℤ)
  | .notANumber => none
  | .infinity .negative => some (toLex (-2, toLex (0, 0)))
  | .finite .negative m e _ => some (toLex (-1, toLex (-e, -m)))
  | .zero _ => some (toLex (0, toLex (0, 0)))
  | .finite .positive m e _ => some (toLex (1, toLex (e, m)))
  | .infinity .positive => some (toLex (2, toLex (0, 0)))

/-- Only what is no number has no place in the order. -/
lemma place?_eq_none_iff {a : UnpackedFloat} : place? a = none ↔ a.isNaN = true := by
  fun_cases place? a <;> simp [UnpackedFloat.isNaN]

/-- One double is below another exactly if both have a place and its own is the lower one. -/
lemma compare_eq_lt_iff {a b : UnpackedFloat} :
    a.compare b = some .lt ↔ ∃ x ∈ place? a, ∃ y ∈ place? b, x < y := by
  fun_cases place? a <;> fun_cases place? b
  -- two infinities
  case case2.case6 =>
    simp [UnpackedFloat.compare, Prod.Lex.lt_iff]
    rfl
  -- two finite doubles of one sign
  case case3.case3 | case5.case5 =>
    simp [UnpackedFloat.compare, Prod.Lex.lt_iff, Ordering.then_eq_lt, Ordering.then_eq_gt,
      Int.compare_eq_gt, Int.compare_eq_lt, Nat.compare_eq_gt, Nat.compare_eq_lt]
  all_goals simp [UnpackedFloat.compare, Prod.Lex.lt_iff]

/-- What is at most a double is below everything above that. -/
theorem lt_of_le_of_lt {a b c : Float} (hab : a ≤ b) (hbc : b < c) : a < c := by
  obtain ⟨ha, -, hnot⟩ := le_iff.1 hab
  obtain ⟨y, hy, z, hz, hyz⟩ := compare_eq_lt_iff.1 (lt_iff.1 hbc)
  obtain ⟨x, hx⟩ : ∃ x, place? a.toModel.unpack = some x := by
    rw [← Option.ne_none_iff_exists', Ne, place?_eq_none_iff]
    exact Bool.eq_false_iff.1 ha
  have hxy : x ≤ y := by
    refine not_lt.1 fun hyx => hnot ?_
    exact lt_iff.2 (compare_eq_lt_iff.2 ⟨y, hy, x, hx, hyx⟩)
  exact lt_iff.2 (compare_eq_lt_iff.2 ⟨x, hx, z, hz, hxy.trans_lt hyz⟩)

/-- Of two equal doubles, zeros of either sign among them, none is below the other. -/
theorem not_lt_of_beq {a b : Float} (h : (a == b) = true) : ¬a < b := by
  have heq : a.toModel.unpack.compare b.toModel.unpack = some .eq := eq_of_beq h
  rw [lt_iff, heq]
  exact nofun

end TamperWatch.FloatOrder
