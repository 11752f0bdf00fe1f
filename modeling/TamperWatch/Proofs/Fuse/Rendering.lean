import TamperWatch.Proofs.Fuse.Coercion
import TamperWatch.Proofs.Text.Blank

/-!
# Reading back what was rendered

A number can be written in three bases, in either letter case, with zeros before its digits and
blanks around it. `FuseValue.Rendering` lists the ways to write it. Every rendering is a numeral of
its number, and a numeral holds no blank, so that what blanks stand around it is all that trimming
takes away. Main statement: all renderings of a number are read as that number, and a wrapper is
read as what it wraps (`FuseValue.ofJson_rendering`).
-/

namespace TamperWatch.FuseValue

open Numeral

/-- The ways to write a number, with any number of zeros before its digits. -/
inductive Rendering : Int → List Char → Prop where
  | decimal {n zeros : Nat} :
    Rendering n (List.replicate zeros '0' ++ Nat.toDigits 10 n)
  | negative {n zeros : Nat} :
    Rendering (-n) ('-' :: (List.replicate zeros '0' ++ Nat.toDigits 10 n))
  | hex {n zeros : Nat} {x digits} :
    x.toLower = 'x' →
    digits.map Char.toLower = Nat.toDigits 16 n →
    Rendering n ('0' :: x :: (List.replicate zeros '0' ++ digits))
  | binary {n zeros : Nat} {x} :
    x.toLower = 'b' →
    Rendering n ('0' :: x :: (List.replicate zeros '0' ++ Nat.toDigits 2 n))

/-- A number that is written in one of the ways is a numeral for it. -/
lemma Rendering.isNumeral {n : Int} {w : List Char} (h : Rendering n w) : IsNumeral w n := by
  cases h with
  | decimal => exact .decimal ((denotes_toDigits (by decide) (by decide) _).zeros _)
  | negative => exact .negative ((denotes_toDigits (by decide) (by decide) _).zeros _)
  | @hex n zeros x digits hx hdigits =>
    have hlower : Denotes 16 (digits.map Char.toLower) n :=
      hdigits ▸ denotes_toDigits (by decide) (by decide) n
    exact .based (.hex hx) ((denotes_map_toLower.1 hlower).zeros _)
  | binary hx => exact .based (.binary hx) ((denotes_toDigits (by decide) (by decide) _).zeros _)

/-- The text of a number is a rendering of it. -/
lemma rendering_toString (n : Int) : Rendering n (toString n).toList := by
  cases n with
  | ofNat n =>
    have htext : (toString (Int.ofNat n)).toList = Nat.toDigits 10 n := by
      show (toString n).toList = _
      rw [Nat.toString_eq_ofList_toDigits, String.toList_ofList]
    rw [htext]
    exact @Rendering.decimal n 0
  | negSucc n =>
    have htext : (toString (Int.negSucc n)).toList = '-' :: Nat.toDigits 10 (n + 1) := by
      show ("-" ++ toString (n + 1)).toList = _
      simp
    rw [htext]
    exact @Rendering.negative (n + 1) 0

/-- A numeral holds no blank. -/
lemma IsNumeral.isBlank_eq_false {w : List Char} {n : Int} (h : IsNumeral w n) :
    ∀ c ∈ w, Text.isBlank c = false := by
  cases h with
  | decimal h => exact isBlank_eq_false_of_denotes (by decide) h
  | negative h =>
    exact List.forall_mem_cons.2 ⟨by decide, isBlank_eq_false_of_denotes (by decide) h⟩
  | based hp h =>
    have hdigits := isBlank_eq_false_of_denotes hp.base_le h
    cases hp with
    | hex hx | binary hx =>
      refine List.forall_mem_cons.2 ⟨by decide, List.forall_mem_cons.2 ⟨?_, hdigits⟩⟩
      rcases eq_or_eq_toUpper_of_toLower hx with rfl | rfl <;> decide

/-- A numeral between blanks is read as its number. -/
lemma ofText_of_isNumeral {w before after : List Char} {n : Int} (h : IsNumeral w n)
    (hfits : fitsSigned n = true) (hbefore : ∀ c ∈ before, Text.isBlank c = true)
    (hafter : ∀ c ∈ after, Text.isBlank c = true) :
    ofText (String.ofList (before ++ w ++ after)) = int n := by
  have hplain : (String.ofList w).toList = w := String.toList_ofList
  unfold ofText
  rw [Text.trim_padded hbefore hafter, Text.trim_eq_self h.isBlank_eq_false]
  exact IsNumeral.ofToken (hplain.symm ▸ h) hfits

/-- A wrapper is read as what it wraps, unless that is an object. -/
lemma ofJson_wrapper {members : Json.Members} {v : Json} (hv : members.lookup "value" = some v)
    (hplain : v.members? = none) : ofJson (.object members) = ofJson v := by
  cases v with
  | object => cases hplain
  | _ => simp [ofJson, hv]

/-- Numbers survive writing and reading. A number of a word is read back from the number, from its
text and from any of its renderings between blanks; an object with a member `value` and any other
members is read as that member if it is no object, and nothing is found in it otherwise. -/
theorem ofJson_rendering :
    (∀ n, fitsSigned n = true →
      ofJson (.int n) = int n ∧
      ofJson (.string (toString n)) = int n ∧
      ∀ w before after, Rendering n w → (∀ c ∈ before, Text.isBlank c = true) →
        (∀ c ∈ after, Text.isBlank c = true) →
        ofJson (.string (String.ofList (before ++ w ++ after))) = int n) ∧
    (∀ members v, members.lookup "value" = some v → v.members? = none →
      ofJson (.object members) = ofJson v) ∧
    ∀ members inner, members.lookup "value" = some (.object inner) →
      ofJson (.object members) = notFound := by
  have hrendering : ∀ n, fitsSigned n = true → ∀ w before after, Rendering n w →
      (∀ c ∈ before, Text.isBlank c = true) → (∀ c ∈ after, Text.isBlank c = true) →
      ofJson (.string (String.ofList (before ++ w ++ after))) = int n :=
    fun n hfits w before after hw => ofText_of_isNumeral hw.isNumeral hfits
  refine ⟨fun n hfits => ⟨?_, ?_, hrendering n hfits⟩, fun _ _ => ofJson_wrapper, ?_⟩
  · show (if fitsSigned n then int n else notFound) = int n
    rw [if_pos hfits]
  · have htext := hrendering n hfits (toString n).toList [] [] (rendering_toString n) (by simp)
      (by simp)
    rwa [List.nil_append, List.append_nil, String.ofList_toList] at htext
  · intro members inner hinner
    simp [ofJson, hinner, ofPlainJson]

/-- Capitals after zeros and between blanks, the least number of a word, and a wrapper with one more
member. -/
theorem ofJson_rendering_padded_hex :
    ofJson (.string "\u2003\t0X00fF\u00a0") = int 255 ∧
      ofJson (.string "-9223372036854775808") = int (-9223372036854775808) ∧
      ofJson (.object [("unit", .null), ("value", .string "0B011")]) = ofJson (.string "0B011") ∧
      ofJson (.object [("value", .object [("value", .int 1)])]) = notFound := by
  obtain ⟨hnumber, hwrapper, hnested⟩ := ofJson_rendering
  obtain ⟨_, _, hpadded⟩ := hnumber 255 (by decide)
  obtain ⟨_, hleast, _⟩ := hnumber (-9223372036854775808) (by decide)
  have hhex : Rendering 255 ['0', 'X', '0', '0', 'f', 'F'] :=
    @Rendering.hex 255 2 'X' ['f', 'F'] (by decide) (by decide)
  have htext : "\u2003\t0X00fF\u00a0" =
      String.ofList (['\u2003', '\t'] ++ ['0', 'X', '0', '0', 'f', 'F'] ++ ['\u00a0']) := by
    decide +kernel
  have hleastText : toString (-9223372036854775808 : Int) = "-9223372036854775808" := by
    decide +kernel
  have hbefore : ∀ c ∈ ['\u2003', '\t'], Text.isBlank c = true := by simp [Text.isBlank]
  have hafter : ∀ c ∈ ['\u00a0'], Text.isBlank c = true := by simp [Text.isBlank]
  rw [hleastText] at hleast
  rw [htext]
  exact ⟨hpadded _ _ _ hhex hbefore hafter, hleast, hwrapper _ _ rfl rfl, hnested _ _ rfl⟩

end TamperWatch.FuseValue
