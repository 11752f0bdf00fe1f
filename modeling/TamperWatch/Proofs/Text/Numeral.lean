import Mathlib
import TamperWatch.Text.Numeral

/-!
# What numerals denote

Numerals of a base up to sixteen as an inductive relation: a digit denotes its value, and a digit
after a numeral is one more place. Reading a numeral gives exactly what it denotes
(`Numeral.natural?_eq_some_iff`, `Numeral.word?_eq_some_iff`, `Numeral.signed?_eq_some_iff`). Letter
case does not matter (`Numeral.denotes_map_toLower`), and neither do leading zeros
(`Numeral.Denotes.zeros`); the digits that core writes for a number denote it
(`Numeral.denotes_toDigits`).
-/

namespace TamperWatch.Numeral

/-- The character is the digit of a base for a value, in either letter case. -/
def IsDigit (base : Nat) (c : Char) (d : Nat) : Prop :=
  d < base ∧ c.toLower = d.digitChar

/-- One or more digits of a base denote a number. -/
inductive Denotes (base : Nat) : List Char → Nat → Prop where
  | digit {c d} :
    IsDigit base c d →
    Denotes base [c] d
  | append {cs n c d} :
    Denotes base cs n →
    IsDigit base c d →
    Denotes base (cs ++ [c]) (base * n + d)

/-- Decimal digits, perhaps after one plus sign, denote a number of an unsigned word. -/
inductive DenotesWord : List Char → Nat → Prop where
  | bare {cs n} :
    Denotes 10 cs n →
    n < 2 ^ 64 →
    DenotesWord cs n
  | plus {cs n} :
    Denotes 10 cs n →
    n < 2 ^ 64 →
    DenotesWord ('+' :: cs) n

/-- Digits of a base, perhaps after one sign, denote a number. -/
inductive DenotesSigned (base : Nat) : List Char → Int → Prop where
  | bare {cs n} :
    Denotes base cs n →
    DenotesSigned base cs n
  | plus {cs n} :
    Denotes base cs n →
    DenotesSigned base ('+' :: cs) n
  | minus {cs n} :
    Denotes base cs n →
    DenotesSigned base ('-' :: cs) (-n)

/-- A character is its lower-case form or the upper-case form of that. -/
lemma eq_or_eq_toUpper_of_toLower {c x : Char} (h : c.toLower = x) : c = x ∨ c = x.toUpper := by
  subst h
  by_cases hc : c.isUpper
  · right
    rw [Char.toUpper_toLower_eq_toUpper]
    exact (Char.toUpper_eq_of_not_isLower (Char.not_isLower_of_isUpper hc)).symm
  · left
    exact (Char.toLower_eq_of_not_isUpper hc).symm

/-- A character of a range is one of finitely many. -/
lemma exists_eq_ofNat {lo hi c : Char} (h : lo ≤ c ∧ c ≤ hi) :
    ∃ k ≤ hi.toNat - lo.toNat, c = Char.ofNat (lo.toNat + k) := by
  have hlo : lo.toNat ≤ c.toNat := h.1
  have hhi : c.toNat ≤ hi.toNat := h.2
  refine ⟨c.toNat - lo.toNat, by omega, ?_⟩
  rw [Nat.add_sub_cancel' hlo, Char.ofNat_toNat]

/-- A digit of a base up to sixteen is the character of its value or that in upper case. -/
lemma IsDigit.exists_eq {base : Nat} (hb : base ≤ 16) {c : Char} {d : Nat} (h : IsDigit base c d) :
    d < 16 ∧ (c = d.digitChar ∨ c = d.digitChar.toUpper) :=
  ⟨h.1.trans_le hb, eq_or_eq_toUpper_of_toLower h.2⟩

/-- The digit character of a value is a digit for it. -/
lemma isDigit_digitChar {base : Nat} (hb : base ≤ 16) {d : Nat} (hd : d < base) :
    IsDigit base d.digitChar d := by
  have hlower : ∀ d < 16, d.digitChar.toLower = d.digitChar := by decide
  exact ⟨hd, hlower d (hd.trans_le hb)⟩

/-- In base 16 a character is read as a digit exactly if it is one. -/
lemma digit?_sixteen {c : Char} {d : Nat} : digit? 16 c = some d ↔ IsDigit 16 c d := by
  constructor
  · intro h
    simp only [digit?, Option.filter_eq_some_iff, decide_eq_true_eq] at h
    obtain ⟨hvalue, hd⟩ := h
    refine ⟨hd, ?_⟩
    -- One case for each of the three ranges of digits.
    split at hvalue
    · obtain ⟨k, hk, rfl⟩ := exists_eq_ofNat ‹_›
      cases hvalue
      clear * - hk
      revert k
      decide
    split at hvalue
    · obtain ⟨k, hk, rfl⟩ := exists_eq_ofNat ‹_›
      cases hvalue
      clear * - hk
      revert k
      decide
    split at hvalue
    · obtain ⟨k, hk, rfl⟩ := exists_eq_ofNat ‹_›
      cases hvalue
      clear * - hk
      revert k
      decide
    · cases hvalue
  · intro h
    have hread : ∀ d < 16,
        digit? 16 d.digitChar = some d ∧ digit? 16 d.digitChar.toUpper = some d := by decide
    obtain ⟨hd, rfl | rfl⟩ := h.exists_eq (Nat.le_refl 16)
    · exact (hread d hd).1
    · exact (hread d hd).2

/-- A character is read as a digit exactly if it is one of the base. -/
lemma digit?_eq_some_iff {base : Nat} (hb : base ≤ 16) {c : Char} {d : Nat} :
    digit? base c = some d ↔ IsDigit base c d := by
  have hwide : digit? base c = some d ↔ digit? 16 c = some d ∧ d < base := by
    simp only [digit?, Option.filter_eq_some_iff, decide_eq_true_eq]
    grind
  rw [hwide, digit?_sixteen]
  constructor
  · rintro ⟨⟨_, hc⟩, hd⟩
    exact ⟨hd, hc⟩
  · rintro ⟨hd, hc⟩
    exact ⟨⟨hd.trans_le hb, hc⟩, hd⟩

/-- One more digit extends what the digits before it give. -/
lemma extend?_concat (base n : Nat) (cs : List Char) (c : Char) :
    extend? base n (cs ++ [c]) =
      (extend? base n cs).bind fun m => (digit? base c).map (base * m + ·) := by
  induction cs generalizing n with
  | nil => cases h : digit? base c <;> simp [extend?, h]
  | cons x cs ih =>
    rw [List.cons_append, extend?, extend?, Option.bind_assoc]
    congr 1
    funext d
    exact ih (base * n + d)

/-- One more digit makes a number of the number that the digits before it give. -/
lemma natural?_concat (base : Nat) {cs : List Char} (hcs : cs ≠ []) (c : Char) :
    natural? base (cs ++ [c]) =
      (natural? base cs).bind fun m => (digit? base c).map (base * m + ·) := by
  unfold natural?
  rw [if_neg (by simp), if_neg (by simpa using hcs), extend?_concat]

/-- A single character is read as the digit that it is. -/
lemma natural?_singleton (base : Nat) (c : Char) : natural? base [c] = digit? base c := by
  cases h : digit? base c <;> simp [natural?, extend?, h]

/-- What denotes a number is not empty. -/
lemma Denotes.ne_nil {base : Nat} {cs : List Char} {n : Nat} (h : Denotes base cs n) : cs ≠ [] := by
  cases h with
  | digit => exact List.cons_ne_nil _ _
  | append => exact List.append_ne_nil_of_right_ne_nil _ (List.cons_ne_nil _ _)

/-- Reading digits gives the number that they denote. -/
lemma natural?_eq_some_iff {base : Nat} (hb : base ≤ 16) {cs : List Char} {n : Nat} :
    natural? base cs = some n ↔ Denotes base cs n := by
  constructor
  · intro h
    induction cs using List.reverseRecOn generalizing n with
    | nil => cases h
    | append_singleton cs c ih =>
      by_cases hcs : cs = []
      · subst hcs
        rw [List.nil_append, natural?_singleton] at h
        exact .digit ((digit?_eq_some_iff hb).1 h)
      · rw [natural?_concat base hcs] at h
        obtain ⟨m, hm, hlast⟩ := Option.bind_eq_some_iff.1 h
        obtain ⟨d, hd, rfl⟩ := Option.map_eq_some_iff.1 hlast
        exact .append (ih hm) ((digit?_eq_some_iff hb).1 hd)
  · intro h
    induction h with
    | digit hc =>
      rw [natural?_singleton]
      exact (digit?_eq_some_iff hb).2 hc
    | append hcs hc ih =>
      rw [natural?_concat base hcs.ne_nil, ih, (digit?_eq_some_iff hb).2 hc]
      rfl

/-- What denotes a number has digits of the base only. -/
lemma Denotes.isDigit_of_mem {base : Nat} {cs : List Char} {n : Nat} (h : Denotes base cs n)
    {c : Char} (hc : c ∈ cs) : ∃ d, IsDigit base c d := by
  induction h with
  | digit hd =>
    rw [List.mem_singleton.1 hc]
    exact ⟨_, hd⟩
  | append _ hd ih =>
    rcases List.mem_append.1 hc with hc | hc
    · exact ih hc
    · rw [List.mem_singleton.1 hc]
      exact ⟨_, hd⟩

/-- Characters denote a number of a base as soon as there are some and all are digits of it. -/
lemma exists_denotes_iff {base : Nat} {cs : List Char} :
    (∃ n, Denotes base cs n) ↔ cs ≠ [] ∧ ∀ c ∈ cs, ∃ d, IsDigit base c d := by
  constructor
  · rintro ⟨n, h⟩
    exact ⟨h.ne_nil, fun c => h.isDigit_of_mem⟩
  · rintro ⟨hne, hall⟩
    induction cs using List.reverseRecOn with
    | nil => exact absurd rfl hne
    | append_singleton cs c ih =>
      obtain ⟨d, hd⟩ := hall c (by simp)
      by_cases hcs : cs = []
      · subst hcs
        exact ⟨d, .digit hd⟩
      · obtain ⟨n, hn⟩ := ih hcs fun x hx => hall x (List.mem_append_left _ hx)
        exact ⟨_, .append hn hd⟩

/-- The decimal digits are the characters from 0 to 9. -/
lemma exists_isDigit_ten_iff {c : Char} : (∃ d, IsDigit 10 c d) ↔ c.isDigit = true := by
  constructor
  · rintro ⟨d, hdigit⟩
    have hdecimal : ∀ d < 10, d.digitChar.isDigit ∧ d.digitChar.toUpper.isDigit := by decide
    obtain ⟨_, rfl | rfl⟩ := hdigit.exists_eq (by decide)
    · exact (hdecimal d hdigit.1).1
    · exact (hdecimal d hdigit.1).2
  · intro h
    obtain ⟨k, hk, rfl⟩ := exists_eq_ofNat (Char.isDigit_iff_toNat.1 h)
    have hdecimal : ∀ k ≤ '9'.toNat - '0'.toNat,
        k < 10 ∧ (Char.ofNat ('0'.toNat + k)).toLower = k.digitChar := by decide
    exact ⟨k, hdecimal k hk⟩

/-- A character that is no letter and no decimal digit is a digit of no base. -/
lemma Denotes.exists_cons {cs : List Char} {n : Nat} (h : Denotes 10 cs n) :
    ∃ c rest, cs = c :: rest ∧ c.isDigit = true := by
  obtain ⟨c, rest, rfl⟩ := List.exists_cons_of_ne_nil h.ne_nil
  exact ⟨c, rest, rfl, exists_isDigit_ten_iff.1 (h.isDigit_of_mem List.mem_cons_self)⟩

/-- A character that is no digit of any value stands in no number. -/
lemma Denotes.not_mem {base : Nat} {cs : List Char} {n : Nat} (h : Denotes base cs n) {c : Char}
    (hc : ∀ d, Nat.digitChar d ≠ c.toLower) : c ∉ cs := by
  intro hmem
  obtain ⟨d, _, hd⟩ := h.isDigit_of_mem hmem
  exact hc d hd.symm

/-- No plus sign stands in a number without sign. -/
lemma Denotes.plus_not_mem {base : Nat} {cs : List Char} {n : Nat} (h : Denotes base cs n) :
    '+' ∉ cs :=
  h.not_mem fun _ => Nat.digitChar_ne '+' (by decide)

/-- No minus sign stands in a number without sign. -/
lemma Denotes.minus_not_mem {base : Nat} {cs : List Char} {n : Nat} (h : Denotes base cs n) :
    '-' ∉ cs :=
  h.not_mem fun _ => Nat.digitChar_ne '-' (by decide)

/-- The value of a decimal digit is its distance from 0. -/
lemma toNat_sub_of_digit? {c : Char} {d : Nat} (h : digit? 10 c = some d) :
    c.toNat - '0'.toNat = d := by
  have hvalue : ∀ d < 10, d.digitChar.toNat - '0'.toNat = d ∧
      d.digitChar.toUpper.toNat - '0'.toNat = d := by decide
  have hdigit := (digit?_eq_some_iff (by decide)).1 h
  obtain ⟨_, rfl | rfl⟩ := hdigit.exists_eq (by decide)
  · exact (hvalue d hdigit.1).1
  · exact (hvalue d hdigit.1).2

/-- Digits after a number only make it larger. -/
lemma le_of_extend? {base m n : Nat} {cs : List Char} (hb : 0 < base)
    (h : extend? base m cs = some n) : m ≤ n := by
  induction cs generalizing m with
  | nil =>
    cases h
    exact Nat.le_refl _
  | cons c cs ih =>
    obtain ⟨d, _, hrest⟩ := Option.bind_eq_some_iff.1 h
    calc
      m ≤ base * m := Nat.le_mul_of_pos_left m hb
      _ ≤ base * m + d := Nat.le_add_right _ d
      _ ≤ n := ih hrest

/-- Reading decimal digits gives the number that they denote, if it is one of a word. -/
lemma word?_eq_some_iff {cs : List Char} {n : Nat} : word? cs = some n ↔ DenotesWord cs n := by
  unfold word?
  rw [Option.filter_eq_some_iff]
  have hlimit : decide (n < wordLimit) = true ↔ n < 2 ^ 64 := decide_eq_true_iff
  rw [hlimit]
  split
  · rename_i rest
    rw [natural?_eq_some_iff (by decide)]
    constructor
    · rintro ⟨hdigits, hn⟩
      exact .plus hdigits hn
    · intro h
      cases h with
      | bare h => exact absurd List.mem_cons_self h.plus_not_mem
      | plus h hn => exact ⟨h, hn⟩
  · rename_i hplus
    rw [natural?_eq_some_iff (by decide)]
    constructor
    · rintro ⟨hdigits, hn⟩
      exact .bare hdigits hn
    · intro h
      cases h with
      | bare h hn => exact ⟨h, hn⟩
      | plus h => exact absurd rfl (hplus _)

/-- Reading digits after a sign gives the number that they denote, if it is one of a word. -/
lemma signed?_eq_some_iff {base : Nat} (hb : base ≤ 16) {cs : List Char} {n : Int} :
    signed? base cs = some n ↔ DenotesSigned base cs n ∧ fitsSigned n = true := by
  unfold signed?
  rw [Option.filter_eq_some_iff]
  refine and_congr_left fun _ => ?_
  split
  · rename_i rest
    rw [Option.map_eq_some_iff]
    constructor
    · rintro ⟨m, hm, rfl⟩
      exact .plus ((natural?_eq_some_iff hb).1 hm)
    · intro h
      cases h with
      | bare h => exact absurd List.mem_cons_self h.plus_not_mem
      | plus h => exact ⟨_, (natural?_eq_some_iff hb).2 h, rfl⟩
  · rename_i rest
    rw [Option.map_eq_some_iff]
    constructor
    · rintro ⟨_, hcast, rfl⟩
      obtain ⟨m, hm, ⟨⟩⟩ := Option.bind_eq_some_iff.1 hcast
      exact .minus ((natural?_eq_some_iff hb).1 hm)
    · intro h
      cases h with
      | bare h => exact absurd List.mem_cons_self h.minus_not_mem
      | minus h =>
        exact ⟨_, Option.bind_eq_some_iff.2 ⟨_, (natural?_eq_some_iff hb).2 h, rfl⟩, rfl⟩
  · rename_i hplus hminus
    rw [Option.map_eq_some_iff]
    constructor
    · rintro ⟨m, hm, rfl⟩
      exact .bare ((natural?_eq_some_iff hb).1 hm)
    · intro h
      cases h with
      | bare h => exact ⟨_, (natural?_eq_some_iff hb).2 h, rfl⟩
      | plus h => exact absurd rfl (hplus _)
      | minus h => exact absurd rfl (hminus _)

/-- Digits denote one number. -/
lemma Denotes.unique {base : Nat} (hb : base ≤ 16) {cs : List Char} {m n : Nat}
    (hm : Denotes base cs m) (hn : Denotes base cs n) : m = n := by
  rw [← natural?_eq_some_iff hb] at hm hn
  exact Option.some.inj (hm.symm.trans hn)

/-- Digits without a sign are read as their number, or not at all if it is none of a word. -/
lemma word?_of_denotes {cs : List Char} {n : Nat} (h : Denotes 10 cs n) :
    word? cs = if n < 2 ^ 64 then some n else none := by
  split
  · rename_i hn
    exact word?_eq_some_iff.2 (.bare h hn)
  · rename_i hn
    refine Option.eq_none_iff_forall_ne_some.2 fun m hm => hn ?_
    cases word?_eq_some_iff.1 hm with
    | bare h' hm' => exact h'.unique (by decide) h ▸ hm'
    | plus => exact absurd List.mem_cons_self h.plus_not_mem

/-- Digits after a sign denote one number. -/
lemma DenotesSigned.unique {base : Nat} (hb : base ≤ 16) {cs : List Char} {m n : Int}
    (hm : DenotesSigned base cs m) (hn : DenotesSigned base cs n) : m = n := by
  cases hm with
  | bare hm =>
    cases hn with
    | bare hn => rw [hm.unique hb hn]
    | plus => exact absurd List.mem_cons_self hm.plus_not_mem
    | minus => exact absurd List.mem_cons_self hm.minus_not_mem
  | plus hm =>
    cases hn with
    | bare hn => exact absurd List.mem_cons_self hn.plus_not_mem
    | plus hn => rw [hm.unique hb hn]
  | minus hm =>
    cases hn with
    | bare hn => exact absurd List.mem_cons_self hn.minus_not_mem
    | minus hn => rw [hm.unique hb hn]

/-- Letter case does not matter for a digit. -/
lemma isDigit_toLower {base : Nat} {c : Char} {d : Nat} :
    IsDigit base c.toLower d ↔ IsDigit base c d := by
  unfold IsDigit
  rw [Char.toLower_toLower_eq_toLower]

/-- Letter case does not matter for digits. -/
lemma denotes_map_toLower {base : Nat} {cs : List Char} {n : Nat} :
    Denotes base (cs.map Char.toLower) n ↔ Denotes base cs n := by
  constructor
  · intro h
    generalize hlower : cs.map Char.toLower = lower at h
    induction h generalizing cs with
    | digit hd =>
      obtain ⟨c, rfl, rfl⟩ := List.map_eq_singleton_iff.1 hlower
      exact .digit (isDigit_toLower.1 hd)
    | append _ hd ih =>
      obtain ⟨init, last, rfl, hinit, hlast⟩ := List.map_eq_append_iff.1 hlower
      obtain ⟨c, rfl, rfl⟩ := List.map_eq_singleton_iff.1 hlast
      exact .append (ih hinit) (isDigit_toLower.1 hd)
  · intro h
    induction h with
    | digit hd => exact .digit (isDigit_toLower.2 hd)
    | append _ hd ih =>
      rw [List.map_append]
      exact .append ih (isDigit_toLower.2 hd)

/-- A sign is the same in both letter cases. -/
lemma denotesSigned_map_toLower {base : Nat} {cs : List Char} {n : Int} :
    DenotesSigned base (cs.map Char.toLower) n ↔ DenotesSigned base cs n := by
  have hplus : ∀ c : Char, c.toLower = '+' → c = '+' := fun c hc => by
    rcases eq_or_eq_toUpper_of_toLower hc with rfl | rfl <;> decide
  have hminus : ∀ c : Char, c.toLower = '-' → c = '-' := fun c hc => by
    rcases eq_or_eq_toUpper_of_toLower hc with rfl | rfl <;> decide
  constructor
  · intro h
    generalize hlower : cs.map Char.toLower = lower at h
    cases h with
    | bare h =>
      subst hlower
      exact .bare (denotes_map_toLower.1 h)
    | plus h =>
      obtain ⟨c, rest, rfl, hc, rfl⟩ := List.map_eq_cons_iff.1 hlower
      obtain rfl := hplus c hc
      exact .plus (denotes_map_toLower.1 h)
    | minus h =>
      obtain ⟨c, rest, rfl, hc, rfl⟩ := List.map_eq_cons_iff.1 hlower
      obtain rfl := hminus c hc
      exact .minus (denotes_map_toLower.1 h)
  · intro h
    cases h with
    | bare h => exact .bare (denotes_map_toLower.2 h)
    | plus h => exact .plus (denotes_map_toLower.2 h)
    | minus h => exact .minus (denotes_map_toLower.2 h)

/-- Letter case does not matter for what is read as a number with a sign. -/
lemma signed?_map_toLower {base : Nat} (hb : base ≤ 16) (cs : List Char) :
    signed? base (cs.map Char.toLower) = signed? base cs := by
  apply Option.ext
  intro n
  rw [signed?_eq_some_iff hb, signed?_eq_some_iff hb, denotesSigned_map_toLower]

/-- Zeros before a numeral change nothing. -/
lemma Denotes.zeros {base : Nat} {cs : List Char} {n : Nat} (h : Denotes base cs n) (count : Nat) :
    Denotes base (List.replicate count '0' ++ cs) n := by
  induction count with
  | zero => exact h
  | succ count ih =>
    have hbase : 0 < base := by
      obtain ⟨c, hc⟩ := List.exists_mem_of_ne_nil _ h.ne_nil
      obtain ⟨d, hd, _⟩ := h.isDigit_of_mem hc
      exact Nat.zero_lt_of_lt hd
    have hzero : IsDigit base '0' 0 := ⟨hbase, by decide⟩
    rw [List.replicate_succ, List.cons_append]
    generalize List.replicate count '0' ++ cs = rest at ih
    clear h
    induction ih with
    | digit hd => simpa using Denotes.append (.digit hzero) hd
    | append _ hd ih => exact .append ih hd

/-- The digits that core writes for a number denote it. -/
lemma denotes_toDigits {base : Nat} (hb : 1 < base) (hb' : base ≤ 16) (n : Nat) :
    Denotes base (Nat.toDigits base n) n := by
  induction n using Nat.strong_induction_on with
  | _ n ih =>
    rw [Nat.toDigits_eq_if hb]
    split
    · rename_i hn
      exact .digit (isDigit_digitChar hb' hn)
    · rename_i hn
      have hless : n / base < n := Nat.div_lt_self (by omega) hb
      have hlast : IsDigit base (n % base).digitChar (n % base) :=
        isDigit_digitChar hb' (Nat.mod_lt n (by omega))
      have happend := Denotes.append (ih (n / base) hless) hlast
      rwa [Nat.div_add_mod] at happend

/-- The digits that core writes begin with a zero for zero only. -/
lemma head?_toDigits {n : Nat} (hn : 0 < n) : (Nat.toDigits 10 n).head? ≠ some '0' := by
  induction n using Nat.strong_induction_on with
  | _ n ih =>
    rw [Nat.toDigits_eq_if (by decide)]
    split
    · rename_i hlt
      have hnonzero : ∀ d < 10, 0 < d → d.digitChar ≠ '0' := by decide
      simpa using hnonzero n hlt hn
    · rename_i hge
      have hquotient : 0 < n / 10 := Nat.div_pos (Nat.le_of_not_lt hge) (by decide)
      have hless : n / 10 < n := Nat.div_lt_self hn (by decide)
      have hne : Nat.toDigits 10 (n / 10) ≠ [] :=
        (denotes_toDigits (by decide) (by decide) (n / 10)).ne_nil
      rw [List.head?_append_of_ne_nil _ hne]
      exact ih _ hless hquotient

/-- Digits are no blanks. -/
lemma isBlank_eq_false_of_isDigit {base : Nat} (hb : base ≤ 16) {c : Char} {d : Nat}
    (h : IsDigit base c d) : Text.isBlank c = false := by
  have hdigits : ∀ d < 16, Text.isBlank d.digitChar = false ∧
      Text.isBlank d.digitChar.toUpper = false := by decide
  obtain ⟨hd, rfl | rfl⟩ := h.exists_eq hb
  · exact (hdigits d hd).1
  · exact (hdigits d hd).2

/-- No blank stands in a number. -/
lemma isBlank_eq_false_of_denotes {base : Nat} (hb : base ≤ 16) {w : List Char} {n : Nat}
    (h : Denotes base w n) : ∀ c ∈ w, Text.isBlank c = false := by
  intro c hc
  obtain ⟨_, hd⟩ := h.isDigit_of_mem hc
  exact isBlank_eq_false_of_isDigit hb hd

end TamperWatch.Numeral
