import TamperWatch.Fuse.Value
import TamperWatch.Proofs.Text.Numeral

/-!
# Texts read as numbers

Which texts are read as numbers. The forms are stated apart from the reader, as truth words and
numerals, and `FuseValue.FailsClosed` says what is to come of a token: a number only for these, and
nothing found for a token that sets out to be a number and is none. The reader is compared with that
for each kind of token, since truth words, prefixes and decimal digits exclude each other. It takes
one more form, digits after a sign after a prefix. Main statements: the reader fails closed for all
other tokens and for none of these (`FuseValue.failsClosed_iff`), and one of these
(`FuseValue.not_failsClosed_minus_after_prefix`).
-/

namespace TamperWatch.FuseValue

open Numeral

/-- The characters are the prefix of a base, in either letter case, and a rest. -/
inductive Prefixed : Nat → List Char → List Char → Prop where
  | hex {x rest} :
    x.toLower = 'x' →
    Prefixed 16 ('0' :: x :: rest) rest
  | binary {x rest} :
    x.toLower = 'b' →
    Prefixed 2 ('0' :: x :: rest) rest

/-- A word for a truth value, in any letter case. -/
inductive TruthWord : List Char → Int → Prop where
  | yes {w} :
    w.map Char.toLower = "true".toList →
    TruthWord w 1
  | no {w} :
    w.map Char.toLower = "false".toList →
    TruthWord w 0

/-- A numeral: decimal digits, perhaps after a minus sign, or the prefix of a base and digits of
that base. -/
inductive IsNumeral : List Char → Int → Prop where
  | decimal {w n} :
    Denotes 10 w n →
    IsNumeral w n
  | negative {w n} :
    Denotes 10 w n →
    IsNumeral ('-' :: w) (-n)
  | based {base w rest n} :
    Prefixed base w rest →
    Denotes base rest n →
    IsNumeral w n

/-- A sign stands between the prefix of a base and digits of that base. -/
inductive MisplacedSign : List Char → Int → Prop where
  | plus {base w rest n} :
    Prefixed base w ('+' :: rest) →
    Denotes base rest n →
    MisplacedSign w n
  | minus {base w rest n} :
    Prefixed base w ('-' :: rest) →
    Denotes base rest n →
    MisplacedSign w (-n)

/-- The value fails closed for the token: it is a number only for a truth word and for a numeral of
the right size, nothing is found for any other token with a prefix and for a numeral that is too
large, and the rest are texts. -/
structure FailsClosed (token : String) (v : FuseValue) : Prop where
  int_iff : ∀ n, v = int n ↔
    TruthWord token.toList n ∨ IsNumeral token.toList n ∧ fitsSigned n = true
  notFound_of_broken : ∀ base rest, Prefixed base token.toList rest →
    (∀ n, ¬ IsNumeral token.toList n) → v = notFound
  notFound_of_large : ∀ n, IsNumeral token.toList n → fitsSigned n = false → v = notFound
  text_of_other : (∀ n, ¬ TruthWord token.toList n) → (∀ n, ¬ IsNumeral token.toList n) →
    (∀ base rest, ¬ Prefixed base token.toList rest) → v = text token

/-- What is read of a numeral is a number exactly if the numeral has that number. -/
lemma ofInt?_eq_int_iff {n? : Option Int} {n : Int} : ofInt? n? = int n ↔ n? = some n := by
  cases n? <;> simp [ofInt?]

/-- Nothing is found in a numeral exactly if it has no number. -/
lemma ofInt?_eq_notFound_iff {n? : Option Int} : ofInt? n? = notFound ↔ n? = none := by
  cases n? <;> simp [ofInt?]

/-- The bases that have a prefix are at most 16. -/
lemma Prefixed.base_le {base : Nat} {w rest : List Char} (h : Prefixed base w rest) :
    base ≤ 16 := by
  cases h <;> decide

/-- The prefix of a base in lower case, as reading takes it off. -/
lemma dropHead?_map_toLower {w digits : List Char} {x : Char} :
    Text.dropHead? ['0', x] (w.map Char.toLower) = some digits ↔
      ∃ y rest, w = '0' :: y :: rest ∧ y.toLower = x ∧ rest.map Char.toLower = digits := by
  have hzero : ∀ c : Char, c.toLower = '0' → c = '0' := fun c hc => by
    rcases eq_or_eq_toUpper_of_toLower hc with rfl | rfl <;> decide
  rw [Text.dropHead?_eq_some_iff]
  constructor
  · intro h
    obtain ⟨c, w', rfl, hc, hw'⟩ := List.map_eq_cons_iff.1 h
    obtain ⟨y, rest, rfl, hy, hrest⟩ := List.map_eq_cons_iff.1 hw'
    exact ⟨y, rest, by rw [hzero c hc], hy, hrest⟩
  · rintro ⟨y, rest, rfl, rfl, rfl⟩
    rfl

/-- Two texts are the same in lower case exactly if their characters are. -/
lemma toLower_eq_iff {s word : String} :
    s.toLower = word ↔ s.toList.map Char.toLower = word.toList := by
  rw [← String.toList_inj, String.toLower, String.toList_map]

/-- A truth word is read as the number of its truth value. -/
lemma ofToken_of_truthWord {token : String} {n : Int} (h : TruthWord token.toList n) :
    ofToken token = int n := by
  cases h with
  | yes h =>
    have hword : token.toLower = "true" := toLower_eq_iff.2 h
    unfold ofToken
    rw [hword]
    rfl
  | no h =>
    have hword : token.toLower = "false" := toLower_eq_iff.2 h
    unfold ofToken
    rw [hword]
    rfl

/-- What starts with the prefix of a base is no truth word. -/
lemma Prefixed.not_truthWord {base : Nat} {w rest : List Char} (h : Prefixed base w rest)
    (n : Int) : ¬ TruthWord w n := by
  intro hword
  cases h <;> cases hword <;> rename_i hword <;> cases hword

/-- A token that is no truth word is read by its prefix, or else as a decimal numeral or as a text.
-/
lemma ofToken_of_not_truthWord {token : String} (h : ∀ n, ¬ TruthWord token.toList n) :
    ofToken token =
      match Text.dropHead? ['0', 'x'] (token.toList.map Char.toLower),
        Text.dropHead? ['0', 'b'] (token.toList.map Char.toLower) with
      | some digits, _ => ofInt? (signed? 16 digits)
      | none, some digits => ofInt? (signed? 2 digits)
      | none, none =>
        if looksDecimal token.toList then ofInt? (signed? 10 token.toList) else text token := by
  have htrue : token.toLower ≠ "true" := fun heq => h 1 (.yes (toLower_eq_iff.1 heq))
  have hfalse : token.toLower ≠ "false" := fun heq => h 0 (.no (toLower_eq_iff.1 heq))
  have hlower : token.toLower.toList = token.toList.map Char.toLower := toLower_eq_iff.1 rfl |>.symm
  rw [← hlower]
  exact (if_neg htrue).trans (if_neg hfalse)

/-- After a prefix everything has to be a numeral of its base. -/
lemma ofToken_of_prefixed {token : String} {base : Nat} {rest : List Char}
    (h : Prefixed base token.toList rest) : ofToken token = ofInt? (signed? base rest) := by
  rw [ofToken_of_not_truthWord h.not_truthWord]
  generalize token.toList = w at h
  cases h with
  | @hex x rest hx =>
    have hdrop : Text.dropHead? ['0', 'x'] (('0' :: x :: rest).map Char.toLower) =
        some (rest.map Char.toLower) := dropHead?_map_toLower.2 ⟨x, rest, rfl, hx, rfl⟩
    rw [hdrop]
    dsimp only
    rw [signed?_map_toLower (by decide)]
  | @binary x rest hx =>
    have hother : Text.dropHead? ['0', 'x'] (('0' :: x :: rest).map Char.toLower) = none := by
      refine Option.eq_none_iff_forall_ne_some.2 fun digits hdigits => ?_
      obtain ⟨y, _, ⟨⟩, hy, _⟩ := dropHead?_map_toLower.1 hdigits
      rw [hx] at hy
      cases hy
    have hdrop : Text.dropHead? ['0', 'b'] (('0' :: x :: rest).map Char.toLower) =
        some (rest.map Char.toLower) := dropHead?_map_toLower.2 ⟨x, rest, rfl, hx, rfl⟩
    rw [hother, hdrop]
    dsimp only
    rw [signed?_map_toLower (by decide)]

/-- A token without a prefix that is no truth word is read as a decimal numeral or as a text. -/
lemma ofToken_of_plain {token : String} (hword : ∀ n, ¬ TruthWord token.toList n)
    (hprefixed : ∀ base rest, ¬ Prefixed base token.toList rest) :
    ofToken token =
      if looksDecimal token.toList then ofInt? (signed? 10 token.toList) else text token := by
  have hhex : Text.dropHead? ['0', 'x'] (token.toList.map Char.toLower) = none := by
    refine Option.eq_none_iff_forall_ne_some.2 fun digits hdigits => ?_
    obtain ⟨y, rest, hw, hy, _⟩ := dropHead?_map_toLower.1 hdigits
    exact hprefixed 16 rest (hw ▸ .hex hy)
  have hbinary : Text.dropHead? ['0', 'b'] (token.toList.map Char.toLower) = none := by
    refine Option.eq_none_iff_forall_ne_some.2 fun digits hdigits => ?_
    obtain ⟨y, rest, hw, hy, _⟩ := dropHead?_map_toLower.1 hdigits
    exact hprefixed 2 rest (hw ▸ .binary hy)
  rw [ofToken_of_not_truthWord hword, hhex, hbinary]

/-- What looks like a decimal numeral is one. -/
lemma looksDecimal_iff {w : List Char} :
    looksDecimal w = true ↔
      (∃ n, Denotes 10 w n) ∨ ∃ rest, w = '-' :: rest ∧ ∃ n, Denotes 10 rest n := by
  have hdigits : ∀ cs : List Char,
      (!cs.isEmpty && cs.all Char.isDigit) = true ↔ ∃ n, Denotes 10 cs n := by
    intro cs
    simp only [exists_denotes_iff, exists_isDigit_ten_iff, Bool.and_eq_true, Bool.not_eq_true',
      List.isEmpty_eq_false_iff, List.all_eq_true]
  unfold looksDecimal
  split
  · rename_i rest
    have hminus : ¬ ∃ n, Denotes 10 ('-' :: rest) n := fun ⟨n, hn⟩ =>
      hn.minus_not_mem List.mem_cons_self
    simp [hdigits, hminus]
  · rename_i hminus
    have hnone : ¬ ∃ rest, w = '-' :: rest ∧ ∃ n, Denotes 10 rest n := fun ⟨rest, hw, _⟩ =>
      hminus rest hw
    simp [hdigits, hnone]

/-- A token has one prefix and one rest after it at most. -/
lemma Prefixed.unique {base base' : Nat} {w rest rest' : List Char} (h : Prefixed base w rest)
    (h' : Prefixed base' w rest') : base = base' ∧ rest = rest' := by
  cases h with
  | hex hx =>
    cases h' with
    | hex => exact ⟨rfl, rfl⟩
    | binary hb =>
      rw [hx] at hb
      cases hb
  | binary hx =>
    cases h' with
    | hex hb =>
      rw [hx] at hb
      cases hb
    | binary => exact ⟨rfl, rfl⟩

/-- A token with a prefix is a numeral only if digits of the base follow. -/
lemma Prefixed.isNumeral_iff {base : Nat} {w rest : List Char} (h : Prefixed base w rest)
    {n : Int} : IsNumeral w n ↔ ∃ m : Nat, Denotes base rest m ∧ (m : Int) = n := by
  constructor
  · intro hn
    cases hn with
    | decimal hdecimal =>
      -- The letter of the prefix is no decimal digit.
      exfalso
      cases h with
      | hex hx =>
        exact hdecimal.not_mem (fun d => hx ▸ Nat.digitChar_ne 'x' (by decide)) (by simp)
      | @binary x rest hx =>
        have hmem : x ∈ '0' :: x :: rest := List.mem_cons_of_mem _ List.mem_cons_self
        obtain ⟨d, hd, hletter⟩ := hdecimal.isDigit_of_mem hmem
        rw [hx, Nat.b_eq_digitChar] at hletter
        omega
    | negative => cases h
    | based h' hm =>
      obtain ⟨rfl, rfl⟩ := h.unique h'
      exact ⟨_, hm, rfl⟩
  · rintro ⟨m, hm, rfl⟩
    exact .based h hm

/-- No truth word is a numeral. -/
lemma TruthWord.not_isNumeral {w : List Char} {m : Int} (h : TruthWord w m) (n : Int) :
    ¬ IsNumeral w n := by
  intro hn
  cases hn with
  | decimal hdecimal =>
    have hlower := denotes_map_toLower.2 hdecimal
    cases h with
    | yes h =>
      rw [h] at hlower
      exact hlower.not_mem (c := 't') (fun d => Nat.digitChar_ne 't' (by decide)) (by decide)
    | no h =>
      rw [h] at hlower
      exact hlower.not_mem (c := 'l') (fun d => Nat.digitChar_ne 'l' (by decide)) (by decide)
  | negative => cases h <;> rename_i h <;> cases h
  | based h' => exact h'.not_truthWord _ h

/-- A truth word stands for one number. -/
lemma TruthWord.unique {w : List Char} {m n : Int} (h : TruthWord w m) (h' : TruthWord w n) :
    m = n := by
  cases h with
  | yes h =>
    cases h' with
    | yes => rfl
    | no h' =>
      rw [h] at h'
      cases h'
  | no h =>
    cases h' with
    | yes h' =>
      rw [h] at h'
      cases h'
    | no => rfl

/-- A token without a prefix is a numeral exactly if it looks like one and denotes a number. -/
lemma isNumeral_iff_of_plain {w : List Char} (h : ∀ base rest, ¬ Prefixed base w rest) {n : Int} :
    IsNumeral w n ↔ looksDecimal w = true ∧ DenotesSigned 10 w n := by
  rw [looksDecimal_iff]
  constructor
  · intro hn
    cases hn with
    | decimal hn => exact ⟨.inl ⟨_, hn⟩, .bare hn⟩
    | negative hn => exact ⟨.inr ⟨_, rfl, _, hn⟩, .minus hn⟩
    | based h' => exact absurd h' (h _ _)
  · rintro ⟨hlooks, hn⟩
    cases hn with
    | bare hn => exact .decimal hn
    | plus hn =>
      rcases hlooks with ⟨_, hplus⟩ | ⟨_, ⟨⟩, _⟩
      exact absurd List.mem_cons_self hplus.plus_not_mem
    | minus hn => exact .negative hn

/-- A token with a misplaced sign is a prefix and digits with a sign, which are no plain digits. -/
lemma MisplacedSign.exists_prefixed {w : List Char} {n : Int} (h : MisplacedSign w n) :
    ∃ base rest, Prefixed base w rest ∧ DenotesSigned base rest n ∧ ∀ m, ¬ Denotes base rest m := by
  cases h with
  | plus hp hn => exact ⟨_, _, hp, .plus hn, fun m hm => hm.plus_not_mem List.mem_cons_self⟩
  | minus hp hn => exact ⟨_, _, hp, .minus hn, fun m hm => hm.minus_not_mem List.mem_cons_self⟩

/-- A token with a misplaced sign is no numeral, but it is read as a number. -/
lemma MisplacedSign.ofToken {token : String} {n : Int} (h : MisplacedSign token.toList n)
    (hfits : fitsSigned n = true) : ofToken token = int n := by
  obtain ⟨base, rest, hp, hn, _⟩ := h.exists_prefixed
  rw [ofToken_of_prefixed hp, ofInt?_eq_int_iff, signed?_eq_some_iff hp.base_le]
  exact ⟨hn, hfits⟩

/-- With a misplaced sign a token is no numeral. -/
lemma MisplacedSign.not_isNumeral {w : List Char} {n m : Int} (h : MisplacedSign w n) :
    ¬ IsNumeral w m := by
  obtain ⟨base, rest, hp, _, hnone⟩ := h.exists_prefixed
  rw [hp.isNumeral_iff]
  rintro ⟨k, hk, _⟩
  exact hnone k hk

/-- A truth word is read as it should be. -/
lemma failsClosed_of_truthWord {token : String} {m : Int} (h : TruthWord token.toList m) :
    FailsClosed token (ofToken token) where
  int_iff n := by
    rw [ofToken_of_truthWord h]
    constructor
    · rintro ⟨⟩
      exact .inl h
    · rintro (hn | ⟨hn, _⟩)
      · rw [h.unique hn]
      · exact absurd hn (h.not_isNumeral n)
  notFound_of_broken _ _ hp := absurd h (hp.not_truthWord m)
  notFound_of_large n hn := absurd hn (h.not_isNumeral n)
  text_of_other hword := absurd h (hword m)

/-- A numeral stands for one number. -/
lemma IsNumeral.unique {w : List Char} {m n : Int} (hm : IsNumeral w m) (hn : IsNumeral w n) :
    m = n := by
  by_cases hprefixed : ∃ base rest, Prefixed base w rest
  · obtain ⟨base, rest, h⟩ := hprefixed
    obtain ⟨m, hdigits, rfl⟩ := h.isNumeral_iff.1 hm
    obtain ⟨n, hdigits', rfl⟩ := h.isNumeral_iff.1 hn
    rw [hdigits.unique h.base_le hdigits']
  · have h : ∀ base rest, ¬ Prefixed base w rest := fun base rest h => hprefixed ⟨base, rest, h⟩
    exact ((isNumeral_iff_of_plain h).1 hm).2.unique (by decide) ((isNumeral_iff_of_plain h).1 hn).2

/-- A reading that finds just the numerals of the right size fails closed for every token that has a
prefix or is a numeral. -/
lemma failsClosed_ofInt? {token : String} {n? : Option Int}
    (hword : ∀ n, ¬ TruthWord token.toList n)
    (hform : (∃ base rest, Prefixed base token.toList rest) ∨ ∃ n, IsNumeral token.toList n)
    (hread : ∀ n, n? = some n ↔ IsNumeral token.toList n ∧ fitsSigned n = true) :
    FailsClosed token (ofInt? n?) where
  int_iff n := by rw [ofInt?_eq_int_iff, hread, or_iff_right (hword n)]
  notFound_of_broken _ _ _ hnone := by
    rw [ofInt?_eq_notFound_iff, Option.eq_none_iff_forall_ne_some]
    intro n hn
    exact hnone n ((hread n).1 hn).1
  notFound_of_large n hn hlarge := by
    rw [ofInt?_eq_notFound_iff, Option.eq_none_iff_forall_ne_some]
    intro m hm
    obtain ⟨hm, hfits⟩ := (hread m).1 hm
    rw [hm.unique hn, hlarge] at hfits
    cases hfits
  text_of_other _ hnumeral hprefixed := by
    rcases hform with ⟨base, rest, h⟩ | ⟨n, h⟩
    · exact absurd h (hprefixed base rest)
    · exact absurd h (hnumeral n)

/-- A token with a prefix and no misplaced sign is read as it should be. -/
lemma failsClosed_of_prefixed {token : String} {base : Nat} {rest : List Char}
    (h : Prefixed base token.toList rest)
    (hsign : ¬ ∃ n, MisplacedSign token.toList n ∧ fitsSigned n = true) :
    FailsClosed token (ofToken token) := by
  rw [ofToken_of_prefixed h]
  refine failsClosed_ofInt? h.not_truthWord (.inl ⟨base, rest, h⟩) fun n => ?_
  rw [signed?_eq_some_iff h.base_le, h.isNumeral_iff]
  refine and_congr_left fun hfits => ⟨fun hn => ?_, ?_⟩
  -- Digits after the prefix may follow a sign, and that is what is ruled out.
  · cases hn with
    | bare hn => exact ⟨_, hn, rfl⟩
    | plus hn => exact absurd ⟨_, .plus h hn, hfits⟩ hsign
    | minus hn => exact absurd ⟨_, .minus h hn, hfits⟩ hsign
  · rintro ⟨m, hm, rfl⟩
    exact .bare hm

/-- A token that is neither a truth word nor has a prefix is read as it should be. -/
lemma failsClosed_of_plain {token : String} (hword : ∀ n, ¬ TruthWord token.toList n)
    (hprefixed : ∀ base rest, ¬ Prefixed base token.toList rest) :
    FailsClosed token (ofToken token) := by
  rw [ofToken_of_plain hword hprefixed]
  cases hlooks : looksDecimal token.toList with
  | true =>
    have hread : ∀ n, signed? 10 token.toList = some n ↔
        IsNumeral token.toList n ∧ fitsSigned n = true := by
      intro n
      rw [signed?_eq_some_iff (by decide), isNumeral_iff_of_plain hprefixed, hlooks]
      simp
    have hnumeral : ∃ n, IsNumeral token.toList n := by
      rcases looksDecimal_iff.1 hlooks with ⟨n, hn⟩ | ⟨rest, hrest, n, hn⟩
      · exact ⟨n, .decimal hn⟩
      · exact ⟨-n, hrest ▸ .negative hn⟩
    exact failsClosed_ofInt? hword (.inr hnumeral) hread
  | false =>
    have hnone : ∀ n, ¬ IsNumeral token.toList n := by
      intro n hn
      rw [isNumeral_iff_of_plain hprefixed, hlooks] at hn
      cases hn.1
    constructor
    · intro n
      simp [hword n, hnone n]
    · intro base rest h
      exact absurd h (hprefixed base rest)
    · intro n hn
      exact absurd hn (hnone n)
    · intros
      rfl

/-- Without a misplaced sign a token is a truth word, or has a prefix, or is as plain as any. -/
lemma failsClosed_ofToken {token : String}
    (hsign : ¬ ∃ n, MisplacedSign token.toList n ∧ fitsSigned n = true) :
    FailsClosed token (ofToken token) := by
  by_cases hword : ∃ n, TruthWord token.toList n
  · obtain ⟨n, hn⟩ := hword
    exact failsClosed_of_truthWord hn
  by_cases hprefixed : ∃ base rest, Prefixed base token.toList rest
  · obtain ⟨base, rest, h⟩ := hprefixed
    exact failsClosed_of_prefixed h hsign
  · exact failsClosed_of_plain (fun n h => hword ⟨n, h⟩)
      fun base rest h => hprefixed ⟨base, rest, h⟩

/-- A numeral of a number of a word is read as that number. -/
lemma IsNumeral.ofToken {token : String} {n : Int} (h : IsNumeral token.toList n)
    (hfits : fitsSigned n = true) : ofToken token = int n := by
  have hsign : ¬ ∃ m, MisplacedSign token.toList m ∧ fitsSigned m = true :=
    fun ⟨_, hm, _⟩ => hm.not_isNumeral h
  exact ((failsClosed_ofToken hsign).int_iff n).2 (.inr ⟨h, hfits⟩)

/-- When the reading of texts fails closed. The value of a text fails closed for the text between
the blanks around it, except exactly if that text has the prefix of a base and then a sign and
digits of a number of a word: it is then read as that number. -/
theorem failsClosed_iff (s : String) :
    (FailsClosed (Text.trim s) (ofText s) ↔
      ¬ ∃ n, MisplacedSign (Text.trim s).toList n ∧ fitsSigned n = true) ∧
    ∀ n, MisplacedSign (Text.trim s).toList n → fitsSigned n = true → ofText s = int n := by
  have hmisread : ∀ n, MisplacedSign (Text.trim s).toList n → fitsSigned n = true →
      ofText s = int n := fun n hn hfits => hn.ofToken hfits
  refine ⟨⟨?_, failsClosed_ofToken⟩, hmisread⟩
  rintro hclosed ⟨n, hn, hfits⟩
  rcases (hclosed.int_iff n).1 (hmisread n hn hfits) with hword | ⟨hnumeral, _⟩
  · obtain ⟨base, rest, hprefixed, _⟩ := hn.exists_prefixed
    exact hprefixed.not_truthWord n hword
  · exact hn.not_isNumeral hnumeral

/-- A minus sign after the prefix, and the text is read as a number all the same. -/
theorem not_failsClosed_minus_after_prefix :
    ¬ FailsClosed (Text.trim "0x-1f") (ofText "0x-1f") := by
  intro hclosed
  have htrim : (Text.trim "0x-1f").toList = ['0', 'x', '-', '1', 'f'] := by decide +kernel
  have hread : ofText "0x-1f" = int (-31) := by decide +kernel
  have hprefixed : Prefixed 16 (Text.trim "0x-1f").toList ['-', '1', 'f'] := htrim ▸ .hex rfl
  rcases (hclosed.int_iff (-31)).1 hread with hword | ⟨hnumeral, _⟩
  · exact hprefixed.not_truthWord _ hword
  · obtain ⟨_, hdigits, _⟩ := hprefixed.isNumeral_iff.1 hnumeral
    exact hdigits.minus_not_mem List.mem_cons_self

end TamperWatch.FuseValue
