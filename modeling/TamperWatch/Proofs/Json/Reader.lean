import TamperWatch.Json.Reader
import TamperWatch.Json.Writer
import TamperWatch.Proofs.Data.SortedMap
import TamperWatch.Proofs.Text.Numeral

/-!
# What the reader makes of JSON texts

Only a brace begins an object (`Json.parse_eq_object`). A numeral of a 64-bit word is read as
exactly the number that it denotes (`Json.Reader.value_toDigits`,
`Json.Reader.value_minus_toDigits`), since it is gathered digit by digit and never passes through a
double. Every string is read back from its quoted form (`Json.Reader.string_quote`). Main statement:
an object is read back from its compact form as soon as the values of its members are
(`Json.parse_compact`).
-/

namespace TamperWatch.Json

/-- A number of an unsigned word is gathered whole from its digits. -/
lemma gather_of_extend? {word n : Nat} {cs : List Char} (h : Numeral.extend? 10 word cs = some n)
    (hn : n < Numeral.wordLimit) : gather word cs = (n, []) := by
  induction cs generalizing word with
  | nil =>
    cases h
    rfl
  | cons c cs ih =>
    obtain ⟨d, hd, hrest⟩ := Option.bind_eq_some_iff.1 h
    have hvalue : c.toNat - '0'.toNat = d := Numeral.toNat_sub_of_digit? hd
    have hle : 10 * word + d ≤ n := Numeral.le_of_extend? (by decide) hrest
    rw [gather, hvalue, if_pos (Nat.lt_of_le_of_lt hle hn)]
    exact ih hrest

/-- The text does not go on with a numeral that stands before it. -/
def EndsNumeral (rest : List Char) : Prop :=
  ∀ c, rest.head? = some c → c.isDigit = false ∧ c ∉ ['.', 'e', 'E']

/-- Digits before the end of a numeral are read as these digits. -/
lemma digitsThen_append {digits rest : List Char} (hdigits : ∀ c ∈ digits, c.isDigit = true)
    (hrest : EndsNumeral rest) : digitsThen (digits ++ rest) = (digits, rest) := by
  have hstop : rest.takeWhile Char.isDigit = [] ∧ rest.dropWhile Char.isDigit = rest := by
    cases rest with
    | nil => exact ⟨rfl, rfl⟩
    | cons c rest => simp [(hrest c rfl).1]
  unfold digitsThen
  rw [List.takeWhile_append_of_pos hdigits, List.dropWhile_append_of_pos hdigits, hstop.1,
    hstop.2, List.append_nil]

/-- Where a numeral ends there is no fraction. -/
lemma fraction?_of_endsNumeral {rest : List Char} (hrest : EndsNumeral rest) :
    fraction? rest = some (none, rest) := by
  unfold fraction?
  split
  · exact absurd (hrest '.' rfl).2 (by decide)
  · rfl

/-- Where a numeral ends there is no exponent. -/
lemma exponent?_of_endsNumeral {rest : List Char} (hrest : EndsNumeral rest) :
    exponent? rest = some (none, rest) := by
  unfold exponent?
  split
  · rename_i c cs
    have hc := (hrest c rfl).2
    rw [if_neg (by rintro (rfl | rfl) <;> exact absurd hc (by decide))]
  · rfl

/-- The sign of a numeral as it is written. -/
def sign (negative : Bool) : List Char :=
  if negative then ['-'] else []

/-- A sign and digits without leading zeros spell a whole number. -/
lemma spelling?_digits (negative : Bool) {digits rest : List Char}
    (hdigits : ∀ c ∈ digits, c.isDigit = true) (hne : digits ≠ [])
    (hzero : digits.head? ≠ some '0' ∨ digits.length = 1) (hrest : EndsNumeral rest) :
    spelling? (sign negative ++ (digits ++ rest)) =
      some (⟨negative, digits, none, none⟩, rest) := by
  unfold spelling?
  split
  rename_i _ signed cs hsign
  obtain ⟨rfl, rfl⟩ : signed = negative ∧ cs = digits ++ rest := by
    cases negative with
    | true =>
      cases hsign
      exact ⟨rfl, rfl⟩
    | false =>
      obtain ⟨c, tail, rfl⟩ := List.exists_cons_of_ne_nil hne
      simp only [sign, Bool.false_eq_true, if_false, List.nil_append] at hsign
      split at hsign
      · rename_i more hminus
        cases hminus
        exact absurd (hdigits '-' List.mem_cons_self) (by decide)
      · cases hsign
        exact ⟨rfl, rfl⟩
  rw [digitsThen_append hdigits hrest]
  simp [hne, hzero, fraction?_of_endsNumeral hrest, exponent?_of_endsNumeral hrest]

/-- A number of an unsigned word is gathered whole from its own digits. -/
lemma gather_toDigits {n : Nat} (hn : n < 2 ^ 64) : gather 0 (Nat.toDigits 10 n) = (n, []) := by
  have hdenotes : Numeral.Denotes 10 (Nat.toDigits 10 n) n :=
    Numeral.denotes_toDigits (by decide) (by decide) n
  have hnatural := (Numeral.natural?_eq_some_iff (by decide)).2 hdenotes
  rw [Numeral.natural?, if_neg (by simp)] at hnatural
  exact gather_of_extend? hnatural hn

namespace Reader

/-- What does not begin with a blank is read as it is. -/
lemma afterBlanks_cons {c : Char} (h : isBlank c = false) (rest : List Char) :
    afterBlanks (c :: rest) = c :: rest :=
  List.dropWhile_cons_of_neg (by simp [h])

/-- Digits are no blanks. -/
lemma isBlank_of_isDigit {c : Char} (hc : c.isDigit = true) : isBlank c = false := by
  refine Bool.eq_false_iff.2 fun hblank => ?_
  simp only [isBlank, Bool.or_eq_true, decide_eq_true_eq] at hblank
  rcases hblank with ((rfl | rfl) | rfl) | rfl <;> exact absurd hc (by decide)

/-- What is read as an object begins with a brace. -/
lemma value_eq_object {depth : Nat} {cs rest : List Char} {members : Members}
    (h : value depth cs = some (.object members, rest)) : ∃ more, cs = '\x7b' :: more := by
  rw [value.eq_def] at h
  split at h
  · cases h
  · cases h
  · cases h
  · obtain ⟨_, _, hv⟩ := Option.map_eq_some_iff.1 h
    cases hv
  · split at h
    · cases h
    · obtain ⟨_, _, hv⟩ := Option.map_eq_some_iff.1 h
      cases hv
  · exact ⟨_, rfl⟩
  · obtain ⟨_, _, hv⟩ := Option.map_eq_some_iff.1 h
    cases hv

/-- The digits of a number are read as the number that they stand for. -/
lemma number_toDigits {negative : Bool} {n : Nat} {value : Number}
    (hvalue : wholeNumber? negative (Nat.toDigits 10 n) = some value) {rest : List Char}
    (hrest : EndsNumeral rest) :
    number (sign negative ++ (Nat.toDigits 10 n ++ rest)) = some (value, rest) := by
  have hdenotes : Numeral.Denotes 10 (Nat.toDigits 10 n) n :=
    Numeral.denotes_toDigits (by decide) (by decide) n
  have hdigits : ∀ c ∈ Nat.toDigits 10 n, c.isDigit = true := fun c hc =>
    Numeral.exists_isDigit_ten_iff.1 (hdenotes.isDigit_of_mem hc)
  have hzero : (Nat.toDigits 10 n).head? ≠ some '0' ∨ (Nat.toDigits 10 n).length = 1 := by
    rcases Nat.eq_zero_or_pos n with rfl | hpos
    · exact .inr rfl
    · exact .inl (Numeral.head?_toDigits hpos)
  unfold number
  rw [spelling?_digits negative hdigits hdenotes.ne_nil hzero hrest]
  simp [Spelling.number?, hvalue]

/-- A value that begins with a digit or a minus sign is a number. -/
lemma value_numeral {c : Char} (hc : c.isDigit = true ∨ c = '-') (depth : Nat) (cs : List Char) :
    value depth (c :: cs) = (number (c :: cs)).map fun (n, rest) => (.number n, rest) := by
  rw [value.eq_def]
  split
  case h_7 => rfl
  -- No other value begins with a digit or a sign.
  all_goals
    rename_i heq
    cases heq
    exact absurd hc (by decide)

/-- A numeral of an unsigned word is read as exactly its number. -/
lemma value_toDigits {n : Nat} (hn : n < 2 ^ 64) {rest : List Char} (hrest : EndsNumeral rest)
    (depth : Nat) : value depth (Nat.toDigits 10 n ++ rest) = some (.int n, rest) := by
  have hwhole : wholeNumber? false (Nat.toDigits 10 n) = some (.int n) := by
    simp [wholeNumber?, gather_toDigits hn]
  have hnumber := number_toDigits hwhole hrest
  obtain ⟨c, cs, hcs, hc⟩ := (Numeral.denotes_toDigits (by decide) (by decide) n).exists_cons
  rw [hcs, List.cons_append] at hnumber ⊢
  rw [value_numeral (.inl hc)]
  exact congrArg (Option.map _) hnumber

/-- A numeral of a signed word below zero is read as exactly its number. -/
lemma value_minus_toDigits {n : Nat} (hpos : 0 < n) (hn : n ≤ 2 ^ 63) {rest : List Char}
    (hrest : EndsNumeral rest) (depth : Nat) :
    value depth ('-' :: (Nat.toDigits 10 n ++ rest)) = some (.int (-n), rest) := by
  have hwhole : wholeNumber? true (Nat.toDigits 10 n) = some (.int (-n)) := by
    have hgather := gather_toDigits (n := n) (by omega)
    have hlimit : n ≤ Nat.pow 2 63 := hn
    simp [wholeNumber?, hgather, hpos.ne', hlimit]
  rw [value_numeral (.inr rfl)]
  exact congrArg (Option.map _) (number_toDigits hwhole hrest)

/-- The digits of a number begin with no blank. -/
lemma afterBlanks_toDigits (n : Nat) (rest : List Char) :
    afterBlanks (Nat.toDigits 10 n ++ rest) = Nat.toDigits 10 n ++ rest := by
  obtain ⟨c, cs, hcs, hc⟩ := (Numeral.denotes_toDigits (by decide) (by decide) n).exists_cons
  rw [hcs, List.cons_append, afterBlanks_cons (isBlank_of_isDigit hc)]

/-- The escape of a control character gives its code. -/
lemma codeUnit?_digitChar {n : Nat} (hn : n < 0x20) :
    codeUnit? '0' '0' (Nat.digitChar (n / 16)) (Nat.digitChar (n % 16)) = some n := by
  revert n
  decide

/-- The escape of a control character is read as that character. -/
lemma stringBody_control {n : Nat} (hn : n < 0x20) (read rest : List Char) :
    stringBody read
        (['\\', 'u', '0', '0', Nat.digitChar (n / 16), Nat.digitChar (n % 16)] ++ rest) =
      stringBody (Char.ofNat n :: read) rest := by
  have hlow : isLowSurrogate n = false := by
    simp only [isLowSurrogate, Bool.and_eq_false_iff, decide_eq_false_iff_not]
    omega
  have hhigh : isHighSurrogate n = false := by
    simp only [isHighSurrogate, Bool.and_eq_false_iff, decide_eq_false_iff_not]
    omega
  simp only [List.cons_append, List.nil_append]
  rw [stringBody, codeUnit?_digitChar hn]
  simp [hlow, hhigh]

/-- A character that needs no escape is read as itself. -/
lemma stringBody_plain {c : Char} (hquote : c ≠ '"') (hbackslash : c ≠ '\\')
    (hprintable : ¬ c.toNat < 0x20) (read rest : List Char) :
    stringBody read (c :: rest) = stringBody (c :: read) rest := by
  rw [stringBody.eq_def]
  split
  case h_5 heq =>
    cases heq
    exact if_neg hprintable
  case h_1 heq => cases heq
  case h_2 heq =>
    cases heq
    exact absurd rfl hquote
  all_goals
    rename_i heq
    cases heq
    exact absurd rfl hbackslash

/-- A character is read back from its escaped form. -/
lemma stringBody_escape (read : List Char) (c : Char) (rest : List Char) :
    stringBody read (escape c ++ rest) = stringBody (c :: read) rest := by
  unfold escape
  split
  case h_8 hquote hbackslash _ _ _ _ _ =>
    split
    · rename_i hcontrol
      rw [stringBody_control hcontrol, Char.ofNat_toNat]
    · rename_i hprintable
      exact stringBody_plain hquote hbackslash hprintable read rest
  all_goals rfl

/-- Escaped characters up to the closing quote are read as the characters. -/
lemma stringBody_escaped (read cs rest : List Char) :
    stringBody read (cs.flatMap escape ++ '"' :: rest) =
      some (String.ofList (read.reverse ++ cs), rest) := by
  induction cs generalizing read with
  | nil => simp [stringBody]
  | cons c cs ih =>
    rw [List.flatMap_cons, List.append_assoc, stringBody_escape, ih]
    simp

/-- A quoted text is its escaped characters between quotes. -/
lemma toList_quote (s : String) (rest : List Char) :
    (quote s).toList ++ rest = '"' :: (s.toList.flatMap escape ++ '"' :: rest) := by
  simp [quote]

/-- A string is read back from its quoted form. -/
lemma string_quote (s : String) (rest : List Char) :
    string ((quote s).toList ++ rest) = some (s, rest) := by
  rw [toList_quote]
  show stringBody [] (s.toList.flatMap escape ++ '"' :: rest) = some (s, rest)
  rw [stringBody_escaped]
  simp

/-- A quoted text is read as the text. -/
lemma value_quote (s : String) (rest : List Char) (depth : Nat) :
    value depth ((quote s).toList ++ rest) = some (.string s, rest) := by
  have hstring := string_quote s rest
  rw [toList_quote] at hstring ⊢
  rw [string] at hstring
  rw [value, hstring]
  rfl

end Reader

/-- The text of an object begins with a brace, perhaps after blanks. -/
lemma parse_eq_object {s : String} {members : Members} (h : parse s = some (.object members)) :
    ∃ more, Reader.afterBlanks s.toList = '\x7b' :: more := by
  unfold parse Reader.all at h
  split at h
  · rename_i v rest hread
    split at h
    · cases h
      exact Reader.value_eq_object hread
    · cases h
  · cases h

/-- A text that begins with anything but a blank or a brace is no object. -/
lemma parse_ne_object {s : String} {c : Char} (hhead : s.toList.head? = some c)
    (hblank : Reader.isBlank c = false) (hbrace : c ≠ '\x7b') (members : Members) :
    parse s ≠ some (.object members) := by
  intro h
  obtain ⟨more, hmore⟩ := parse_eq_object h
  obtain ⟨rest, hrest⟩ := List.head?_eq_some_iff.1 hhead
  rw [hrest, Reader.afterBlanks_cons hblank] at hmore
  cases hmore
  exact hbrace rfl

/-- A value in an object that is no part of another one is read back from its compact form. -/
def ReadBack (v : Json) : Prop :=
  ∀ rest, EndsNumeral rest →
    Reader.value 126 (Reader.afterBlanks (v.compact.toList ++ rest)) = some (v, rest)

/-- Values that are no containers, and no doubles. -/
inductive Plain : Json → Prop
  | null : Plain .null
  | bool (b) : Plain (.bool b)
  | string (s) : Plain (.string s)
  | int {i : Int} : -2 ^ 63 ≤ i → i < 2 ^ 64 → Plain (.int i)

/-- A character that is no part of a numeral ends it. -/
lemma endsNumeral_cons {c : Char} (hc : c.isDigit = false ∧ c ∉ ['.', 'e', 'E'])
    (rest : List Char) : EndsNumeral (c :: rest) := by
  intro d hd
  cases hd
  exact hc

/-- A whole number of 64 bits is read back. -/
lemma readBack_int {i : Int} (hlow : -2 ^ 63 ≤ i) (hhigh : i < 2 ^ 64) : ReadBack (.int i) := by
  intro rest hrest
  cases i with
  | ofNat n =>
    have htext : (Json.int (.ofNat n)).compact.toList = Nat.toDigits 10 n := by
      show (toString n).toList = Nat.toDigits 10 n
      rw [Nat.toString_eq_ofList_toDigits, String.toList_ofList]
    have hn : n < 2 ^ 64 := Int.ofNat_lt.1 hhigh
    rw [htext, Reader.afterBlanks_toDigits, Reader.value_toDigits hn hrest]
    rfl
  | negSucc n =>
    have htext : (Json.int (.negSucc n)).compact.toList = '-' :: Nat.toDigits 10 (n + 1) := by
      show ("-" ++ toString (n + 1)).toList = '-' :: Nat.toDigits 10 (n + 1)
      rw [Nat.toString_eq_ofList_toDigits]
      simp
    rw [htext, List.cons_append, Reader.afterBlanks_cons (by decide),
      Reader.value_minus_toDigits (Nat.succ_pos n) (by omega) hrest]
    rfl

/-- A value that is neither a container nor a double is read back. -/
lemma Plain.readBack {v : Json} (h : Plain v) : ReadBack v := by
  intro rest hrest
  cases h with
  | null => rfl
  | bool b => cases b <;> rfl
  | string s =>
    show Reader.value 126 (Reader.afterBlanks ((quote s).toList ++ rest)) = _
    have hvalue := Reader.value_quote s rest 126
    rw [Reader.toList_quote] at hvalue ⊢
    rw [Reader.afterBlanks_cons (by decide), hvalue]
  | int hlow hhigh => exact readBack_int hlow hhigh rest hrest

namespace Reader

/-- A quoted key, a colon and a value are read as a member. -/
lemma member_readBack (key : String) {v : Json} (hv : ReadBack v) {rest : List Char}
    (hrest : EndsNumeral rest) :
    member string (value 126) ((quote key).toList ++ ':' :: (v.compact.toList ++ rest)) =
      some ((key, v), rest) := by
  unfold member
  rw [string_quote]
  dsimp only
  rw [afterBlanks_cons (by decide)]
  show (value 126 (afterBlanks (v.compact.toList ++ rest))).map _ = _
  rw [hv rest hrest]
  rfl

/-- A member takes the character after it along, which closes the object or announces another
member. -/
lemma itemsFrom_member {key : String} {v : Json} (hv : ReadBack v) {c : Char}
    (hblank : isBlank c = false) {rest : List Char} (hrest : EndsNumeral (c :: rest))
    (steps : Nat) :
    itemsFrom (member string (value 126)) '\x7d' (steps + 1)
        ((quote key).toList ++ ':' :: (v.compact.toList ++ c :: rest)) =
      if c = '\x7d' then some ([(key, v)], rest)
      else if c = ',' then
        (itemsFrom (member string (value 126)) '\x7d' steps rest).map
          fun (ms, rest) => ((key, v) :: ms, rest)
      else none := by
  have hmember := member_readBack key hv hrest
  rw [toList_quote] at hmember ⊢
  rw [itemsFrom, afterBlanks_cons (by decide), hmember]
  dsimp only
  rw [afterBlanks_cons hblank]

/-- The members of an object are read one after the other. -/
lemma itemsFrom_compactMembers {members : Members} (hne : members ≠ [])
    (hread : ∀ m ∈ members, ReadBack m.2) {steps : Nat} (hsteps : members.length ≤ steps)
    (rest : List Char) :
    itemsFrom (member string (value 126)) '\x7d' steps
      ((compactMembers members).toList ++ '\x7d' :: rest) = some (members, rest) := by
  induction members generalizing steps with
  | nil => exact absurd rfl hne
  | cons m ms ih =>
    obtain ⟨key, v⟩ := m
    obtain ⟨steps, rfl⟩ : ∃ more, steps = more + 1 :=
      Nat.exists_eq_succ_of_ne_zero (Nat.ne_of_gt (Nat.lt_of_lt_of_le (Nat.succ_pos _) hsteps))
    have hv : ReadBack v := hread (key, v) List.mem_cons_self
    cases ms with
    | nil =>
      have htext : (compactMembers [(key, v)]).toList ++ '\x7d' :: rest =
          (quote key).toList ++ ':' :: (v.compact.toList ++ '\x7d' :: rest) := by
        simp [compactMembers]
      rw [htext, itemsFrom_member hv (by decide) (endsNumeral_cons (by decide) rest)]
      rfl
    | cons next ms =>
      have htext : (compactMembers ((key, v) :: next :: ms)).toList ++ '\x7d' :: rest =
          (quote key).toList ++ ':' :: (v.compact.toList ++
            ',' :: ((compactMembers (next :: ms)).toList ++ '\x7d' :: rest)) := by
        simp [compactMembers]
      rw [htext, itemsFrom_member hv (by decide) (endsNumeral_cons (by decide) _),
        ih (List.cons_ne_nil _ _) (fun m hm => hread m (List.mem_cons_of_mem _ hm))
          (Nat.le_of_succ_le_succ hsteps)]
      rfl

/-- An object has at least as many characters as members. -/
lemma length_le_compactMembers (members : Members) :
    members.length ≤ (compactMembers members).toList.length := by
  induction members with
  | nil => exact Nat.zero_le _
  | cons m ms ih =>
    have hcomma : ",".toList.length = 1 := rfl
    cases ms with
    | nil =>
      simp [compactMembers]
      omega
    | cons next ms =>
      simp only [compactMembers, String.toList_append, List.length_append, List.length_cons,
        hcomma] at ih ⊢
      omega

/-- The members of an object are read back. -/
lemma items_compactMembers {members : Members} (hread : ∀ m ∈ members, ReadBack m.2)
    (rest : List Char) :
    items (member string (value 126)) '\x7d' ((compactMembers members).toList ++ '\x7d' :: rest) =
      some (members, rest) := by
  cases members with
  | nil => rfl
  | cons m ms =>
    have hsteps : (m :: ms).length ≤
        ((compactMembers (m :: ms)).toList ++ '\x7d' :: rest).length := by
      rw [List.length_append]
      exact Nat.le_add_right_of_le (length_le_compactMembers _)
    have hitems := itemsFrom_compactMembers (List.cons_ne_nil m ms) hread hsteps rest
    obtain ⟨more, hmore⟩ : ∃ more, (compactMembers (m :: ms)).toList = '"' :: more := by
      cases ms <;> simp [compactMembers, quote]
    rw [hmore, List.cons_append] at hitems ⊢
    unfold items
    rw [afterBlanks_cons (by decide)]
    dsimp only
    rw [if_neg (by decide), hitems]

end Reader

/-- Members in ascending order stand as they are. -/
lemma ofMembers_of_ascending {members : Members} (h : Ascending members) :
    ofMembers members = .object members := by
  unfold ofMembers
  congr 1
  induction members using List.reverseRecOn with
  | nil => rfl
  | append_singleton members last ih =>
    obtain ⟨hfront, _, hlast⟩ := List.pairwise_append.1 h
    have hlt : ∀ m ∈ members, compare m.1 last.1 = .lt :=
      fun m hm => hlast m hm last List.mem_cons_self
    rw [List.foldl_append, ih hfront]
    exact insertEntry_eq_append hlt

/-- An object is read back from its compact form, if its members ascend and their values are read
back. -/
lemma parse_compact {members : Members} (h : Ascending members)
    (hread : ∀ m ∈ members, ReadBack m.2) :
    parse (Json.object members).compact = some (.object members) := by
  have htext : (Json.object members).compact.toList =
      '\x7b' :: ((compactMembers members).toList ++ ['\x7d']) := by
    simp [compact]
  have hobject : Reader.value Reader.maxDepth (Json.object members).compact.toList =
      some (.object members, []) := by
    rw [htext, show Reader.maxDepth = 126 + 1 from rfl, Reader.value,
      Reader.items_compactMembers hread, ← ofMembers_of_ascending h]
    rfl
  unfold parse Reader.all
  rw [htext, Reader.afterBlanks_cons (by decide), ← htext, hobject]
  rfl

end TamperWatch.Json
