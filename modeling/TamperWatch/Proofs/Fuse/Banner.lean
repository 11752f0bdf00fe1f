import Mathlib.Data.List.DropRight
import TamperWatch.Fuse.Attributes

/-!
# Text around a summary

Tools print banners around the summary of a device. What stands before the first opening brace and
after the last closing one is set aside (`FuseAttributes.braced?_between`), and only a text without
an opening brace that a closing one follows has no such part (`FuseAttributes.braced?_eq_none_iff`).
Main statement: banners do not change what is read, and a text without a summary is refused
(`FuseAttributes.parse_banner`).
-/

namespace TamperWatch.FuseAttributes

/-- The braced part of a text is what lies between its first opening and its last closing brace. -/
lemma braced?_eq (cs : List Char) :
    braced? cs =
      let body := (cs.dropWhile (· ≠ '\x7b')).rdropWhile (· ≠ '\x7d')
      if body.isEmpty then none else some body := rfl

/-- What stands before the first opening brace and after the last closing one is set aside. -/
lemma braced?_between {before after : List Char} (inner : List Char) (hbefore : '\x7b' ∉ before)
    (hafter : '\x7d' ∉ after) :
    braced? (before ++ ('\x7b' :: inner ++ ['\x7d']) ++ after) =
      some ('\x7b' :: inner ++ ['\x7d']) := by
  have hfront : (before ++ ('\x7b' :: inner ++ ['\x7d']) ++ after).dropWhile (· ≠ '\x7b') =
      '\x7b' :: inner ++ ['\x7d'] ++ after := by
    have hskip : ∀ c ∈ before, decide (c ≠ '\x7b') = true := fun c hc =>
      decide_eq_true fun heq => hbefore (heq ▸ hc)
    rw [List.append_assoc, List.dropWhile_append_of_pos hskip]
    rfl
  have hback : ('\x7b' :: inner ++ ['\x7d'] ++ after).rdropWhile (· ≠ '\x7d') =
      '\x7b' :: inner ++ ['\x7d'] := by
    have hskip : ∀ c ∈ after.reverse, decide (c ≠ '\x7d') = true := fun c hc =>
      decide_eq_true fun heq => hafter (heq ▸ List.mem_reverse.1 hc)
    unfold List.rdropWhile
    rw [List.reverse_append, List.dropWhile_append_of_pos hskip]
    exact List.rdropWhile_concat_neg _ _ _ (by simp)
  rw [braced?_eq, hfront]
  dsimp only
  rw [hback]
  rfl

/-- After the first opening brace stands a closing one exactly if one follows an opening brace
somewhere. -/
lemma mem_dropWhile_iff {cs : List Char} :
    '\x7d' ∈ cs.dropWhile (· ≠ '\x7b') ↔
      ∃ before inner after, cs = before ++ '\x7b' :: inner ++ '\x7d' :: after := by
  constructor
  · intro hclosing
    have hne := List.ne_nil_of_mem hclosing
    have hhead := List.head_dropWhile_not (· ≠ '\x7b') hne
    obtain ⟨c, rest, hopened⟩ := List.exists_cons_of_ne_nil hne
    simp only [hopened, List.head_cons] at hhead
    have hc : c = '\x7b' := by simpa using hhead
    rw [hopened, hc] at hclosing
    obtain ⟨inner, after, hrest⟩ := List.append_of_mem
      ((List.mem_cons.1 hclosing).resolve_left (by decide))
    refine ⟨cs.takeWhile (· ≠ '\x7b'), inner, after, ?_⟩
    conv_lhs => rw [← List.takeWhile_append_dropWhile (p := (· ≠ '\x7b')) (l := cs)]
    rw [hopened, hc, hrest, List.append_assoc, List.cons_append]
  · rintro ⟨before, inner, after, rfl⟩
    rw [List.append_assoc, List.dropWhile_append]
    split
    · simp
    · simp

/-- A text has no part between braces exactly if no closing brace follows an opening one. -/
lemma braced?_eq_none_iff {cs : List Char} :
    braced? cs = none ↔
      ¬ ∃ before inner after, cs = before ++ '\x7b' :: inner ++ '\x7d' :: after := by
  have hempty : ((cs.dropWhile (· ≠ '\x7b')).rdropWhile (· ≠ '\x7d')).isEmpty = true ↔
      '\x7d' ∉ cs.dropWhile (· ≠ '\x7b') := by
    rw [List.isEmpty_iff, List.rdropWhile_eq_nil_iff]
    constructor
    · intro hall hclosing
      exact of_decide_eq_true (hall _ hclosing) rfl
    · intro hnone c hc
      exact decide_eq_true fun heq => hnone (heq ▸ hc)
  rw [braced?_eq, ← mem_dropWhile_iff, ← hempty]
  dsimp only
  split
  case isTrue hnone => exact iff_of_true rfl hnone
  case isFalse hsome => exact iff_of_false nofun hsome

/-- What is read from a text is what its braced part says. -/
lemma parse_of_braced? {text body : String} (h : braced? text.toList = some body.toList) :
    parse text =
      match Json.parse body with
      | some v => ofJson v
      | none => .error .malformed := by
  unfold parse
  rw [h]
  dsimp only
  rw [String.ofList_toList]
  cases Json.parse body <;> rfl

/-- No object is found in a text exactly if it has no braced part. -/
lemma parse_eq_noObject_iff {text : String} :
    parse text = .error .noObject ↔ braced? text.toList = none := by
  constructor
  · intro h
    unfold parse at h
    split at h
    · assumption
    · split at h
      · cases h
      · rename_i v _
        cases v <;> cases h
  · intro h
    unfold parse
    rw [h]

/-- Banners do not change what is read. A text between braces is read as its JSON value, or refused
if it has none, whatever stands before it without an opening brace and after it without a closing
one. A text without an opening brace that a closing one follows is refused, and no other text is
refused for that reason. -/
theorem parse_banner :
    (∀ before inner after : String, '\x7b' ∉ before.toList → '\x7d' ∉ after.toList →
      let body := "\x7b" ++ inner ++ "\x7d"
      parse (before ++ body ++ after) = parse body ∧
      parse body =
        match Json.parse body with
        | some v => ofJson v
        | none => .error .malformed) ∧
    ∀ text : String, parse text = .error .noObject ↔
      ¬ ∃ before inner after : String, text = before ++ "\x7b" ++ inner ++ "\x7d" ++ after := by
  refine ⟨fun before inner after hbefore hafter => ?_, fun text => ?_⟩
  · have hbody : ("\x7b" ++ inner ++ "\x7d").toList = '\x7b' :: inner.toList ++ ['\x7d'] := by
      simp
    have halone : braced? ("\x7b" ++ inner ++ "\x7d").toList =
        some ("\x7b" ++ inner ++ "\x7d").toList := by
      have hnone (c : Char) : c ∉ [] := List.not_mem_nil
      have h := braced?_between inner.toList (hnone '\x7b') (hnone '\x7d')
      rwa [List.nil_append, List.append_nil, ← hbody] at h
    have hbanner : braced? (before ++ ("\x7b" ++ inner ++ "\x7d") ++ after).toList =
        some ("\x7b" ++ inner ++ "\x7d").toList := by
      rw [String.toList_append, String.toList_append, hbody]
      exact braced?_between inner.toList hbefore hafter
    exact ⟨(parse_of_braced? hbanner).trans (parse_of_braced? halone).symm,
      parse_of_braced? halone⟩
  · rw [parse_eq_noObject_iff, braced?_eq_none_iff]
    refine not_congr ⟨?_, ?_⟩
    · rintro ⟨before, inner, after, htext⟩
      refine ⟨String.ofList before, String.ofList inner, String.ofList after, ?_⟩
      rw [← String.toList_inj, htext]
      simp
    · rintro ⟨before, inner, after, rfl⟩
      exact ⟨before.toList, inner.toList, after.toList, by simp⟩

/-- A banner with a closing brace before a summary and one with an opening brace after it. -/
theorem parse_banner_misleading_braces :
    parse "v4.7\x7d\n\x7b\"DIS_PAD_JTAG\": \x7b\"value\": true\x7d\x7d\nDone\u2026 \x7b" =
      .ok (.ofList [("DIS_PAD_JTAG", .int 1)]) := by
  obtain ⟨hbanner, hbody⟩ := parse_banner.1 "v4.7\x7d\n" "\"DIS_PAD_JTAG\": \x7b\"value\": true\x7d"
    "\nDone\u2026 \x7b" (by decide) (by decide)
  have htext : "v4.7\x7d\n\x7b\"DIS_PAD_JTAG\": \x7b\"value\": true\x7d\x7d\nDone\u2026 \x7b" =
      "v4.7\x7d\n" ++ ("\x7b" ++ "\"DIS_PAD_JTAG\": \x7b\"value\": true\x7d" ++ "\x7d") ++
        "\nDone\u2026 \x7b" := by decide
  rw [htext]
  exact hbanner.trans (hbody.trans (by decide +kernel))

end TamperWatch.FuseAttributes
