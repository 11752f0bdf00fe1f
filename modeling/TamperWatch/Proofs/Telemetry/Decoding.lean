import TamperWatch.Proofs.Telemetry.Payload
import TamperWatch.Proofs.Text.Blank
import TamperWatch.Proofs.Text.Numeral

/-!
# Decoding by the trimmed text

Bytes are no text, or a blank text, or an object between blanks, or a bare text; each of the four
has its own outcome, and only that of a bare text is a matter of the category. All but an event text
is decided by the trimmed text, so blanks at the ends change nothing else. Main statement:
`Payload.decode_determined`.
-/

namespace TamperWatch

/-- The categories that take objects only. -/
def Category.objectOnly : List Category :=
  [.chain, .health, .transport, .mesh, .chirp]

namespace Payload

/-- What a category makes of a bare text. -/
inductive BareOutcome (text : String) : Category → Except DecodeError Payload → Prop where
  | notAnObject {category} :
    category ∈ Category.objectOnly →
    BareOutcome text category (.error (.notAnObject category))
  | status :
    BareOutcome text .status
      (.ok (.statusToken (Text.strip (· == '"') (Text.trim text)).toLower))
  | tamper :
    BareOutcome text .tamper (.ok (.tamperText (Text.trim text)))
  | count {n} :
    Numeral.DenotesWord (Text.trim text).toList n →
    BareOutcome text .counts (.ok (.count n))
  | notAnInteger :
    (∀ n, ¬ Numeral.DenotesWord (Text.trim text).toList n) →
    BareOutcome text .counts (.error .notAnInteger)
  | event :
    BareOutcome text .events (.ok (.eventText (String.ofList (text.toList.take 255))))

/-- What a category makes of a bare text is what is said of it. -/
lemma bareOutcome_ofBareText (category : Category) (text : String) :
    BareOutcome text category (ofBareText category text (Text.trim text)) := by
  cases category with
  | status => exact .status
  | tamper => exact .tamper
  | events => exact .event
  | counts =>
    unfold ofBareText
    dsimp only
    split
    · rename_i n hn
      exact .count (Numeral.word?_eq_some_iff.1 hn)
    · rename_i hnone
      refine .notAnInteger fun n hn => ?_
      rw [Numeral.word?_eq_some_iff.2 hn] at hnone
      cases hnone
  | _ => exact .notAnObject (by decide)

/-- A bare text is neither unreadable nor empty nor an object. -/
lemma BareOutcome.ne {text : String} {category : Category} {result : Except DecodeError Payload}
    (h : BareOutcome text category result) :
    result ≠ .error .notUtf8 ∧ result ≠ .error .empty ∧
      ∀ members, result ≠ .ok (.structured members) := by
  cases h <;> simp

/-- A text is blank, or an object between blanks, or bare. -/
lemma blank_or_object_or_bare (text : String) :
    Text.trim text = "" ∨
      (Text.trim text ≠ "" ∧ ∃ members, Json.parse (Text.trim text) = some (.object members)) ∨
      IsBare text := by
  by_cases hblank : Text.trim text = ""
  · exact .inl hblank
  by_cases hobject : ∃ members, Json.parse (Text.trim text) = some (.object members)
  · exact .inr (.inl ⟨hblank, hobject⟩)
  · exact .inr (.inr ⟨hblank, not_exists.1 hobject⟩)

/-- Bytes are refused as no text exactly if they are not valid. -/
lemma decode_eq_notUtf8_iff {category : Category} {raw : ByteArray} :
    decode category raw = .error .notUtf8 ↔ ¬ raw.IsValidUTF8 := by
  rw [← Text.fromUTF8?_eq_none_iff]
  constructor
  · intro h
    cases htext : String.fromUTF8? raw with
    | none => rfl
    | some text =>
      obtain rfl := Text.fromUTF8?_eq_some_iff.1 htext
      rcases blank_or_object_or_bare text with hblank | ⟨hne, members, hread⟩ | hbare
      · rw [decode_blank hblank] at h
        cases h
      · rw [decode_object hne hread] at h
        cases h
      · rw [decode_bare hbare] at h
        exact absurd h (bareOutcome_ofBareText category text).ne.1
  · intro h
    unfold decode
    rw [h]

/-- A text is refused as empty exactly if it is blank. -/
lemma decode_eq_empty_iff {category : Category} {text : String} :
    decode category text.toUTF8 = .error .empty ↔ Text.trim text = "" := by
  refine ⟨fun h => ?_, decode_blank⟩
  rcases blank_or_object_or_bare text with hblank | ⟨hne, members, hread⟩ | hbare
  · exact hblank
  · rw [decode_object hne hread] at h
    cases h
  · rw [decode_bare hbare] at h
    exact absurd h (bareOutcome_ofBareText category text).ne.2.1

/-- A text is structured exactly if it is an object between blanks. -/
lemma decode_eq_structured_iff {category : Category} {text : String} {members : Json.Members} :
    decode category text.toUTF8 = .ok (.structured members) ↔
      Json.parse (Text.trim text) = some (.object members) := by
  rcases blank_or_object_or_bare text with hblank | ⟨hne, members', hread⟩ | hbare
  · rw [decode_blank hblank, hblank]
    constructor <;> intro h <;> cases h
  · rw [decode_object hne hread, hread]
    simp
  · rw [decode_bare hbare]
    have hnot := (bareOutcome_ofBareText category text).ne.2.2 members
    exact ⟨fun h => absurd h hnot, fun h => absurd h (hbare.not_object members)⟩

/-- Blanks at the ends of a text change at most an event text. -/
lemma decode_append {category : Category} {before text after : String}
    (hbefore : ∀ c ∈ before.toList, Text.isBlank c = true)
    (hafter : ∀ c ∈ after.toList, Text.isBlank c = true)
    (hevent : category = .events → ∀ kept, decode category text.toUTF8 ≠ .ok (.eventText kept)) :
    decode category (before ++ text ++ after).toUTF8 = decode category text.toUTF8 := by
  have htrim : Text.trim (before ++ text ++ after) = Text.trim text :=
    Text.trim_append text hbefore hafter
  rcases blank_or_object_or_bare text with hblank | ⟨hne, members, hread⟩ | hbare
  · rw [decode_blank hblank, decode_blank (htrim ▸ hblank)]
  · rw [decode_object hne hread, decode_object (htrim ▸ hne) (htrim ▸ hread)]
  · have hbare' : IsBare (before ++ text ++ after) :=
      ⟨htrim ▸ hbare.not_blank, htrim ▸ hbare.not_object⟩
    rw [decode_bare hbare] at hevent
    rw [decode_bare hbare, decode_bare hbare', htrim]
    cases category with
    | events => exact absurd rfl (hevent rfl _)
    | _ => rfl

/-- Decoding is determined by the trimmed text. Bytes that are no text are refused as such under
every category, a text of blanks as empty, and a text that is an object between blanks decodes to
it; any other text has the outcome that its category gives to bare texts. Blanks at either end of
the bytes change nothing, except where they decode to an event text, which keeps its blanks. -/
theorem decode_determined (category : Category) (raw : ByteArray) :
    (decode category raw = .error .notUtf8 ↔ ¬ raw.IsValidUTF8) ∧
    (∀ text : String, raw = text.toUTF8 →
      (decode category raw = .error .empty ↔ ∀ c ∈ text.toList, Text.isBlank c = true) ∧
      (∀ members, decode category raw = .ok (.structured members) ↔
        Json.parse (Text.trim text) = some (.object members)) ∧
      (IsBare text → BareOutcome text category (decode category raw))) ∧
    ∀ before after : String, (∀ c ∈ before.toList, Text.isBlank c = true) →
      (∀ c ∈ after.toList, Text.isBlank c = true) →
      (category = .events → ∀ kept, decode category raw ≠ .ok (.eventText kept)) →
      decode category (before.toUTF8 ++ raw ++ after.toUTF8) = decode category raw := by
  refine ⟨decode_eq_notUtf8_iff, ?_, fun before after hbefore hafter hevent => ?_⟩
  · rintro text rfl
    refine ⟨?_, fun _ => decode_eq_structured_iff, fun hbare => ?_⟩
    · rw [decode_eq_empty_iff, Text.trim_eq_empty_iff]
    · rw [decode_bare hbare]
      exact bareOutcome_ofBareText category text
  · cases htext : String.fromUTF8? raw with
    -- Blanks are whole characters, and so they complete no character that the bytes break off.
    | none =>
      have hraw : ¬ raw.IsValidUTF8 := Text.fromUTF8?_eq_none_iff.1 htext
      have hpadded : ¬ (before.toUTF8 ++ raw ++ after.toUTF8).IsValidUTF8 :=
        mt (Text.isValidUTF8_padded_iff before after).1 hraw
      rw [decode_eq_notUtf8_iff.2 hraw, decode_eq_notUtf8_iff.2 hpadded]
    | some text =>
      obtain rfl := Text.fromUTF8?_eq_some_iff.1 htext
      rw [Text.toUTF8_padded]
      exact decode_append hbefore hafter hevent

/-- The first two of the three bytes of an em space are no text, also between em spaces; and an
object between other blanks is that object, also as an event. -/
theorem decode_determined_between_blanks :
    (∀ c ∈ "\u2003".toList, Text.isBlank c = true) ∧
      ¬ (⟨#[0xe2, 0x80]⟩ : ByteArray).IsValidUTF8 ∧
      decode .status ("\u2003".toUTF8 ++ ⟨#[0xe2, 0x80]⟩ ++ "\u2003".toUTF8) = .error .notUtf8 ∧
      (∀ kept, decode .events "\x7b\"type\":\"door\"\x7d".toUTF8 ≠ .ok (.eventText kept)) ∧
      decode .events ("\u00a0\n".toUTF8 ++ "\x7b\"type\":\"door\"\x7d".toUTF8 ++ "\u3000".toUTF8) =
        .ok (.structured [("type", .string "door")]) := by
  have hspace : ∀ c ∈ "\u2003".toList, Text.isBlank c = true := by simp [Text.isBlank]
  have hbroken : ¬ (⟨#[0xe2, 0x80]⟩ : ByteArray).IsValidUTF8 := by decide +kernel
  have hparse : Json.parse (Text.trim "\x7b\"type\":\"door\"\x7d") =
      some (.object [("type", .string "door")]) := by
    with_unfolding_all rfl
  obtain ⟨hunread, _, hpadded⟩ := decode_determined .status ⟨#[0xe2, 0x80]⟩
  obtain ⟨_, hread, hpadded'⟩ := decode_determined .events "\x7b\"type\":\"door\"\x7d".toUTF8
  have hobject := ((hread _ rfl).2.1 _).2 hparse
  have hkept : ∀ kept,
      decode .events "\x7b\"type\":\"door\"\x7d".toUTF8 ≠ .ok (.eventText kept) := by
    rw [hobject]
    intro kept h
    cases h
  refine ⟨hspace, hbroken, ?_, hkept, ?_⟩
  · rw [hpadded _ _ hspace hspace (by simp), hunread.2 hbroken]
  · rw [hpadded' _ _ (by simp [Text.isBlank]) (by simp [Text.isBlank]) fun _ => hkept, hobject]

end Payload

end TamperWatch
