import Mathlib.Data.List.Basic
import TamperWatch.Text.Blank

/-!
# The bytes of texts

Bytes are a text if they are the UTF-8 encoding of some characters, and then they are read as that
text (`Text.fromUTF8?_eq_some_iff`). No encoded character begins or ends inside another one. Main
statement: bytes between two texts are a text exactly if they are one by themselves
(`Text.isValidUTF8_padded_iff`).
-/

namespace TamperWatch.Text

/-- Bytes are a text exactly if they are its encoding. -/
lemma fromUTF8?_eq_some_iff {raw : ByteArray} {text : String} :
    String.fromUTF8? raw = some text ↔ raw = text.toUTF8 := by
  unfold String.fromUTF8?
  constructor
  · intro h
    split at h
    · cases h
      rfl
    · cases h
  · rintro rfl
    have hvalid : text.toUTF8.IsValidUTF8 := text.isValidUTF8
    rw [dif_pos hvalid]
    rfl

/-- Bytes are no text exactly if they are not valid. -/
lemma fromUTF8?_eq_none_iff {raw : ByteArray} :
    String.fromUTF8? raw = none ↔ ¬ raw.IsValidUTF8 := by
  unfold String.fromUTF8?
  split <;> simp_all

/-- The encodings of texts that follow each other are that of the joined text. -/
lemma toUTF8_padded (before text after : String) :
    before.toUTF8 ++ text.toUTF8 ++ after.toUTF8 = (before ++ text ++ after).toUTF8 := by
  simp

/-- Bytes between two texts are a text exactly if they are one by themselves. -/
lemma isValidUTF8_padded_iff {raw : ByteArray} (before after : String) :
    (before.toUTF8 ++ raw ++ after.toUTF8).IsValidUTF8 ↔ raw.IsValidUTF8 := by
  constructor
  · intro h
    let whole : String := ⟨before.toUTF8 ++ raw ++ after.toUTF8, h⟩
    let start : String.Pos.Raw := ⟨before.toUTF8.size⟩
    let stop : String.Pos.Raw := ⟨(before.toUTF8 ++ raw).size⟩
    have hwhole : whole.toByteArray = before.toUTF8 ++ raw ++ after.toUTF8 := rfl
    have hsize : whole.utf8ByteSize = (before.toUTF8 ++ raw ++ after.toUTF8).size := rfl
    have hle : start ≤ stop := by
      simp [start, stop, String.Pos.Raw.le_iff]
    have hend : stop ≤ whole.rawEndPos := by
      simp [stop, String.Pos.Raw.le_iff, hsize]
    -- Both ends of the bytes in the middle are ends of characters of the whole text.
    have hstart : start.IsValid whole := by
      refine String.Pos.Raw.isValid_iff_isValidUTF8_extract_zero.2
        ⟨String.Pos.Raw.le_trans hle hend, ?_⟩
      rw [hwhole, ByteArray.append_assoc, ByteArray.extract_append_eq_left rfl]
      exact before.isValidUTF8
    have hstop : stop.IsValid whole := by
      refine String.Pos.Raw.isValid_iff_isValidUTF8_extract_utf8ByteSize.2 ⟨hend, ?_⟩
      rw [hwhole, hsize, ByteArray.extract_append_eq_right rfl ByteArray.size_append]
      exact after.isValidUTF8
    have hraw : whole.toByteArray.extract start.byteIdx stop.byteIdx = raw := by
      rw [hwhole, ByteArray.extract_append_size_left,
        ByteArray.extract_append_eq_right rfl ByteArray.size_append]
    rw [← hraw]
    exact (String.Pos.Raw.isValidUTF8_extract_iff start stop hle hend).2 (.inr ⟨hstart, hstop⟩)
  · intro h
    exact (before.isValidUTF8.append h).append after.isValidUTF8

end TamperWatch.Text
