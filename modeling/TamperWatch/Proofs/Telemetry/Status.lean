import TamperWatch.Proofs.Json.Reader
import TamperWatch.Proofs.Telemetry.Delivery
import TamperWatch.Proofs.Telemetry.Payload
import TamperWatch.Proofs.Text.Token

/-!
# The forms of a status

A device sends its status as bare text, between quotes, or as the field of an object. The three are
trimmed, cut and brought to lower case at different places, and give the same token in the end
(`StatusForm.exists_token`). Main statement: they leave the same signal
(`Store.status_forms_agree`).
-/

namespace TamperWatch

/-- The ways to send a status: as it is, between quotes, and as the one field of an object. -/
inductive StatusForm (text : String) : Content → Prop
  | bare : StatusForm text (.raw text.toUTF8)
  | quoted : StatusForm text (.raw ("\"" ++ text ++ "\"").toUTF8)
  | structured : StatusForm text (.decoded (.structured [("status", .string text)]))

namespace Catalogue

/-- The flags of a status report are absent, so its token alone decides. -/
lemma update?_online_status (t : Thresholds) (token : String) :
    update? t .status .online [("status", .string token)] =
      some ⟨.online, .flag (onlineTokens.contains (Text.trim token).toLower), ∅⟩ := by
  have hflags : (Field.mk ["online", "connected"]).find? [("status", .string token)] = none :=
    find?_keys (by decide) _
  have htoken : (Field.mk ["status", "state"]).find? [("status", .string token)] =
      some (.string token) := find?_keys (by decide) _
  have hcondition : (Condition.any [present ["online", "connected"],
      .oneOf ⟨["status", "state"]⟩ onlineTokens]).holds [("status", .string token)] =
        onlineTokens.contains (Text.trim token).toLower := by
    simp [Condition.holds, present, hflags, htoken, Json.asToken?]
  rw [← hcondition]
  rfl

end Catalogue

namespace StatusForm

/-- A text between quotes has no blanks to trim. -/
lemma trim_quoted (text : String) : Text.trim ("\"" ++ text ++ "\"") = "\"" ++ text ++ "\"" :=
  Text.trim_enclosed '"' '"' (by decide) (by decide) text

/-- A text between quotes is not blank, and nothing but a brace begins an object. -/
lemma isBare_quoted (text : String) : IsBare ("\"" ++ text ++ "\"") := by
  constructor
  · rw [trim_quoted]
    simp
  · rw [trim_quoted]
    exact Json.parse_ne_object (c := '"') (by simp) (by decide) (by decide)

/-- In each form the one field is a text that becomes the same token. -/
lemma exists_token {text : String} {content : Content} (hform : StatusForm text content)
    (hbare : IsBare text) (hhead : (Text.trim text).toList.head? ≠ some '"')
    (hlast : (Text.trim text).toList.getLast? ≠ some '"') (device : String) (now : Moment) :
    ∃ token, (Delivery.mk device .status content now).members? =
        some [("status", .string token)] ∧
      (Text.trim token).toLower = (Text.trim text).toLower := by
  cases hform with
  | bare =>
    refine ⟨(Text.trim text).toLower, ?_, ?_⟩
    · have hcut : Text.strip (· == '"') (Text.trim text) = Text.trim text := by
        rw [Text.strip, Text.stripList_beq_eq_self hhead hlast, String.ofList_toList]
      have hdecode : Payload.decode .status text.toUTF8 = _ := Payload.decode_bare hbare
      rw [Payload.ofBareText, hcut] at hdecode
      exact Delivery.members?_of_ok hdecode
    · rw [Text.trim_toLower, Text.trim_trim, Text.toLower_toLower]
  | quoted =>
    refine ⟨text.toLower, ?_, ?_⟩
    · have hcut : Text.strip (· == '"') ("\"" ++ text ++ "\"") = text :=
        Text.strip_quoted (q := '"') (by decide) hhead hlast
      have hdecode : Payload.decode .status ("\"" ++ text ++ "\"").toUTF8 = _ :=
        Payload.decode_bare (isBare_quoted text)
      rw [trim_quoted, Payload.ofBareText, hcut] at hdecode
      exact Delivery.members?_of_ok hdecode
    · rw [Text.trim_toLower, Text.toLower_toLower]
  | structured => exact ⟨text, rfl, rfl⟩

end StatusForm

namespace Store

/-- A status says the same in all its forms. Whatever calls came before, a text that is neither
blank nor an object, and that has no quote at its ends, is applied in each form and leaves the
device online exactly if it is one of the four tokens, in any letter case and between blanks. -/
theorem status_forms_agree (t : Thresholds) (batches : List Batch) (device text : String)
    (now : Moment) (hbare : IsBare text) (hhead : (Text.trim text).toList.head? ≠ some '"')
    (hlast : (Text.trim text).toList.getLast? ≠ some '"') {content : Content}
    (hform : StatusForm text content) :
    let after := ((∅ : Store).recordAll batches).deliver t .unlimited
      ⟨device, .status, content, now⟩
    after.1.applied = true ∧
    after.2.get? device .online =
      some ⟨device, .online,
        .flag (decide ((Text.trim text).toLower ∈ ["online", "1", "true", "connected"])), ∅, none,
        now⟩ := by
  obtain ⟨token, hmembers, htoken⟩ := hform.exists_token hbare hhead hlast device now
  have hupdate : (Delivery.mk device .status content now).update? t .online =
      some ⟨.online, .flag (Catalogue.onlineTokens.contains (Text.trim text).toLower), ∅⟩ := by
    rw [Delivery.update?, hmembers, ← htoken]
    exact Catalogue.update?_online_status t token
  refine ⟨applied_of_update? _ .unlimited hupdate, ?_⟩
  rw [← List.contains_eq_mem]
  exact get?_deliver_replacing batches .unlimited (by decide) rfl hupdate

/-- Blanks of several kinds around the token, and a capital in it. -/
theorem status_forms_agree_between_blanks :
    IsBare "\u00a0 Connected\t" ∧
    ∀ content, StatusForm "\u00a0 Connected\t" content →
      (((∅ : Store).recordAll []).deliver .default .unlimited
        ⟨"canary-01", .status, content, 7⟩).2.get? "canary-01" .online =
        some ⟨"canary-01", .online, .flag true, ∅, none, 7⟩ := by
  have htrim : Text.trim "\u00a0 Connected\t" = "Connected" := by decide +kernel
  have hbare : IsBare "\u00a0 Connected\t" := by
    constructor
    · rw [htrim]
      decide
    · rw [htrim]
      exact Json.parse_ne_object (c := 'C') rfl (by decide) (by decide)
  refine ⟨hbare, fun content hform => ?_⟩
  have hagree := status_forms_agree .default [] "canary-01" "\u00a0 Connected\t" 7 hbare
    (by rw [htrim]; decide) (by rw [htrim]; decide) hform
  have hlower : "Connected".toLower = "connected" := by decide +kernel
  rw [htrim, hlower] at hagree
  exact hagree.2

end Store

end TamperWatch
