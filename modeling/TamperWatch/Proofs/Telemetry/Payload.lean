import TamperWatch.Proofs.Text.Utf8
import TamperWatch.Telemetry.Payload

/-!
# What the bytes of a text decode to

The bytes of a text are read back as that text, and its blanks at the ends decide nothing about
whether it is an object. Main statements: a text that reads as a JSON object once it is trimmed
decodes to that object under every category (`Payload.decode_object`), and what any other text says
is up to the category (`Payload.decode_bare`).
-/

namespace TamperWatch

/-- The text is neither blank nor, once it is trimmed, an object. -/
structure IsBare (text : String) : Prop where
  not_blank : Text.trim text ≠ ""
  not_object : ∀ members, Json.parse (Text.trim text) ≠ some (.object members)

namespace Payload

/-- A blank text is refused as empty. -/
lemma decode_blank {category : Category} {text : String} (h : Text.trim text = "") :
    decode category text.toUTF8 = .error .empty := by
  unfold decode
  rw [Text.fromUTF8?_eq_some_iff.2 rfl]
  dsimp only
  rw [if_pos h]

/-- A text that is an object between blanks decodes to that object. -/
lemma decode_object {category : Category} {text : String} {members : Json.Members}
    (hne : Text.trim text ≠ "") (hread : Json.parse (Text.trim text) = some (.object members)) :
    decode category text.toUTF8 = .ok (.structured members) := by
  unfold decode
  rw [Text.fromUTF8?_eq_some_iff.2 rfl]
  dsimp only
  rw [if_neg hne, hread]

/-- A bare text is what the category makes of it. -/
lemma decode_bare {category : Category} {text : String} (h : IsBare text) :
    decode category text.toUTF8 = ofBareText category text (Text.trim text) := by
  unfold decode
  rw [Text.fromUTF8?_eq_some_iff.2 rfl]
  dsimp only
  rw [if_neg h.not_blank]
  split
  · rename_i members hread
    exact absurd hread (h.not_object members)
  · rfl

end Payload

end TamperWatch
