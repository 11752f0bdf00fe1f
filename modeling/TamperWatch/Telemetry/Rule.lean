import TamperWatch.Telemetry.Reading

/-!
# Rules

A rule feeds one signal: it says how the signal's value is read off a payload and which fields are
copied into its attributes.
-/

namespace TamperWatch

/-- A field that is copied into an attribute. -/
structure AttributeSource where
  name : String
  field : Field
  /-- What is copied where the field is absent. -/
  default : Option Json

/-- The attribute copied from a payload, if there is something to copy. -/
def AttributeSource.read? (a : AttributeSource) (o : Json.Members) : Option (String × Json) :=
  ((a.field.find? o).or a.default).map fun v => (a.name, v)

/-- How one signal is read off a payload. -/
structure Rule where
  kind : SignalKind
  reading : Reading
  attributes : List AttributeSource := []

namespace Rule

/-- The attributes copied from a payload. -/
def attributesOf (r : Rule) (o : Json.Members) : Attributes :=
  .ofList (r.attributes.filterMap (·.read? o))

/-- The update that a payload makes, if the rule has a reading of it. -/
def evaluate (r : Rule) (o : Json.Members) : Option Update :=
  (r.reading.read? o).map fun value => ⟨r.kind, value, r.attributesOf o⟩

/-- A rule makes updates of its own signal. -/
theorem kind_of_evaluate {r : Rule} {o : Json.Members} {u : Update} (h : r.evaluate o = some u) :
    u.kind = r.kind := by
  obtain ⟨value, _, rfl⟩ := Option.map_eq_some_iff.1 h
  rfl

end Rule

end TamperWatch
