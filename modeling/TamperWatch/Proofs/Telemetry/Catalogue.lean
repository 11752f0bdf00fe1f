import TamperWatch.Proofs.Data.SortedMap
import TamperWatch.Proofs.Json.Path
import TamperWatch.Telemetry.Catalogue

/-!
# The rule of a signal

A category has at most one rule for each signal, so a payload makes at most one update of each
signal (`Catalogue.filter_kind_updates`). Sticky signals are fed by health reports and tamper events
alone. Main statements: such an update asserts its signal exactly if the payload shows the
tampering that the signal stands for (`Catalogue.any_asserts_update?`), and what shows some kind of
tampering shows tampering at all (`Catalogue.trips_anyTamper`).
-/

namespace TamperWatch.Catalogue

/-- The rule by which a category feeds a signal. -/
def rule? (t : Thresholds) (category : Category) (kind : SignalKind) : Option Rule :=
  (rules t category).find? (·.kind = kind)

/-- The update that a payload makes to a signal. -/
def update? (t : Thresholds) (category : Category) (kind : SignalKind) (o : Json.Members) :
    Option Update :=
  (rule? t category kind).bind (·.evaluate o)

/-- A tamper event names a kind: its type is the kind's name, or a field of that name is true. -/
def namesKind (kind : TamperKind) (o : Json.Members) : Bool :=
  (o.lookup "type").bind Json.asToken? == some kind.name ||
    (o.lookup kind.name).any Json.isTruthy

/-- A payload of a category shows the tampering that a sticky signal stands for. -/
def trips (t : Thresholds) : Category → SignalKind → Json.Members → Bool
  | .tamper, .anyTamper, _ => true
  | .tamper, .tamper kind, o => namesKind kind o
  | .health, .anyTamper, o =>
    (Condition.asserted ⟨["tamper_detected", "tamper"]⟩).holds o ||
      TamperKind.all.any fun kind => (healthTamper t kind).holds o
  | .health, .tamper kind, o => (healthTamper t kind).holds o
  | _, _, _ => false

/-- Among the updates of rules for distinct signals, those of one signal are what its rule makes. -/
lemma filter_filterMap_evaluate {rs : List Rule} (h : (rs.map (·.kind)).Nodup) (kind : SignalKind)
    (o : Json.Members) :
    (rs.filterMap (·.evaluate o)).filter (·.kind = kind) =
      ((rs.find? (·.kind = kind)).bind (·.evaluate o)).toList := by
  induction rs with
  | nil => rfl
  | cons r rs ih =>
    obtain ⟨hr, hrs⟩ := List.nodup_cons.1 h
    by_cases hk : r.kind = kind
    -- No later rule is of the kind, so none after this one updates it.
    · have hrest : (rs.filterMap (·.evaluate o)).filter (·.kind = kind) = [] := by
        refine List.filter_eq_nil_iff.2 fun u hu huk => ?_
        obtain ⟨r', hr', he⟩ := List.mem_filterMap.1 hu
        have hkind : r'.kind = r.kind := by
          rw [← Rule.kind_of_evaluate he, hk]
          simpa using huk
        exact hr (List.mem_map.2 ⟨r', hr', hkind⟩)
      cases he : r.evaluate o with
      | none => simp [he, hk, hrest]
      | some u => simp [he, hk, hrest, Rule.kind_of_evaluate he]
    · cases he : r.evaluate o with
      | none => simp [he, hk, ih hrs]
      | some u => simp [he, hk, ih hrs, Rule.kind_of_evaluate he]

/-- The rules of a category are for distinct signals. -/
lemma nodup_kinds (t : Thresholds) (category : Category) :
    ((rules t category).map (·.kind)).Nodup := by
  cases category <;> simp [rules, statusRules, chainRules, healthRules, tamperRules, transportRules,
    meshRules, chirpRules, countsRules, eventsRules, TamperKind.all, Link.all]

/-- Of the updates that a payload makes, those of one signal are the one that its rule makes. -/
lemma filter_kind_updates (t : Thresholds) (category : Category) (kind : SignalKind)
    (o : Json.Members) :
    (updates t category o).filter (·.kind = kind) = (update? t category kind o).toList :=
  filter_filterMap_evaluate (nodup_kinds t category) kind o

/-- The rule of a signal is one of the category's rules and is for that signal. -/
lemma mem_rules_of_rule? {t : Thresholds} {category : Category} {kind : SignalKind} {r : Rule}
    (h : rule? t category kind = some r) : r ∈ rules t category ∧ r.kind = kind := by
  constructor
  · exact List.mem_of_find?_eq_some h
  · simpa using List.find?_some h

/-- A signal that is updated is one that the category affects. -/
lemma mem_affected_of_update? {t : Thresholds} {category : Category} {kind : SignalKind}
    {o : Json.Members} {u : Update} (h : update? t category kind o = some u) :
    kind ∈ affected t category := by
  obtain ⟨r, hr, _⟩ := Option.bind_eq_some_iff.1 h
  exact mem_affected_iff.2 ⟨r, mem_rules_of_rule? hr⟩

/-- A field whose paths have no dot is the first member of those keys that is present. -/
lemma find?_keys {keys : List String} (h : ∀ key ∈ keys, '.' ∉ key.toList) (o : Json.Members) :
    (Field.mk keys).find? o = keys.findSome? (o.lookup ·) := by
  show keys.findSome? (Json.atPath? o) = keys.findSome? (o.lookup ·)
  induction keys with
  | nil => rfl
  | cons key keys ih =>
    rw [List.findSome?_cons, List.findSome?_cons, Json.atPath?_key (h key List.mem_cons_self),
      ih fun key hkey => h key (List.mem_cons_of_mem _ hkey)]

/-- A field that is looked for under a plain key is what stands under it. -/
lemma find?_one {key : String} (h : '.' ∉ key.toList) (o : Json.Members) :
    (Field.one key).find? o = o.lookup key := by
  rw [Field.one, find?_keys (by simpa using h)]
  cases hk : o.lookup key <;> simp [hk]

/-- The condition on an event is that it names the kind. -/
lemma holds_eventTamper (kind : TamperKind) (o : Json.Members) :
    (eventTamper kind).holds o = namesKind kind o := by
  have hname : kind.name.toLower = kind.name := by cases kind <;> decide +kernel
  have htype : (Field.one "type").find? o = o.lookup "type" := find?_one (by decide) o
  have hfield : (Field.one kind.name).find? o = o.lookup kind.name :=
    find?_one (by cases kind <;> decide) o
  have htoken : (Condition.equals (.one "type") kind.name).holds o =
      ((o.lookup "type").bind Json.asToken? == some kind.name) := by
    rw [Condition.equals, hname, Condition.holds, htype]
    cases (o.lookup "type").bind Json.asToken? <;> simp [beq_eq_decide]
  have hflag : (present [kind.name]).holds o = (o.lookup kind.name).any Json.isTruthy := by
    rw [present, Condition.holds, ← Field.one, hfield]
    cases o.lookup kind.name <;> rfl
  simp [eventTamper, Condition.holds, htoken, hflag, namesKind]

/-- The condition on a health report is that it shows tampering. -/
lemma holds_healthAnyTamper (t : Thresholds) (o : Json.Members) :
    (healthAnyTamper t).holds o = trips t .health .anyTamper o := by
  simp [healthAnyTamper, Condition.holds, trips, Function.comp_def]

/-- The rule by which health reports feed the aggregate. -/
lemma rule?_health_anyTamper (t : Thresholds) :
    rule? t .health .anyTamper = some ⟨.anyTamper, .flag (healthAnyTamper t), []⟩ := rfl

/-- The rule by which health reports feed a kind of tampering. -/
lemma rule?_health_tamper (t : Thresholds) (kind : TamperKind) :
    rule? t .health (.tamper kind) = some ⟨.tamper kind, .flag (healthTamper t kind), []⟩ := by
  cases kind <;> rfl

/-- The rule by which tamper events feed the aggregate. -/
lemma rule?_tamper_anyTamper (t : Thresholds) :
    rule? t .tamper .anyTamper =
      some ⟨.anyTamper, .flag .always,
        [copyOr "tamper_type" ["type"] (.string "unknown"),
         copyOr "timestamp" ["timestamp"] (.string ""),
         copyOr "detail" ["detail"] (.string "")]⟩ := rfl

/-- The rule by which tamper events feed a kind of tampering. -/
lemma rule?_tamper_tamper (t : Thresholds) (kind : TamperKind) :
    rule? t .tamper (.tamper kind) =
      some ⟨.tamper kind, .flag (eventTamper kind),
        [copyOr "detail" ["detail"] (.string ""),
         copyOr "severity" ["severity"] (.string "tamper")]⟩ := by
  cases kind <;> rfl

/-- The rule of a flag asserts exactly if its condition holds. -/
lemma any_asserts_of_rule? {t category kind condition attributes}
    (h : rule? t category kind = some ⟨kind, .flag condition, attributes⟩) (o : Json.Members) :
    (update? t category kind o).any (·.asserts) = condition.holds o := by
  cases hc : condition.holds o <;>
    simp [update?, h, Rule.evaluate, Reading.read?, Update.asserts, hc]

/-- An update of a sticky signal asserts it exactly if the payload shows its tampering. -/
lemma any_asserts_update? (t : Thresholds) (category : Category) {kind : SignalKind}
    (hk : kind.latch = .sticky) (o : Json.Members) :
    (update? t category kind o).any (·.asserts) = trips t category kind o := by
  cases kind with
  | anyTamper =>
    cases category with
    | health =>
      exact (any_asserts_of_rule? (rule?_health_anyTamper t) o).trans (holds_healthAnyTamper t o)
    | _ => rfl
  | tamper kind =>
    cases category with
    | health => exact any_asserts_of_rule? (rule?_health_tamper t kind) o
    | tamper =>
      exact (any_asserts_of_rule? (rule?_tamper_tamper t kind) o).trans (holds_eventTamper kind o)
    | _ => cases kind <;> rfl
  | _ => cases hk

/-- Health reports and tamper events always update every sticky signal, and nothing else does. -/
lemma isSome_update?_sticky (t : Thresholds) (category : Category) {kind : SignalKind}
    (hk : kind.latch = .sticky) (o : Json.Members) :
    (update? t category kind o).isSome = (category == .health || category == .tamper) := by
  cases kind with
  | anyTamper => cases category <;> rfl
  | tamper kind => cases category <;> cases kind <;> rfl
  | _ => cases hk

/-- An update has no attributes exactly if no source of its rule gives any. -/
lemma isEmpty_attributes_of_rule? {t category kind reading attributes o u}
    (h : rule? t category kind = some ⟨kind, reading, attributes⟩)
    (hu : update? t category kind o = some u) :
    u.attributes.isEmpty = (attributes.filterMap (·.read? o)).isEmpty := by
  rw [update?, h] at hu
  obtain ⟨value, _, rfl⟩ := Option.map_eq_some_iff.1 hu
  exact SortedMap.isEmpty_ofList _

/-- An attribute with a default is always there. -/
lemma isEmpty_filterMap_copyOr (name : String) (paths : List String) (default : Json)
    (rest : List AttributeSource) (o : Json.Members) :
    ((copyOr name paths default :: rest).filterMap (·.read? o)).isEmpty = false := by
  unfold copyOr
  rw [List.filterMap_cons]
  cases hf : Field.find? ⟨paths⟩ o <;> simp [AttributeSource.read?, hf]

/-- Health reports give no details of a sticky signal, and tamper events always do. -/
lemma isEmpty_attributes_of_update? {t category kind o u} (hk : kind.latch = .sticky)
    (hu : update? t category kind o = some u) :
    u.attributes.isEmpty = (category == .health) := by
  have hsome := isSome_update?_sticky t category hk o
  rw [hu, Option.isSome_some] at hsome
  cases kind with
  | anyTamper =>
    cases category with
    | health => exact isEmpty_attributes_of_rule? (rule?_health_anyTamper t) hu
    | tamper =>
      exact (isEmpty_attributes_of_rule? (rule?_tamper_anyTamper t) hu).trans
        (isEmpty_filterMap_copyOr _ _ _ _ o)
    | _ => cases hsome
  | tamper kind =>
    cases category with
    | health => exact isEmpty_attributes_of_rule? (rule?_health_tamper t kind) hu
    | tamper =>
      exact (isEmpty_attributes_of_rule? (rule?_tamper_tamper t kind) hu).trans
        (isEmpty_filterMap_copyOr _ _ _ _ o)
    | _ => cases hsome
  | _ => cases hk

/-- A payload that shows a kind of tampering shows tampering. -/
lemma trips_anyTamper {t : Thresholds} {category : Category} {kind : TamperKind} {o : Json.Members}
    (h : trips t category (.tamper kind) o = true) : trips t category .anyTamper o = true := by
  cases category with
  | health =>
    have hany : (TamperKind.all.any fun kind => (healthTamper t kind).holds o) = true :=
      List.any_eq_true.2 ⟨kind, TamperKind.mem_all kind, h⟩
    simp [trips, hany]
  | tamper => rfl
  | _ => simp [trips] at h

end TamperWatch.Catalogue
