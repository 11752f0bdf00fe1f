import TamperWatch.Proofs.Telemetry.Payload
import TamperWatch.Proofs.Telemetry.Run

/-!
# The fields that rules read

Every rule names the fields it looks at: the first keys of its paths, and the fixed ones of its
reading. Two payloads that have the same members under these keys are alike to the rule, whatever
else they hold. For conditions this is an induction over the tree; for the rest it is put together
part by part, up to the messages of an engine. Main statement: `Engine.reads_named_fields`.
-/

namespace TamperWatch

namespace Json

/-- Two objects have the same members under some keys, or lack the same ones. They may differ in
members under any other key. -/
def AgreeOn (keys : List String) (o o' : Members) : Prop :=
  ∀ key ∈ keys, o.lookup key = o'.lookup key

/-- Objects that agree on keys agree on fewer of them. -/
lemma AgreeOn.subset {keys keys' : List String} {o o' : Members} (h : AgreeOn keys o o')
    (hsub : keys' ⊆ keys) : AgreeOn keys' o o' :=
  fun key hkey => h key (hsub hkey)

/-- Members under other keys do not change what stands under a key. -/
lemma lookup_filter_keys {keys : List String} {key : String} (hkey : key ∈ keys) (o : Members) :
    (o.filter fun m => keys.contains m.1).lookup key = o.lookup key := by
  induction o with
  | nil => rfl
  | cons m o ih =>
    obtain ⟨k, v⟩ := m
    rw [List.filter_cons]
    by_cases hk : k ∈ keys
    · rw [if_pos (by simpa using hk), List.lookup_cons, List.lookup_cons, ih]
    · have hne : (key == k) = false := beq_false_of_ne fun heq => hk (heq ▸ hkey)
      rw [if_neg (by simpa using hk), List.lookup_cons, hne, ih]

/-- Objects agree if they are equal once members under other keys are left out. -/
lemma agreeOn_of_filter_eq {keys : List String} {o o' : Members}
    (h : o.filter (fun m => keys.contains m.1) = o'.filter fun m => keys.contains m.1) :
    AgreeOn keys o o' := by
  intro key hkey
  rw [← lookup_filter_keys hkey o, h, lookup_filter_keys hkey o']

/-- Objects that agree on the keys of many things agree on those of each. -/
lemma AgreeOn.of_mem_flatMap {α : Type} {keys : α → List String} {xs : List α} {x : α}
    {o o' : Members} (h : AgreeOn (xs.flatMap keys) o o') (hx : x ∈ xs) : AgreeOn (keys x) o o' :=
  fun key hkey => h key (List.mem_flatMap_of_mem hx hkey)

end Json

open Json (AgreeOn)

/-- The keys at which a field is looked for. -/
def Field.keys (f : Field) : List String :=
  f.paths.map Json.firstKey

namespace Condition

mutual

/-- The keys at which a condition looks into a payload. -/
def keys : Condition → List String
  | always => []
  | truthy field _ => field.keys
  | asserted field => field.keys
  | presentFalsy field => field.keys
  | moreThan field _ => field.keys
  | lessThan field _ => field.keys
  | oneOf field _ => field.keys
  | any conditions => keysOfEach conditions
  | all conditions => keysOfEach conditions

/-- The keys of some conditions. -/
def keysOfEach : List Condition → List String
  | [] => []
  | c :: cs => c.keys ++ keysOfEach cs

end

end Condition

/-- The keys at which a reading looks into a payload. -/
def Reading.keys : Reading → List String
  | flag condition => condition.keys
  | link entry => [entry]
  | count field => field.keys
  | text field _ => field.keys
  | healthLevel _ => ["battery", "memory_free"]
  | gpsFix => ["gps"]

/-- The keys at which a rule looks into a payload, for the value and for the attributes. -/
def Rule.keys (r : Rule) : List String :=
  r.reading.keys ++ r.attributes.flatMap (·.field.keys)

/-- The keys at which the rules of a category look into a payload. -/
def Catalogue.keys (t : Thresholds) (category : Category) : List String :=
  (rules t category).flatMap Rule.keys

example : Catalogue.keys .default .status = ["online", "connected", "status", "state"] := by
  decide +kernel

variable {o o' : Json.Members}

/-- Objects that agree on the keys of a field have the same field. -/
lemma Field.find?_congr {f : Field} (h : AgreeOn f.keys o o') : f.find? o = f.find? o' := by
  obtain ⟨paths⟩ := f
  have hpaths : ∀ path ∈ paths, Json.atPath? o path = Json.atPath? o' path := fun path hpath =>
    Json.atPath?_congr (h _ (List.mem_map_of_mem hpath))
  unfold find?
  induction paths with
  | nil => rfl
  | cons path paths ih =>
    obtain ⟨hhead, hrest⟩ := List.forall_mem_cons.1 hpaths
    rw [List.findSome?_cons, List.findSome?_cons, hhead]
    rw [ih (h.subset (List.subset_cons_self _ _)) hrest]

namespace Condition

mutual

/-- A condition holds of both payloads or of neither. -/
lemma holds_congr : ∀ c : Condition, AgreeOn c.keys o o' → c.holds o = c.holds o'
  | always, _ => rfl
  | truthy field ifMissing, h => by
    rw [holds, holds, Field.find?_congr h]
  | asserted field, h => by
    rw [holds, holds, Field.find?_congr h]
  | presentFalsy field, h => by
    rw [holds, holds, Field.find?_congr h]
  | moreThan field bound, h => by
    rw [holds, holds, Field.find?_congr h]
  | lessThan field bound, h => by
    rw [holds, holds, Field.find?_congr h]
  | oneOf field tokens, h => by
    rw [holds, holds, Field.find?_congr h]
  | any conditions, h => (holds_each_congr conditions h).1
  | all conditions, h => (holds_each_congr conditions h).2

/-- Conditions hold of both objects or of neither, by induction on the conditions. -/
lemma holds_each_congr : ∀ cs : List Condition, AgreeOn (keysOfEach cs) o o' →
    someHolds cs o = someHolds cs o' ∧ everyHolds cs o = everyHolds cs o'
  | [], _ => ⟨rfl, rfl⟩
  | c :: cs, h => by
    have hc : c.holds o = c.holds o' := holds_congr c (h.subset (List.subset_append_left _ _))
    obtain ⟨hsome, hevery⟩ := holds_each_congr cs (h.subset (List.subset_append_right _ _))
    rw [someHolds, someHolds, everyHolds, everyHolds, hc, hsome, hevery]
    exact ⟨rfl, rfl⟩

end

end Condition

/-- A health level depends on the battery and the free memory only. -/
lemma LevelBounds.level_congr {b : LevelBounds}
    (hbattery : o.lookup "battery" = o'.lookup "battery")
    (hmemory : o.lookup "memory_free" = o'.lookup "memory_free") : b.level o = b.level o' := by
  have hcharge : battery o = battery o' := by rw [battery, battery, hbattery]
  have hlow : b.memoryLow o = b.memoryLow o' := by rw [memoryLow, memoryLow, hmemory]
  rw [level, level, hcharge, hlow]

/-- A reading looks at nothing but its keys. A link and a satellite fix are looked up by themselves,
and the health level reads two members. -/
lemma Reading.read?_congr {r : Reading} (h : AgreeOn r.keys o o') : r.read? o = r.read? o' := by
  cases r with
  | flag condition =>
    rw [read?, read?, condition.holds_congr h]
  | link entry =>
    rw [read?, read?, h entry List.mem_cons_self]
  | count field =>
    rw [read?, read?, Field.find?_congr h]
  | text field default =>
    rw [read?, read?, Field.find?_congr h]
  | healthLevel bounds =>
    have hbattery : o.lookup "battery" = o'.lookup "battery" := h _ (by simp [keys])
    have hmemory : o.lookup "memory_free" = o'.lookup "memory_free" := h _ (by simp [keys])
    rw [read?, read?, LevelBounds.level_congr hbattery hmemory]
  | gpsFix =>
    rw [read?, read?, h "gps" List.mem_cons_self]

/-- Objects that agree on the keys of a rule give it the same attributes. -/
lemma Rule.attributesOf_congr {r : Rule} (h : AgreeOn (r.attributes.flatMap (·.field.keys)) o o') :
    r.attributesOf o = r.attributesOf o' := by
  have hread : ∀ a ∈ r.attributes, a.read? o = a.read? o' := by
    intro a ha
    have hfield : a.field.find? o = a.field.find? o' :=
      Field.find?_congr (h.of_mem_flatMap ha)
    unfold AttributeSource.read?
    rw [hfield]
  unfold attributesOf
  rw [List.filterMap_congr hread]

/-- Objects that agree on the keys of a rule give the same update by it. -/
lemma Rule.evaluate_congr {r : Rule} (h : AgreeOn r.keys o o') : r.evaluate o = r.evaluate o' := by
  have hvalue : r.reading.read? o = r.reading.read? o' :=
    Reading.read?_congr (h.subset (List.subset_append_left _ _))
  have hattributes : r.attributesOf o = r.attributesOf o' :=
    Rule.attributesOf_congr (h.subset (List.subset_append_right _ _))
  unfold evaluate
  rw [hvalue, hattributes]

/-- Objects that agree on the keys of a category's rules give the same updates. -/
lemma Catalogue.updates_congr {t : Thresholds} {category : Category}
    (h : AgreeOn (keys t category) o o') : updates t category o = updates t category o' := by
  apply List.filterMap_congr
  intro r hr
  exact Rule.evaluate_congr (h.of_mem_flatMap hr)

/-- Two deliveries are alike to the rules: they are of the same device, category and time, and
either neither can be decoded or their members agree on the keys of the category's rules. -/
structure Delivery.Alike (t : Thresholds) (d d' : Delivery) : Prop where
  device : d.device = d'.device
  category : d.category = d'.category
  time : d.time = d'.time
  members : Option.Rel (AgreeOn (Catalogue.keys t d.category)) d.members? d'.members?

/-- Deliveries that are alike make the same call to the store. -/
lemma Delivery.Alike.batch?_eq {t : Thresholds} {d d' : Delivery} (h : d.Alike t d')
    (scope : Scope) : d.batch? t scope = d'.batch? t scope := by
  obtain ⟨hdevice, hcategory, htime, hmembers⟩ := h
  unfold batch?
  rw [← hdevice, ← hcategory, ← htime]
  generalize d.members? = members at hmembers ⊢
  generalize d'.members? = members' at hmembers ⊢
  cases hmembers with
  | none => rfl
  | some hagree => rw [Option.map_some, Option.map_some, Catalogue.updates_congr hagree]

/-- Deliveries that are alike leave the same store and report the same signals. -/
lemma Delivery.Alike.deliver_eq {t : Thresholds} {d d' : Delivery} (h : d.Alike t d')
    (store : Store) (scope : Scope) : store.deliver t scope d = store.deliver t scope d' := by
  have hdecoded : d.members?.isSome = d'.members?.isSome := by
    have hmembers := h.members
    generalize d.members? = members at hmembers ⊢
    generalize d'.members? = members' at hmembers ⊢
    cases hmembers <;> rfl
  rw [Store.deliver_eq, Store.deliver_eq, hdecoded, h.batch?_eq, h.device, h.category]

/-- Of a text that is an object between blanks, rules read the members of that object. -/
lemma Delivery.members?_of_object {d : Delivery} (text : String) {members : Json.Members}
    (hcontent : d.content = .raw text.toUTF8) (hne : Text.trim text ≠ "")
    (hread : Json.parse (Text.trim text) = some (.object members)) : d.members? = some members := by
  rw [members?, hcontent]
  dsimp only
  rw [Payload.decode_object hne hread]
  rfl

namespace Engine

/-- Messages that are alike are handled alike. -/
lemma handle_congr {e : Engine} {m m' : Message} (h : m.delivery.Alike e.thresholds m'.delivery) :
    e.handle m = e.handle m' := by
  obtain ⟨device, category, payload, time⟩ := m
  obtain ⟨device', category', payload', time'⟩ := m'
  obtain rfl : device = device' := h.device
  obtain rfl : category = category' := h.category
  obtain rfl : time = time' := h.time
  have hclassify (scope : Scope) :
      e.store.classify e.thresholds scope device category payload time =
        e.store.classify e.thresholds scope device category payload' time :=
    h.deliver_eq e.store scope
  simp only [handle, hclassify]

/-- Runs over messages that are alike one by one have the same outcomes and end in the same
engine. -/
lemma run_congr {t : Thresholds} {ms ms' : List Message}
    (h : List.Forall₂ (fun m m' => m.delivery.Alike t m'.delivery) ms ms') {e : Engine}
    (ht : e.thresholds = t) : e.run ms = e.run ms' := by
  induction h generalizing e with
  | nil => rfl
  | @cons m m' ms ms' hm _ ih =>
    have hstep : e.handle m = e.handle m' := handle_congr (ht ▸ hm)
    have hrest : (e.handle m').2.run ms = (e.handle m').2.run ms' :=
      ih ((thresholds_handle e m').trans ht)
    simp only [run, hstep, hrest]

/-- Rules read the fields that they name and nothing else. A rule makes the same update, or none, of
any two objects that agree on its keys. So members under keys that no rule of a category names may
be added, removed or changed: the classifier is left with the same store and reports the same
signals, whatever is stored and whatever is in scope, and an engine has the same outcomes and ends
in the same state. -/
theorem reads_named_fields :
    (∀ (r : Rule) (o o' : Json.Members), AgreeOn r.keys o o' → r.evaluate o = r.evaluate o') ∧
    (∀ (t : Thresholds) (d d' : Delivery), d.Alike t d' → ∀ (store : Store) (scope : Scope),
      store.deliver t scope d = store.deliver t scope d') ∧
    ∀ (e : Engine) (ms ms' : List Message),
      List.Forall₂ (fun m m' => m.delivery.Alike e.thresholds m'.delivery) ms ms' →
      e.run ms = e.run ms' := by
  refine ⟨fun r o o' h => Rule.evaluate_congr h, fun t d d' h store scope => ?_, ?_⟩
  · exact h.deliver_eq store scope
  · exact fun e ms ms' h => run_congr h rfl

/-- A health report with a sequence number and one with a note instead are alike to the rules. -/
theorem reads_named_fields_extra_members :
    let e : Engine := fresh .default "securacv"
    let report : Message := ⟨"canary-01", .health, "\x7b\"battery\":5,\"seq\":7\x7d".toUTF8, 1⟩
    let report' : Message := ⟨"canary-01", .health, "\x7b\"battery\":5,\"note\":[]\x7d".toUTF8, 1⟩
    let o : Json.Members := [("battery", .int 5), ("seq", .int 7)]
    let o' : Json.Members := [("battery", .int 5), ("note", .array [])]
    let keys := Catalogue.keys e.thresholds .health
    "battery" ∈ keys ∧ "seq" ∉ keys ∧ "note" ∉ keys ∧
      report.delivery.members? = some o ∧ report'.delivery.members? = some o' ∧
      (∀ r ∈ Catalogue.rules e.thresholds .health, r.evaluate o = r.evaluate o') ∧
      (∅ : Store).deliver e.thresholds (fun _ => true) report.delivery =
        (∅ : Store).deliver e.thresholds (fun _ => true) report'.delivery ∧
      e.run [report] = e.run [report'] := by
  intro e report report' o o' keys
  have hread : report.delivery.members? = some o :=
    Delivery.members?_of_object "\x7b\"battery\":5,\"seq\":7\x7d" rfl (by decide +kernel)
      (by with_unfolding_all rfl)
  have hread' : report'.delivery.members? = some o' :=
    Delivery.members?_of_object "\x7b\"battery\":5,\"note\":[]\x7d" rfl (by decide +kernel)
      (by with_unfolding_all rfl)
  have hagree : AgreeOn keys o o' := Json.agreeOn_of_filter_eq (by with_unfolding_all rfl)
  have halike : report.delivery.Alike e.thresholds report'.delivery :=
    ⟨rfl, rfl, rfl, by rw [hread, hread']; exact .some hagree⟩
  obtain ⟨hrule, hdeliver, hrun⟩ := reads_named_fields
  refine ⟨by decide +kernel, by decide +kernel, by decide +kernel, hread, hread', ?_, ?_, ?_⟩
  · exact fun r hr => hrule r o o' (hagree.of_mem_flatMap hr)
  · exact hdeliver _ _ _ halike _ _
  · exact hrun e [report] [report'] (.cons halike .nil)

end Engine

end TamperWatch
