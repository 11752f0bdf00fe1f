import TamperWatch.Proofs.Json.Path
import TamperWatch.Telemetry.Condition

/-!
# Looking fields up

A field is looked for at several paths, and a path may lead through objects. The value of a field is
what stands at the first of its paths where something stands (`Field.find?_eq_some_iff`), so paths
at which nothing stands make no difference wherever they are put in (`Field.Widened.find?_eq`). Main
statement: paths and lists of paths are looked up part by part (`Field.lookup_composes`).
-/

namespace TamperWatch.Field

open Json (atPath?)

/-- The second list has the paths of the first in their order, and between them any number of paths
at which nothing stands. -/
inductive Widened (o : Json.Members) : List String → List String → Prop where
  | nil :
    Widened o [] []
  | keep {path paths wide} :
    Widened o paths wide →
    Widened o (path :: paths) (path :: wide)
  | insert {path paths wide} :
    atPath? o path = none →
    Widened o paths wide →
    Widened o paths (path :: wide)

/-- The value of a field stands at the first path where something stands. -/
lemma find?_eq_some_iff {paths : List String} {o : Json.Members} {v : Json} :
    find? ⟨paths⟩ o = some v ↔
      ∃ before path after, paths = before ++ path :: after ∧ atPath? o path = some v ∧
        ∀ p ∈ before, atPath? o p = none :=
  List.findSome?_eq_some_iff

/-- A field is not found exactly if nothing stands at any of its paths. -/
lemma find?_eq_none_iff {paths : List String} {o : Json.Members} :
    find? ⟨paths⟩ o = none ↔ ∀ p ∈ paths, atPath? o p = none :=
  List.findSome?_eq_none_iff

/-- Paths at which nothing stands make no difference. -/
lemma Widened.find?_eq {o : Json.Members} {paths wide : List String} (h : Widened o paths wide) :
    find? ⟨wide⟩ o = find? ⟨paths⟩ o := by
  induction h with
  | nil => rfl
  | @keep path paths wide _ ih =>
    show (path :: wide).findSome? (atPath? o) = (path :: paths).findSome? (atPath? o)
    rw [List.findSome?_cons, List.findSome?_cons]
    split
    · rfl
    · exact ih
  | @insert path paths wide hnone _ ih =>
    show (path :: wide).findSome? (atPath? o) = _
    rw [List.findSome?_cons, hnone]
    exact ih

/-- Look-up goes part by part. At two paths with a dot between them stands what stands at the second
in the object at the first, and nothing if there is no object; at a path without a dot stands the
member of that key. A field has the value at the first of its paths where something stands, whatever
that value is, and none if nothing stands at any of them; more paths at which nothing stands, put in
anywhere, leave it as it is. -/
theorem lookup_composes (o : Json.Members) :
    (∀ p q, atPath? o (p ++ "." ++ q) =
      match atPath? o p with
      | some (.object inner) => atPath? inner q
      | _ => none) ∧
    (∀ key : String, '.' ∉ key.toList → atPath? o key = o.lookup key) ∧
    (∀ paths v, find? ⟨paths⟩ o = some v ↔
      ∃ before path after, paths = before ++ path :: after ∧ atPath? o path = some v ∧
        ∀ p ∈ before, atPath? o p = none) ∧
    (∀ paths, find? ⟨paths⟩ o = none ↔ ∀ p ∈ paths, atPath? o p = none) ∧
    ∀ paths wide, Widened o paths wide → find? ⟨wide⟩ o = find? ⟨paths⟩ o :=
  ⟨Json.atPath?_append o, fun _ hkey => Json.atPath?_key hkey o, fun _ _ => find?_eq_some_iff,
    fun _ => find?_eq_none_iff, fun _ _ => Widened.find?_eq⟩

/-- An empty key inside an object, and a field that is null at its first path with a value. -/
theorem lookup_composes_empty_key :
    let o : Json.Members := [("", .object [("gpio", .null)]), ("tamper_gpio", .bool true)]
    atPath? o ".gpio" = some .null ∧
    atPath? o "" = o.lookup "" ∧
    find? ⟨["tamper.gpio", ".gpio", ".gpio.pin", "tamper_gpio"]⟩ o = some .null := by
  intro o
  obtain ⟨happend, hkey, hfirst, -, hwide⟩ := lookup_composes o
  have hgpio : atPath? o ".gpio" = some .null := happend "" "gpio"
  refine ⟨hgpio, hkey "" (by simp), ?_⟩
  have hnarrow : find? ⟨[".gpio", "tamper_gpio"]⟩ o = some .null :=
    (hfirst _ _).2 ⟨[], _, _, rfl, hgpio, by simp⟩
  have hpin : atPath? o ".gpio.pin" = none := happend ".gpio" "pin"
  have htamper : atPath? o "tamper.gpio" = none := happend "tamper" "gpio"
  rw [← hnarrow]
  exact hwide _ _ (.insert htamper (.keep (.insert hpin (.keep .nil))))

end TamperWatch.Field
