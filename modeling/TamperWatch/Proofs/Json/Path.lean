import TamperWatch.Json.Path
import TamperWatch.Proofs.Text.Pieces

/-!
# The keys of paths

A path enters an object at its first key. Main statements: what stands at a path is decided by the
member of that key (`Json.atPath?_congr`), at a path without a dot it is that member
(`Json.atPath?_key`), and at two paths with a dot between them it is what stands at the second in
the object at the first (`Json.atPath?_append`).
-/

namespace TamperWatch.Json

/-- The key at which a path enters an object. -/
def firstKey (path : String) : String :=
  (Text.pieces '.' path).headD ""

/-- What stands at a path without a dot is the member of that key. -/
lemma atPath?_key {key : String} (h : '.' ∉ key.toList) (o : Members) :
    atPath? o key = o.lookup key := by
  rw [atPath?, Text.pieces_eq_singleton h]
  cases hk : o.lookup key <;> simp [descend, hk]

/-- What stands at a path is decided by the member of its first key. -/
lemma atPath?_congr {path : String} {o o' : Members}
    (h : o.lookup (firstKey path) = o'.lookup (firstKey path)) :
    atPath? o path = atPath? o' path := by
  unfold firstKey at h
  unfold atPath?
  cases hkeys : Text.pieces '.' path with
  | nil => exact absurd hkeys (Text.pieces_ne_nil '.' path)
  | cons key keys =>
    rw [hkeys, List.headD_cons] at h
    rw [descend, descend, h]

/-- Nothing is inside a value that is no object. -/
lemma descend_of_members?_eq_none {v : Json} (h : v.members? = none) {keys : List String}
    (hkeys : keys ≠ []) : descend v keys = none := by
  obtain ⟨key, rest, rfl⟩ := List.exists_cons_of_ne_nil hkeys
  cases v with
  | object members => cases h
  | _ => rfl

/-- Two paths with a dot between them are gone down one after the other; each has at least one key,
so the second needs an object to start from. -/
lemma atPath?_append (o : Members) (p q : String) :
    atPath? o (p ++ "." ++ q) =
      match atPath? o p with
      | some (.object inner) => atPath? inner q
      | _ => none := by
  have hcut : Text.pieces '.' (p ++ "." ++ q) = Text.pieces '.' p ++ Text.pieces '.' q :=
    Text.pieces_append '.' p q
  unfold atPath?
  rw [hcut, descend_append]
  cases hp : descend (.object o) (Text.pieces '.' p) with
  | none => rfl
  | some v =>
    show descend v (Text.pieces '.' q) = _
    cases v with
    | object inner => rfl
    | _ => exact descend_of_members?_eq_none rfl (Text.pieces_ne_nil '.' q)

end TamperWatch.Json
