import TamperWatch.Proofs.Data.FloatOrder
import TamperWatch.Proofs.Json.Reader
import TamperWatch.Proofs.Telemetry.Delivery
import TamperWatch.Proofs.Telemetry.Payload
import TamperWatch.Proofs.Text.Token

/-!
# The forms of a count

A count of an unsigned word arrives as bare digits, or in an object as a number or as digits in a
string; of the fields `total` and `count` the first that is present is read. The compact text of
such an object is read back as it was (`Content.isObject_compact`), so that no form rounds.
Main statement: every form of a count leaves that count, and what is none changes nothing
(`Store.counts_exact`).
-/

namespace TamperWatch

/-- Decimal digits of a number between blanks, perhaps after zeros. -/
inductive DecimalText (n : Nat) : String → Prop
  | between (before digits after : List Char) :
    (∀ c ∈ before, Text.isBlank c = true) →
    (∀ c ∈ after, Text.isBlank c = true) →
    Numeral.Denotes 10 digits n →
    DecimalText n (String.ofList (before ++ digits ++ after))

/-- The content is an object: one that is decoded already, or a text that is one between blanks. -/
inductive Content.IsObject : Content → Json.Members → Prop
  | decoded {o} :
    IsObject (.decoded (.structured o)) o
  | text {s o} :
    Json.parse (Text.trim s) = some (.object o) →
    IsObject (.raw s.toUTF8) o

/-- The values of a field that give a count. -/
inductive CountValue (n : Nat) : Json → Prop
  | number : CountValue n (.int n)
  | digits {s} : DecimalText n s → CountValue n (.string s)

/-- The values of a field that give no count and are no text. -/
inductive NoCount : Json → Prop
  | negative {i : Int} : i < 0 → NoCount (.int i)
  /-- Whole numbers below those of a word, and fractions, are doubles. -/
  | negativeReal {x : Float} : x < 0 → NoCount (.number (.real x))
  | bool (b) : NoCount (.bool b)
  | array (items) : NoCount (.array items)
  | object (members) : NoCount (.object members)

/-- The field of an object that its count is read from. -/
def Catalogue.countField? (o : Json.Members) : Option Json :=
  (o.lookup "total").or (o.lookup "count")

/-- The ways to send a count. -/
inductive CountForm (n : Nat) : Content → Prop
  | bare {s} :
    DecimalText n s →
    CountForm n (.raw s.toUTF8)
  | field {content o v} :
    Content.IsObject content o →
    Catalogue.countField? o = some v →
    CountValue n v →
    CountForm n content

namespace DecimalText

/-- A decimal text is digits for its number once it is trimmed. -/
lemma exists_trim {n : Nat} {s : String} (h : DecimalText n s) :
    ∃ digits, Numeral.Denotes 10 digits n ∧ Text.trim s = String.ofList digits := by
  cases h with
  | between before digits after hbefore hafter hdigits =>
    refine ⟨_, hdigits, ?_⟩
    rw [Text.trim_padded hbefore hafter,
      Text.trim_eq_self (Numeral.isBlank_eq_false_of_denotes (by decide) hdigits)]

/-- A decimal text is read as its number if that fits into a word. -/
lemma word?_trim {n : Nat} {s : String} (h : DecimalText n s) :
    Numeral.word? (Text.trim s).toList = if n < 2 ^ 64 then some n else none := by
  obtain ⟨digits, hdigits, htrim⟩ := h.exists_trim
  rw [htrim, String.toList_ofList, Numeral.word?_of_denotes hdigits]

/-- Nothing but a brace begins an object. -/
lemma isBare {n : Nat} {s : String} (h : DecimalText n s) : IsBare s := by
  obtain ⟨digits, hdigits, htrim⟩ := h.exists_trim
  obtain ⟨c, cs, rfl, hc⟩ := hdigits.exists_cons
  constructor
  · rw [htrim]
    simp
  · rw [htrim]
    refine Json.parse_ne_object (c := c) (by simp) (Json.Reader.isBlank_of_isDigit hc) ?_
    rintro rfl
    exact absurd hc (by decide)

/-- As the payload of counts a decimal text is its number, or no integer if that is too large. -/
lemma decode_counts {n : Nat} {s : String} (h : DecimalText n s) :
    Payload.decode .counts s.toUTF8 =
      if n < 2 ^ 64 then .ok (.count n) else .error .notAnInteger := by
  rw [Payload.decode_bare h.isBare, Payload.ofBareText, h.word?_trim]
  by_cases hn : n < 2 ^ 64
  · rw [if_pos hn, if_pos hn]
  · rw [if_neg hn, if_neg hn]

end DecimalText

namespace Content

/-- What is an object gives its members, under every category. -/
lemma IsObject.members? {content : Content} {o : Json.Members} (h : IsObject content o)
    (device : String) (category : Category) (now : Moment) :
    (Delivery.mk device category content now).members? = some o := by
  cases h with
  | decoded => rfl
  | text hread =>
    refine Delivery.members?_of_ok (Payload.decode_object ?_ hread)
    intro hblank
    obtain ⟨more, hmore⟩ := Json.parse_eq_object hread
    rw [hblank] at hmore
    cases hmore

/-- A compact text is read back as its object, and has no blanks at its ends. -/
lemma isObject_compact {o : Json.Members} (h : Ascending o) (hplain : ∀ m ∈ o, Json.Plain m.2) :
    IsObject (.raw (Json.object o).compact.toUTF8) o := by
  have htrim : Text.trim (Json.object o).compact = (Json.object o).compact :=
    Text.trim_enclosed '\x7b' '\x7d' (by decide) (by decide) _
  refine .text ?_
  rw [htrim]
  exact Json.parse_compact h fun m hm => (hplain m hm).readBack

end Content

namespace Catalogue

/-- The first count field that is there decides the update of the count. -/
lemma update?_witnessCount (t : Thresholds) {o : Json.Members} {v : Json}
    (h : countField? o = some v) :
    update? t .counts .witnessCount o =
      (Reading.toCount? v).map fun n => ⟨.witnessCount, .count n, ∅⟩ := by
  have hfield : (Field.mk ["total", "count"]).find? o = some v := by
    rw [find?_keys (by decide), ← h, countField?, List.findSome?_cons, List.findSome?_cons,
      List.findSome?_nil]
    cases o.lookup "total" <;> cases o.lookup "count" <;> rfl
  have hread : (Reading.count ⟨["total", "count"]⟩).read? o = (Reading.toCount? v).map .count := by
    rw [Reading.read?, hfield]
  show ((Reading.count ⟨["total", "count"]⟩).read? o).map _ = _
  rw [hread, Option.map_map]
  rfl

end Catalogue

/-- The values that give a count are read as it. -/
lemma CountValue.toCount? {n : Nat} {v : Json} (h : CountValue n v) (hn : n < 2 ^ 64) :
    Reading.toCount? v = some n := by
  cases h with
  | number => simp [Json.int, Reading.toCount?]
  | digits hdigits => rw [Reading.toCount?, hdigits.word?_trim, if_pos hn]

/-- The values that give no count are not read as one. -/
lemma NoCount.toCount? {v : Json} (h : NoCount v) : Reading.toCount? v = none := by
  cases h with
  | negative hi => exact if_neg (Int.not_le.2 hi)
  | negativeReal hx => exact if_neg fun hle => (FloatOrder.le_iff.1 hle).2.2 hx
  | bool => rfl
  | array => rfl
  | object => rfl

/-- In each form a number of a word is the one count of the update. -/
lemma CountForm.update? {n : Nat} {content : Content} (h : CountForm n content) (hn : n < 2 ^ 64)
    (t : Thresholds) (device : String) (now : Moment) :
    (Delivery.mk device .counts content now).update? t .witnessCount =
      some ⟨.witnessCount, .count n, ∅⟩ := by
  cases h with
  | bare hdigits =>
    have hdecode := hdigits.decode_counts
    rw [if_pos hn] at hdecode
    rw [Delivery.update?, Delivery.members?_of_ok hdecode]
    show Catalogue.update? t .counts .witnessCount [("count", .int n)] = _
    rw [Catalogue.update?_witnessCount t (v := .int n) rfl, CountValue.number.toCount? hn,
      Option.map_some]
  | field hobject hfield hvalue =>
    rw [Delivery.update?, hobject.members?]
    show Catalogue.update? t .counts .witnessCount _ = _
    rw [Catalogue.update?_witnessCount t hfield, hvalue.toCount? hn, Option.map_some]

namespace Store

/-- Counts are exact over the whole range of an unsigned word. Whatever calls came before, a number
of a word is applied and stored as it is in every form; the compact text of an object with plain
values is such an object; digits that denote a greater number cannot be decoded and change nothing;
and an object whose first count field has another value is applied and leaves the count alone. -/
theorem counts_exact (t : Thresholds) (batches : List Batch) (device : String) (now : Moment) :
    let store := (∅ : Store).recordAll batches
    let after := fun content => store.deliver t .unlimited ⟨device, .counts, content, now⟩
    (∀ n : Nat, n < 2 ^ 64 → ∀ content, CountForm n content →
      (after content).1.applied = true ∧
      (after content).2.get? device .witnessCount =
        some ⟨device, .witnessCount, .count n, ∅, none, now⟩) ∧
    (∀ o, Ascending o → (∀ m ∈ o, Json.Plain m.2) →
      Content.IsObject (.raw (Json.object o).compact.toUTF8) o) ∧
    (∀ n : Nat, 2 ^ 64 ≤ n → ∀ s, DecimalText n s →
      Payload.decode .counts s.toUTF8 = .error .notAnInteger ∧
      (after (.raw s.toUTF8)).1.applied = false ∧
      (after (.raw s.toUTF8)).2 = store) ∧
    ∀ content o v, Content.IsObject content o → Catalogue.countField? o = some v → NoCount v →
      (after content).1.applied = true ∧
      (after content).2.get? device .witnessCount = store.get? device .witnessCount := by
  intro store after
  refine ⟨fun n hn content hform => ?_, fun o => Content.isObject_compact,
    fun n hn s hdigits => ?_, fun content o v hobject hfield hv => ?_⟩
  · have hupdate := hform.update? hn t device now
    exact ⟨applied_of_update? store .unlimited hupdate,
      get?_deliver_replacing batches .unlimited (by decide) rfl hupdate⟩
  · have hdecode := hdigits.decode_counts
    rw [if_neg (Nat.not_lt.2 hn)] at hdecode
    have hmembers : (Delivery.mk device .counts (.raw s.toUTF8) now).members? = none :=
      Delivery.members?_of_error hdecode
    refine ⟨hdecode, ?_, ?_⟩
    · rw [applied_deliver, hmembers, Option.isSome_none]
    · show (store.deliver t .unlimited _).2 = store
      rw [deliver_eq, Delivery.batch?, hmembers]
      rfl
  · have hmembers := hobject.members? device .counts now
    have hupdate : (Delivery.mk device .counts content now).update? t .witnessCount = none := by
      rw [Delivery.update?, hmembers]
      show Catalogue.update? t .counts .witnessCount o = none
      rw [Catalogue.update?_witnessCount t hfield, hv.toCount?, Option.map_none]
    refine ⟨?_, get?_deliver_of_none store hupdate device⟩
    rw [applied_deliver, hmembers, Option.isSome_some]

/-- The greatest count after a zero and between blanks, the least number that is none, and a total
that is none beside a count that is one. -/
theorem counts_exact_at_limit :
    (((∅ : Store).recordAll []).deliver .default .unlimited
        ⟨"canary-01", .counts, .raw "\u2003018446744073709551615\n".toUTF8, 5⟩).2.get?
          "canary-01" .witnessCount =
      some ⟨"canary-01", .witnessCount, .count 18446744073709551615, ∅, none, 5⟩ ∧
    (((∅ : Store).recordAll []).deliver .default .unlimited
        ⟨"canary-01", .counts, .raw "18446744073709551616".toUTF8, 5⟩).1.applied = false ∧
    (((∅ : Store).recordAll []).deliver .default .unlimited
        ⟨"canary-01", .counts, .raw "\x7b\"count\":5,\"total\":false\x7d".toUTF8, 5⟩).2.get?
          "canary-01" .witnessCount = none := by
  have hgreatest : DecimalText 18446744073709551615 "\u2003018446744073709551615\n" := by
    refine .between ['\u2003'] "018446744073709551615".toList ['\n'] (by simp [Text.isBlank])
      (by simp [Text.isBlank]) ?_
    exact (Numeral.natural?_eq_some_iff (by decide)).1 (by decide +kernel)
  have hbeyond : DecimalText 18446744073709551616 "18446744073709551616" := by
    refine .between [] "18446744073709551616".toList [] (by simp) (by simp) ?_
    exact (Numeral.natural?_eq_some_iff (by decide)).1 (by decide +kernel)
  have hobject : Content.IsObject (.raw "\x7b\"count\":5,\"total\":false\x7d".toUTF8)
      [("count", .int 5), ("total", .bool false)] := .text (by with_unfolding_all rfl)
  obtain ⟨hforms, _, hdigits, hnone⟩ := counts_exact .default [] "canary-01" 5
  refine ⟨?_, ?_, ?_⟩
  · exact (hforms _ (by decide) _ (.bare hgreatest)).2
  · exact (hdigits _ (by decide) _ hbeyond).2.1
  · exact (hnone _ _ _ hobject rfl (.bool false)).2

end Store

end TamperWatch
