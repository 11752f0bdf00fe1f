import Mathlib.Data.List.TakeWhile
import TamperWatch.Proofs.Telemetry.Delivery
import TamperWatch.Telemetry.Engine

/-!
# Runs of the engine

What one message does to the engine, and what a list of messages does. A message that is not
rejected registers its pair and makes at most one call of the store; `Engine.handle_eq` says all
that there is to say about it. Main statements: the store after a run is the store before it with
the calls of the run recorded (`Engine.store_after`), the outcome of each message is that of one
call after the messages before it (`Engine.getElem?_outcomes`), a pair is known after a run from the
fresh engine exactly if some message of the run was of that pair (`Engine.knows_after_fresh`), and
the history of a signal is what the messages from the first one of its owner on say of it
(`Engine.history_batches`).
-/

namespace TamperWatch

/-- The members that rules read off a message, if its payload can be decoded. -/
def Message.members? (m : Message) : Option Json.Members :=
  match Payload.decode m.category m.payload with
  | .ok payload => some payload.members
  | .error _ => none

/-- At first nothing is known. -/
@[simp] lemma Sightings.knows_empty (device : String) (category : Category) :
    (∅ : Sightings).knows device category = false := rfl

/-- The update that a message makes to a signal wherever that signal is in scope. -/
def Message.update? (t : Thresholds) (kind : SignalKind) (m : Message) : Option Update :=
  m.members?.bind (Catalogue.update? t m.category kind)

/-- The updates that a message makes to a device's signal wherever that signal is in scope. -/
def Message.updatesOf (t : Thresholds) (device : String) (kind : SignalKind) (m : Message) :
    List DatedUpdate :=
  if m.device = device then (m.update? t kind).toList.map (⟨·, m.time⟩) else []

/-- The message is of the pair. -/
def Message.isOf (device : String) (category : Category) (m : Message) : Bool :=
  m.device == device && m.category == category

/-- A message as the classifier gets it. -/
def Message.delivery (m : Message) : Delivery :=
  ⟨m.device, m.category, .raw m.payload, m.time⟩

/-- The messages before the first one of a pair. -/
def beforeFirst (device : String) (category : Category) (ms : List Message) : List Message :=
  ms.takeWhile (!·.isOf device category)

/-- The messages from the first one of a pair on. -/
def sinceFirst (device : String) (category : Category) (ms : List Message) : List Message :=
  ms.dropWhile (!·.isOf device category)

/-- A message is of a pair if both its device and its category are. -/
lemma Message.isOf_iff {device : String} {category : Category} {m : Message} :
    m.isOf device category = true ↔ m.device = device ∧ m.category = category := by
  simp [isOf]

/-- Every message stands before the first one of a pair or from it on. -/
lemma mem_beforeFirst_or_sinceFirst {m : Message} {ms : List Message} (h : m ∈ ms)
    (device : String) (category : Category) :
    m ∈ beforeFirst device category ms ∨ m ∈ sinceFirst device category ms := by
  rw [← List.takeWhile_append_dropWhile (p := (!·.isOf device category)) (l := ms)] at h
  exact List.mem_append.1 h

/-- The messages from the first one of a pair on are messages of the run. -/
lemma mem_of_mem_sinceFirst {device category ms} {m : Message}
    (h : m ∈ sinceFirst device category ms) : m ∈ ms :=
  (List.dropWhile_sublist _).subset h

/-- The messages before the first one of a pair are of the run, and none is of the pair. -/
lemma mem_of_mem_beforeFirst {device category ms} {m : Message}
    (h : m ∈ beforeFirst device category ms) : m ∈ ms ∧ ¬ m.isOf device category = true :=
  ⟨(List.takeWhile_sublist _).subset h, by simpa using List.mem_takeWhile_imp h⟩

/-- Every message of a pair stands from the first one on. -/
lemma mem_sinceFirst_of_isOf {device category ms} {m : Message} (h : m ∈ ms)
    (hof : m.isOf device category = true) : m ∈ sinceFirst device category ms :=
  (mem_beforeFirst_or_sinceFirst h device category).resolve_left fun hbefore =>
    (mem_of_mem_beforeFirst hbefore).2 hof

/-- Without a message of the pair there is none from the first one on. -/
lemma sinceFirst_eq_nil {device category ms} (h : ¬ ms.any (·.isOf device category) = true) :
    sinceFirst device category ms = [] := by
  refine List.dropWhile_eq_nil_iff.2 fun m hm => ?_
  by_contra hof
  exact h (List.any_eq_true.2 ⟨m, hm, by simpa using hof⟩)

/-- More messages take none of those from the first one of a pair on away. -/
lemma mem_sinceFirst_append {device category ms more} {m : Message}
    (h : m ∈ sinceFirst device category ms) : m ∈ sinceFirst device category (ms ++ more) := by
  unfold sinceFirst at h ⊢
  rw [List.dropWhile_append]
  split
  · rename_i hnil
    rw [List.isEmpty_iff.1 hnil] at h
    cases h
  · exact List.mem_append_left _ h

/-- One more message counts from the first one of a pair on if it is one or there was one. -/
lemma sinceFirst_concat (device : String) (category : Category) (ms : List Message) (m : Message) :
    sinceFirst device category (ms ++ [m]) =
      sinceFirst device category ms ++
        if (ms ++ [m]).any (·.isOf device category) then [m] else [] := by
  induction ms with
  | nil => cases h : m.isOf device category <;> simp [sinceFirst, h]
  | cons x ms ih =>
    cases h : x.isOf device category with
    | false => simpa [sinceFirst, h] using ih
    | true => simp [sinceFirst, h]

namespace Engine

/-- The engine after messages. -/
def after (e : Engine) (ms : List Message) : Engine :=
  (e.run ms).2

/-- What came of messages, in order. -/
def outcomes (e : Engine) (ms : List Message) : List (Except RoutingError Dispatch) :=
  (e.run ms).1

/-- The kinds that a message may write: those whose owner is known once it is registered. -/
def scopeOf (e : Engine) (m : Message) : Scope :=
  scope (e.seen.register m.device m.category) m.device

/-- The call that a message makes to the store, none if it is rejected or cannot be decoded. -/
def batch? (e : Engine) (m : Message) : Option Batch :=
  if m.device = "" then none
  else m.members?.map fun o =>
    ⟨m.device, (Catalogue.updates e.thresholds m.category o).filter fun u => e.scopeOf m u.kind,
      m.time⟩

/-- The calls that messages make to the store, in order. -/
def batches (e : Engine) : List Message → List Batch
  | [] => []
  | m :: ms => (e.batch? m).toList ++ (e.handle m).2.batches ms

/-- The store after a message. -/
def storeAfter (e : Engine) (m : Message) : Store :=
  e.store.recordAll (e.batch? m).toList

/-- A message with a device makes the call of its delivery. -/
lemma batch?_of_ne {e : Engine} {m : Message} (h : m.device ≠ "") :
    e.batch? m = m.delivery.batch? e.thresholds (e.scopeOf m) :=
  if_neg h

/-- The call of a message is for its device and updates kinds that its category may write. -/
lemma batch?_eq_some {e : Engine} {m : Message} {b : Batch} (h : e.batch? m = some b) :
    b.device = m.device ∧
      ∀ u ∈ b.updates, u.kind ∈ Catalogue.affected e.thresholds m.category := by
  unfold batch? at h
  split at h
  · cases h
  · obtain ⟨o, _, rfl⟩ := Option.map_eq_some_iff.1 h
    refine ⟨rfl, fun u hu => ?_⟩
    exact Catalogue.kind_mem_affected (List.mem_filter.1 hu).1

/-- A message without a device is rejected and changes nothing. -/
lemma handle_of_empty {e : Engine} {m : Message} (h : m.device = "") :
    e.handle m = (.error .emptyDevice, e) := by
  simp [handle, h]

/-- A message with a device is registered and then delivered. -/
lemma handle_eq_deliver {e : Engine} {m : Message} (h : m.device ≠ "") :
    ∃ result, e.handle m =
        (.ok result,
          { e with
            seen := e.seen.register m.device m.category
            store := (e.store.deliver e.thresholds (e.scopeOf m) m.delivery).2 }) ∧
      result.classification = (e.store.deliver e.thresholds (e.scopeOf m) m.delivery).1 := by
  unfold handle
  rw [if_neg h]
  exact ⟨_, rfl, rfl⟩

/-- What handling makes of a message with a device, in terms of its call to the store. -/
lemma handle_eq {e : Engine} {m : Message} (h : m.device ≠ "") :
    e.handle m =
      (.ok
        { device := m.device
          category := m.category
          firstSighting := !e.seen.knows m.device m.category
          monitors :=
            if e.seen.knows m.device m.category then [] else SignalKind.ownedBy m.category
          classification :=
            ⟨m.members?.isSome,
              (e.storeAfter m).select m.device
                (Store.scopedKinds e.thresholds (e.scopeOf m) m.category)⟩ },
        { e with
          seen := e.seen.register m.device m.category
          store := e.storeAfter m }) := by
  cases hp : Payload.decode m.category m.payload <;>
    cases hk : e.seen.knows m.device m.category <;>
      simp [handle, h, hp, hk, Store.classify, Store.classifyPayload, Message.members?, storeAfter,
        batch?, Store.recordAll, Store.recordBatch, scopeOf]

/-- The engine after a message with a device. -/
lemma snd_handle {e : Engine} {m : Message} (h : m.device ≠ "") :
    (e.handle m).2 =
      { e with
        seen := e.seen.register m.device m.category
        store := e.storeAfter m } := by
  rw [handle_eq h]

/-- A message leaves the thresholds as they are. -/
@[simp] lemma thresholds_handle (e : Engine) (m : Message) :
    (e.handle m).2.thresholds = e.thresholds := by
  by_cases h : m.device = ""
  · rw [handle_of_empty h]
  · rw [snd_handle h]

/-- A message leaves the root of the topics as it is. -/
@[simp] lemma topicRoot_handle (e : Engine) (m : Message) :
    (e.handle m).2.topicRoot = e.topicRoot := by
  by_cases h : m.device = ""
  · rw [handle_of_empty h]
  · rw [snd_handle h]

/-- The store after a message is that after its call. -/
lemma store_handle (e : Engine) (m : Message) : (e.handle m).2.store = e.storeAfter m := by
  by_cases h : m.device = ""
  · simp [handle_of_empty h, storeAfter, batch?, h, Store.recordAll]
  · rw [snd_handle h]

/-- A pair is known after a message exactly if it was before, or the message is of it. -/
lemma knows_handle {e : Engine} {m : Message} {device : String} {category : Category} :
    (e.handle m).2.seen.knows device category = true ↔
      (device ≠ "" ∧ m.device = device ∧ m.category = category) ∨
        e.seen.knows device category = true := by
  by_cases h : m.device = ""
  · rw [handle_of_empty h, h]
    constructor
    · exact .inr
    · rintro (⟨hne, he, _⟩ | hk)
      · exact absurd he.symm hne
      · exact hk
  · rw [snd_handle h, Sightings.knows_register]
    simp only [Bool.or_eq_true, Bool.and_eq_true, beq_iff_eq]
    constructor
    · rintro (⟨rfl, rfl⟩ | hk)
      · exact .inl ⟨h, rfl, rfl⟩
      · exact .inr hk
    · rintro (⟨_, rfl, rfl⟩ | hk)
      · exact .inl ⟨rfl, rfl⟩
      · exact .inr hk

/-- The scope of a message is what its device is known under once it is handled. -/
lemma scopeOf_eq {e : Engine} {m : Message} (h : m.device ≠ "") (kind : SignalKind) :
    e.scopeOf m kind = (e.handle m).2.seen.knows m.device kind.owner := by
  rw [snd_handle h]
  rfl

/-- A message updates the signals of its device whose owner is known once it is handled, and those
as its rules have it. -/
lemma history_batch? (e : Engine) (m : Message) (device : String) (kind : SignalKind) :
    history (e.batch? m).toList device kind =
      if device ≠ "" ∧ (e.handle m).2.seen.knows device kind.owner then
        m.updatesOf e.thresholds device kind
      else [] := by
  by_cases hne : m.device = ""
  -- The message is rejected, and no device without a name has signals.
  · by_cases hd : device = ""
    · simp [batch?, hne, history, hd]
    · simp [batch?, hne, history, Message.updatesOf, Ne.symm hd]
  · rw [batch?_of_ne hne, Delivery.history_batch?]
    by_cases hd : m.device = device
    · subst hd
      rw [scopeOf_eq hne]
      simp [hne]
      rfl
    · have hnone : m.updatesOf e.thresholds device kind = [] := if_neg hd
      have hnone' : m.delivery.updatesOf e.thresholds device kind = [] := if_neg hd
      simp [hnone, hnone']

/-- No message leaves the engine as it is. -/
@[simp] lemma after_nil (e : Engine) : e.after [] = e := rfl

/-- No message has an outcome. -/
@[simp] lemma outcomes_nil (e : Engine) : e.outcomes [] = [] := rfl

/-- The engine after messages is the one that the rest leaves of that after the first. -/
lemma after_cons (e : Engine) (m : Message) (ms : List Message) :
    e.after (m :: ms) = (e.handle m).2.after ms := rfl

/-- The outcomes start with that of the first message. -/
lemma outcomes_cons (e : Engine) (m : Message) (ms : List Message) :
    e.outcomes (m :: ms) = (e.handle m).1 :: (e.handle m).2.outcomes ms := rfl

/-- The engine after more messages goes on from the one after the first of them. -/
lemma after_append (e : Engine) (ms more : List Message) :
    e.after (ms ++ more) = (e.after ms).after more := by
  simp [after, run_append]

/-- The outcomes of more messages are those of the first and then those of the others. -/
lemma after_concat (e : Engine) (ms : List Message) (m : Message) :
    e.after (ms ++ [m]) = ((e.after ms).handle m).2 :=
  after_append e ms [m]

/-- The engine after one more message is the one that it leaves. -/
lemma outcomes_append (e : Engine) (ms more : List Message) :
    e.outcomes (ms ++ more) = e.outcomes ms ++ (e.after ms).outcomes more := by
  simp [outcomes, after, run_append]

/-- The outcome of one more message comes last. -/
lemma outcomes_concat (e : Engine) (ms : List Message) (m : Message) :
    e.outcomes (ms ++ [m]) = e.outcomes ms ++ [((e.after ms).handle m).1] :=
  outcomes_append e ms [m]

/-- The calls of more messages are those of the first and then those of the others. -/
lemma batches_append (e : Engine) (ms more : List Message) :
    e.batches (ms ++ more) = e.batches ms ++ (e.after ms).batches more := by
  induction ms generalizing e with
  | nil => rfl
  | cons m ms ih => simp [batches, ih, after_cons]

/-- The call of one more message comes last. -/
lemma batches_concat (e : Engine) (ms : List Message) (m : Message) :
    e.batches (ms ++ [m]) = e.batches ms ++ ((e.after ms).batch? m).toList := by
  simp [batches_append, batches]

/-- Messages leave the thresholds as they are. -/
@[simp] lemma thresholds_after (e : Engine) (ms : List Message) :
    (e.after ms).thresholds = e.thresholds := by
  induction ms generalizing e with
  | nil => rfl
  | cons m ms ih => rw [after_cons, ih, thresholds_handle]

/-- Messages leave the root of the topics as it is. -/
@[simp] lemma topicRoot_after (e : Engine) (ms : List Message) :
    (e.after ms).topicRoot = e.topicRoot := by
  induction ms generalizing e with
  | nil => rfl
  | cons m ms ih => rw [after_cons, ih, topicRoot_handle]

/-- The outcomes of the first messages come first. -/
lemma take_outcomes (e : Engine) (ms : List Message) (n : Nat) :
    (e.outcomes ms).take n = e.outcomes (ms.take n) := by
  induction ms generalizing e n with
  | nil => simp
  | cons m ms ih => cases n <;> simp [outcomes_cons, ih]

/-- The outcome at a position is that of the message there, after those before it. -/
lemma getElem?_outcomes (e : Engine) (ms : List Message) (i : Nat) :
    (e.outcomes ms)[i]? = ms[i]?.map fun m => ((e.after (ms.take i)).handle m).1 := by
  induction ms generalizing e i with
  | nil => simp
  | cons m ms ih => cases i <;> simp [outcomes_cons, after_cons, ih]

/-- The store after messages is that after their calls. -/
lemma store_after (e : Engine) (ms : List Message) :
    (e.after ms).store = e.store.recordAll (e.batches ms) := by
  induction ms generalizing e with
  | nil => rfl
  | cons m ms ih =>
    rw [after_cons, ih, store_handle, storeAfter, batches, Store.recordAll_append]

/-- A signal of a new engine's run is what its history makes of it. -/
lemma get?_after_fresh (t : Thresholds) (root : String) (ms : List Message) (device : String)
    (kind : SignalKind) :
    ((fresh t root).after ms).store.get? device kind =
      Signal.ofHistory? device kind (history ((fresh t root).batches ms) device kind) := by
  rw [store_after]
  exact Store.get?_recordAll_empty _ device kind

/-- A pair is known after a run exactly if it has a device and some message is of it. -/
lemma knows_after_fresh {t : Thresholds} {root device : String} {category : Category}
    {ms : List Message} :
    ((fresh t root).after ms).seen.knows device category = true ↔
      device ≠ "" ∧ ∃ m ∈ ms, m.device = device ∧ m.category = category := by
  induction ms using List.reverseRecOn with
  | nil => simp [fresh]
  | append_singleton ms m ih =>
    rw [after_concat, knows_handle, ih]
    simp only [List.mem_append, List.mem_singleton]
    constructor
    · rintro (⟨hne, hm⟩ | ⟨hne, m', hm', h⟩)
      · exact ⟨hne, m, .inr rfl, hm⟩
      · exact ⟨hne, m', .inl hm', h⟩
    · rintro ⟨hne, m', hm' | rfl, h⟩
      · exact .inr ⟨hne, m', hm', h⟩
      · exact .inl ⟨hne, h⟩

/-- A pair with a device is known after a run exactly if the run has a message of it. -/
lemma knows_iff_any_isOf {t : Thresholds} {root device : String} {ms : List Message}
    (hd : device ≠ "") (category : Category) :
    ((fresh t root).after ms).seen.knows device category = ms.any (·.isOf device category) := by
  rw [Bool.eq_iff_iff, knows_after_fresh]
  simp [Message.isOf, hd]

/-- After a run from the fresh engine the history of a signal is what the messages from the first
one of its owner on make of it. -/
lemma history_batches (t : Thresholds) (root : String) (ms : List Message) (device : String)
    (kind : SignalKind) :
    history ((fresh t root).batches ms) device kind =
      if device = "" then []
      else (sinceFirst device kind.owner ms).flatMap (·.updatesOf t device kind) := by
  induction ms using List.reverseRecOn with
  | nil => split <;> rfl
  | append_singleton ms m ih =>
    have ht : (fresh t root).thresholds = t := rfl
    rw [batches_concat, history_append, history_batch?, ← after_concat, ih, sinceFirst_concat,
      List.flatMap_append, thresholds_after, ht]
    by_cases hd : device = ""
    · simp [hd]
    -- The owner is known from its first message on, which is where the history begins.
    · rw [knows_iff_any_isOf hd]
      cases (ms ++ [m]).any (·.isOf device kind.owner) <;> simp [hd]

/-- A signal with a history has an owner that is known. -/
lemma knows_of_history {t : Thresholds} {root device : String} {ms : List Message}
    {kind : SignalKind} (h : history ((fresh t root).batches ms) device kind ≠ []) :
    ((fresh t root).after ms).seen.knows device kind.owner = true := by
  rw [history_batches] at h
  by_cases hd : device = ""
  · exact absurd (if_pos hd) h
  · rw [if_neg hd] at h
    rw [knows_iff_any_isOf hd]
    by_contra hany
    rw [sinceFirst_eq_nil hany] at h
    exact h rfl

/-- A signal is stored after a run exactly if a message of its device, from the first one of its
owner on, updates it. -/
lemma isSome_get?_after_iff {t : Thresholds} {root device : String} {ms : List Message}
    {kind : SignalKind} :
    (((fresh t root).after ms).store.get? device kind).isSome = true ↔
      device ≠ "" ∧ ∃ m ∈ sinceFirst device kind.owner ms,
        m.device = device ∧ (m.update? t kind).isSome = true := by
  rw [get?_after_fresh, ← Option.ne_none_iff_isSome, Ne, Signal.ofHistory?_eq_none_iff,
    history_batches]
  by_cases hd : device = ""
  · simp [hd]
  · simp [hd, Message.updatesOf, Option.isSome_iff_ne_none]

end Engine

end TamperWatch
