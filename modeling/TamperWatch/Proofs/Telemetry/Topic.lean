import TamperWatch.Proofs.Settings.Validation
import TamperWatch.Proofs.Telemetry.Run
import TamperWatch.Proofs.Text.Blank
import TamperWatch.Proofs.Text.Pieces
import TamperWatch.Proofs.Text.Search

/-!
# The topics that are routed

`Topic.Routes` is the grammar of topics under a root: what follows the root is a device and a
category between slashes, and each way to miss that is an error of its own. Topics are split by this
grammar and by nothing else (`Topic.split_eq_iff`). Main statement: `Engine.topics_routed_exactly`,
for every engine that was given a root and has handled messages since.
-/

namespace TamperWatch

/-- No category has a slash in its name. -/
lemma Category.slash_not_mem_name (c : Category) : '/' ∉ c.name.toList := by
  cases c <;> decide

/-- The name of a category tells which one it is. -/
lemma Category.name_inj {c c' : Category} (h : c.name = c'.name) : c = c' := by
  have hnamed := ofName?_name c
  rw [h, ofName?_name] at hnamed
  exact (Option.some.inj hnamed).symm

namespace Topic

/-- A root is cleaned of the slashes at its two ends, and of nothing else. -/
lemma cleanRoot_spec (root : String) :
    (∃ before after, root.toList = before ++ (cleanRoot root).toList ++ after ∧
      (∀ c ∈ before, c = '/') ∧ ∀ c ∈ after, c = '/') ∧
    (cleanRoot root).toList.head? ≠ some '/' ∧ (cleanRoot root).toList.getLast? ≠ some '/' := by
  have hclean : (cleanRoot root).toList = Text.stripList (· == '/') root.toList :=
    String.toList_ofList
  rw [hclean]
  refine ⟨?_, fun hhead => ?_, fun hlast => ?_⟩
  · obtain ⟨before, after, hroot, hbefore, hafter⟩ :=
      Text.exists_eq_stripList (· == '/') root.toList
    exact ⟨before, after, hroot, fun c hc => beq_iff_eq.1 (hbefore c hc),
      fun c hc => beq_iff_eq.1 (hafter c hc)⟩
  · cases Text.head?_stripList hhead
  · cases Text.getLast?_stripList hlast

/-- A topic is under a root exactly if it is the root, a slash and the rest. -/
lemma afterRoot?_eq_some_iff {root topic rest : String} :
    afterRoot? root topic = some rest ↔ topic = root ++ "/" ++ rest := by
  unfold afterRoot?
  rw [Option.bind_eq_some_iff, String.append_assoc]
  constructor
  · rintro ⟨slashed, htopic, hslashed⟩
    rw [Text.after?_eq_some_iff.1 htopic, Text.after?_eq_some_iff.1 hslashed]
  · intro htopic
    exact ⟨"/" ++ rest, Text.after?_eq_some_iff.2 htopic, Text.after?_eq_some_iff.2 rfl⟩

/-- What a topic is routed to under a root. -/
inductive Routes (root : String) : String → Except RoutingError Address → Prop
  | address {device : String} {category : Category} (hdevice : device ≠ "")
      (hslash : '/' ∉ device.toList) :
      Routes root (root ++ "/" ++ (device ++ "/" ++ category.name)) (.ok ⟨device, category⟩)
  | otherRoot {topic : String} (h : ∀ rest, topic ≠ root ++ "/" ++ rest) :
      Routes root topic (.error (.invalidTopic topic (.otherRoot root)))
  | otherShape {rest : String} (h : rest.toList.count '/' ≠ 1) :
      Routes root (root ++ "/" ++ rest)
        (.error (.invalidTopic (root ++ "/" ++ rest) .otherShape))
  | emptyDevice {name : String} (hslash : '/' ∉ name.toList) :
      Routes root (root ++ "/" ++ ("" ++ "/" ++ name)) (.error .emptyDevice)
  | unknownCategory {device name : String} (hdevice : device ≠ "") (hslash : '/' ∉ device.toList)
      (hname : '/' ∉ name.toList) (h : ∀ c : Category, c.name ≠ name) :
      Routes root (root ++ "/" ++ (device ++ "/" ++ name)) (.error (.unknownCategory name))

/-- The name of a category is read as the category. -/
lemma parse_name (c : Category) : Category.parse c.name = .ok c := by
  rw [Category.parse, Category.ofName?_name]

/-- What is the name of no category is refused. -/
lemma parse_unknown {name : String} (h : ∀ c : Category, c.name ≠ name) :
    Category.parse name = .error (.unknownCategory name) := by
  unfold Category.parse
  cases hname : Category.ofName? name with
  | none => rfl
  | some c => exact absurd (Category.name_of_ofName? hname) (h c)

/-- Under the root, two pieces are a device and the name of a category. -/
lemma split_of_pair {root device name : String} (hdevice : '/' ∉ device.toList)
    (hname : '/' ∉ name.toList) :
    split root (root ++ "/" ++ (device ++ "/" ++ name)) =
      if device = "" then .error .emptyDevice
      else (Category.parse name).map fun category => ⟨device, category⟩ := by
  have hpieces : Text.pieces '/' (device ++ "/" ++ name) = [device, name] :=
    Text.pieces_eq_pair_iff.2 ⟨rfl, hdevice, hname⟩
  unfold split
  rw [afterRoot?_eq_some_iff.2 rfl]
  dsimp only
  rw [hpieces]

/-- A topic that has not two levels below the root is refused. -/
lemma split_of_otherShape {root rest : String} (h : rest.toList.count '/' ≠ 1) :
    split root (root ++ "/" ++ rest) =
      .error (.invalidTopic (root ++ "/" ++ rest) .otherShape) := by
  unfold split
  rw [afterRoot?_eq_some_iff.2 rfl]
  dsimp only
  split
  · rename_i device name hpieces
    have hlength := Text.length_pieces '/' rest
    rw [hpieces] at hlength
    simp only [List.length_cons, List.length_nil] at hlength
    omega
  · rfl

/-- What a topic is routed to is what splitting it gives. -/
lemma Routes.split_eq {root topic : String} {r : Except RoutingError Address}
    (h : Routes root topic r) : split root topic = r := by
  cases h with
  | @address device category hdevice hslash =>
    rw [split_of_pair hslash category.slash_not_mem_name, if_neg hdevice, parse_name]
    rfl
  | otherRoot h =>
    have hnone : afterRoot? root topic = none := by
      rw [Option.eq_none_iff_forall_ne_some]
      exact fun rest hrest => h rest (afterRoot?_eq_some_iff.1 hrest)
    rw [split, hnone]
  | otherShape h => exact split_of_otherShape h
  | emptyDevice hslash => rw [split_of_pair (by decide) hslash, if_pos rfl]
  | unknownCategory hdevice hslash hname h =>
    rw [split_of_pair hslash hname, if_neg hdevice, parse_unknown h]
    rfl

/-- Every topic is routed. -/
lemma exists_routes (root topic : String) : ∃ r, Routes root topic r := by
  by_cases hroot : ∃ rest, topic = root ++ "/" ++ rest
  case neg => exact ⟨_, .otherRoot fun rest hrest => hroot ⟨rest, hrest⟩⟩
  obtain ⟨rest, rfl⟩ := hroot
  by_cases hshape : rest.toList.count '/' = 1
  case neg => exact ⟨_, .otherShape hshape⟩
  obtain ⟨device, name, rfl, hdevice, hname⟩ := Text.exists_pair_iff.1 hshape
  by_cases hempty : device = ""
  case pos =>
    subst hempty
    exact ⟨_, .emptyDevice hname⟩
  by_cases hknown : ∃ c : Category, c.name = name
  case pos =>
    obtain ⟨c, rfl⟩ := hknown
    exact ⟨_, .address hempty hdevice⟩
  case neg => exact ⟨_, .unknownCategory hempty hdevice hname (not_exists.1 hknown)⟩

/-- Topics are split by the grammar. -/
theorem split_eq_iff {root topic : String} {r : Except RoutingError Address} :
    split root topic = r ↔ Routes root topic r := by
  constructor
  · rintro rfl
    obtain ⟨r, hr⟩ := exists_routes root topic
    rw [hr.split_eq]
    exact hr
  · exact Routes.split_eq

variable {root topic : String}

/-- A topic is written as the root, the device and the category. -/
lemma render_eq (root : String) (a : Address) :
    render root a = root ++ "/" ++ (a.device ++ "/" ++ a.category.name) := by
  simp only [render, String.append_assoc]

/-- The topics of an address are what rendering gives for it, if its device is a single part. -/
lemma split_eq_ok_iff {a : Address} :
    split root topic = .ok a ↔
      topic = render root a ∧ a.device ≠ "" ∧ '/' ∉ a.device.toList := by
  rw [split_eq_iff, render_eq]
  constructor
  · intro h
    cases h with
    | address hdevice hslash => exact ⟨rfl, hdevice, hslash⟩
  · rintro ⟨rfl, hdevice, hslash⟩
    exact .address hdevice hslash

/-- A topic is invalid unless the root is followed by two parts. -/
lemma split_invalid_iff :
    (∃ t fault, split root topic = .error (.invalidTopic t fault)) ↔
      ¬∃ rest, topic = root ++ "/" ++ rest ∧ rest.toList.count '/' = 1 := by
  constructor
  · rintro ⟨t, fault, h⟩ ⟨rest, rfl, hcount⟩
    obtain ⟨device, name, rfl, hdevice, hname⟩ := Text.exists_pair_iff.1 hcount
    have hpair := (split_of_pair hdevice hname).symm.trans h
    split at hpair
    · cases hpair
    · unfold Category.parse at hpair
      split at hpair <;> cases hpair
  · intro h
    by_cases hroot : ∃ rest, topic = root ++ "/" ++ rest
    case neg =>
      exact ⟨_, _, Routes.split_eq (.otherRoot fun rest hrest => hroot ⟨rest, hrest⟩)⟩
    obtain ⟨rest, rfl⟩ := hroot
    exact ⟨_, _, split_of_otherShape fun hcount => h ⟨rest, rfl, hcount⟩⟩

/-- The device is missing exactly if the two parts begin with the slash between them. -/
lemma split_eq_emptyDevice_iff :
    split root topic = .error .emptyDevice ↔
      ∃ rest, topic = root ++ "/" ++ rest ∧ rest.toList.count '/' = 1 ∧
        rest.toList.head? = some '/' := by
  rw [split_eq_iff]
  constructor
  · intro h
    cases h with
    | @emptyDevice name hslash =>
      refine ⟨_, rfl, ?_, by simp⟩
      simp [List.count_eq_zero.2 hslash]
  · rintro ⟨rest, rfl, hcount, hhead⟩
    obtain ⟨device, name, rfl, hdevice, hname⟩ := Text.exists_pair_iff.1 hcount
    have hempty : device = "" := by
      by_contra hne
      obtain ⟨c, cs, hcs⟩ := List.exists_cons_of_ne_nil (mt String.toList_eq_nil_iff.1 hne)
      simp only [String.toList_append, hcs, List.cons_append, List.head?_cons,
        Option.some.injEq] at hhead
      exact hdevice (hcs ▸ hhead ▸ List.mem_cons_self)
    subst hempty
    exact .emptyDevice hname

/-- A category is unknown exactly if the second part is the name of none and the first is a
device. -/
lemma split_eq_unknownCategory_iff {name : String} :
    split root topic = .error (.unknownCategory name) ↔
      ∃ device, topic = root ++ "/" ++ device ++ "/" ++ name ∧ device ≠ "" ∧
        '/' ∉ device.toList ∧ '/' ∉ name.toList ∧ ∀ c : Category, c.name ≠ name := by
  rw [split_eq_iff]
  constructor
  · intro h
    cases h with
    | @unknownCategory device _ hdevice hslash hname h =>
      exact ⟨device, by simp only [String.append_assoc], hdevice, hslash, hname, h⟩
  · rintro ⟨device, rfl, hdevice, hslash, hname, h⟩
    have hjoined :
        root ++ "/" ++ device ++ "/" ++ name = root ++ "/" ++ (device ++ "/" ++ name) := by
      simp only [String.append_assoc]
    rw [hjoined]
    exact .unknownCategory hdevice hslash hname h

/-- No two addresses of single parts have one topic. -/
lemma render_inj {a b : Address} (ha : '/' ∉ a.device.toList) (hb : '/' ∉ b.device.toList)
    (h : render root a = render root b) : a = b := by
  rw [render_eq, render_eq, String.append_right_inj] at h
  have ha' : Text.pieces '/' (a.device ++ "/" ++ a.category.name) = [a.device, a.category.name] :=
    Text.pieces_eq_pair_iff.2 ⟨rfl, ha, a.category.slash_not_mem_name⟩
  have hb' : Text.pieces '/' (b.device ++ "/" ++ b.category.name) = [b.device, b.category.name] :=
    Text.pieces_eq_pair_iff.2 ⟨rfl, hb, b.category.slash_not_mem_name⟩
  have hpieces : [a.device, a.category.name] = [b.device, b.category.name] := by
    rw [← ha', h, hb']
  obtain ⟨hdevice, hname⟩ : a.device = b.device ∧ a.category.name = b.category.name := by
    simpa using hpieces
  cases a
  cases b
  exact congrArg₂ Address.mk hdevice (Category.name_inj hname)

end Topic

namespace Engine

/-- The engine was given a root of the topics, when it was set up or later, and has handled messages
since. -/
inductive Rooted (root : String) : Engine → Prop
  | ofSettings {s : TelemetrySettings} (h : s.topicRoot = root) : Rooted root (.ofSettings s)
  | withRoot (e : Engine) : Rooted root (e.withRoot root)
  | handle {e : Engine} (h : Rooted root e) (m : Message) : Rooted root (e.handle m).2

/-- An engine with a given root has that root, cleaned. -/
lemma Rooted.topicRoot_eq {root : String} {e : Engine} (h : Rooted root e) :
    e.topicRoot = Topic.cleanRoot root := by
  induction h with
  | ofSettings h => rw [← h]; rfl
  | withRoot e => rfl
  | handle h m ih => rw [topicRoot_handle, ih]

/-- A message on a topic is refused for its topic or not at all. -/
lemma split_of_handleTopic {e : Engine} {topic : String} {payload : ByteArray} {time : Moment}
    {fault : RoutingError} (h : (e.handleTopic topic payload time).1 = .error fault) :
    Topic.split e.topicRoot topic = .error fault := by
  unfold handleTopic at h
  cases hsplit : Topic.split e.topicRoot topic with
  | error found =>
    rw [hsplit] at h
    cases h
    rfl
  | ok a =>
    obtain ⟨-, hdevice, -⟩ := Topic.split_eq_ok_iff.1 hsplit
    rw [hsplit] at h
    dsimp only at h
    rw [handle_eq hdevice] at h
    cases h

/-- An engine takes the root that it was given without the slashes at its ends, and routes topics by
the grammar under that root. A topic names an address exactly if it is what rendering gives for the
address, whose device is a single part, and no two addresses share a topic. A topic is invalid
unless the root is followed by two parts; failing that the device may be missing; failing that the
category may be unknown. A message on a topic is handled as a message of its address, or refused
with nothing changed. Settings that are accepted give a root that is not empty. -/
theorem topics_routed_exactly {root : String} {e : Engine} (h : Rooted root e) :
    ((∃ before after, root.toList = before ++ e.topicRoot.toList ++ after ∧
        (∀ c ∈ before, c = '/') ∧ ∀ c ∈ after, c = '/') ∧
      e.topicRoot.toList.head? ≠ some '/' ∧ e.topicRoot.toList.getLast? ≠ some '/') ∧
    (∀ topic a, Topic.split e.topicRoot topic = .ok a ↔
      topic = Topic.render e.topicRoot a ∧ a.device ≠ "" ∧ '/' ∉ a.device.toList) ∧
    (∀ a b : Address, '/' ∉ a.device.toList → '/' ∉ b.device.toList →
      Topic.render e.topicRoot a = Topic.render e.topicRoot b → a = b) ∧
    (∀ topic, (∃ t fault, Topic.split e.topicRoot topic = .error (.invalidTopic t fault)) ↔
      ¬∃ rest, topic = e.topicRoot ++ "/" ++ rest ∧ rest.toList.count '/' = 1) ∧
    (∀ topic, Topic.split e.topicRoot topic = .error .emptyDevice ↔
      ∃ rest, topic = e.topicRoot ++ "/" ++ rest ∧ rest.toList.count '/' = 1 ∧
        rest.toList.head? = some '/') ∧
    (∀ topic name, Topic.split e.topicRoot topic = .error (.unknownCategory name) ↔
      ∃ device, topic = e.topicRoot ++ "/" ++ device ++ "/" ++ name ∧ device ≠ "" ∧
        '/' ∉ device.toList ∧ '/' ∉ name.toList ∧ ∀ c : Category, c.name ≠ name) ∧
    (∀ topic payload time,
      (∀ a, Topic.split e.topicRoot topic = .ok a →
        e.handleTopic topic payload time = e.handle ⟨a.device, a.category, payload, time⟩) ∧
      (∀ fault, Topic.split e.topicRoot topic = .error fault →
        e.handleTopic topic payload time = (.error fault, e)) ∧
      ∀ fault, (e.handleTopic topic payload time).1 = .error fault →
        Topic.split e.topicRoot topic = .error fault) ∧
    ∀ s accepted : Settings, s.validate = .ok accepted →
      accepted.telemetry.topicRoot = root → e.topicRoot ≠ "" := by
  rw [h.topicRoot_eq]
  refine ⟨Topic.cleanRoot_spec root, fun topic a => Topic.split_eq_ok_iff,
    fun a b => Topic.render_inj, fun topic => Topic.split_invalid_iff,
    fun topic => Topic.split_eq_emptyDevice_iff,
    fun topic name => Topic.split_eq_unknownCategory_iff, ?_, ?_⟩
  · intro topic payload time
    rw [← h.topicRoot_eq]
    refine ⟨fun a hsplit => ?_, fun fault hsplit => ?_, fun fault => split_of_handleTopic⟩
    · rw [handleTopic, hsplit]
    · rw [handleTopic, hsplit]
  · intro s accepted haccepted hroot
    obtain ⟨rfl, hne, -⟩ := Settings.validate_eq_ok_iff.1 haccepted
    rw [← hroot]
    exact hne

/-- A root of two parts, given between slashes. -/
theorem topics_routed_exactly_root_in_parts :
    let online : Message := ⟨"canary-01", .status, "online".toUTF8, 1⟩
    let e : Engine := (((fresh .default "securacv").withRoot "/site/a//").handle online).2
    e.topicRoot = "site/a" ∧
      Topic.split e.topicRoot "site/a/canary-01/health" = .ok ⟨"canary-01", .health⟩ ∧
      (∃ t fault, Topic.split e.topicRoot "site/a/canary-01" = .error (.invalidTopic t fault)) ∧
      Topic.split e.topicRoot "site/a//wifi" = .error .emptyDevice ∧
      Topic.split e.topicRoot "site/a/canary-01/wifi" = .error (.unknownCategory "wifi") := by
  intro online e
  have hrooted : Rooted "/site/a//" e := .handle (.withRoot _) online
  have hroot : e.topicRoot = "site/a" := by
    rw [hrooted.topicRoot_eq]
    decide +kernel
  obtain ⟨-, hok, -, hinvalid, hempty, hunknown, -⟩ := topics_routed_exactly hrooted
  rw [hroot] at hok hinvalid hempty hunknown ⊢
  refine ⟨rfl, (hok _ _).2 (by decide +kernel), (hinvalid _).2 ?_,
    (hempty _).2 ⟨"/wifi", by decide +kernel⟩, (hunknown _ _).2 ⟨"canary-01", by decide +kernel,
      by decide, by decide, by decide, fun c => by cases c <;> decide⟩⟩
  rintro ⟨rest, htopic, hcount⟩
  have hrest : rest = "canary-01" := (String.append_right_inj _).1 htopic.symm
  rw [hrest] at hcount
  revert hcount
  decide

end Engine

end TamperWatch
