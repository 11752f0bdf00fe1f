import TamperWatch.Proofs.Command.Arguments
import TamperWatch.Proofs.Command.ExitStatus

/-!
# The profiles exclude each other

A fuse cannot hold two literals, so where a rule expects one literal of a device fresh from the
factory and another one of a locked device, no device passes as both. The rule table has such rules.
Main statement: `FuseVerify.profiles_exclude_each_other`, for every rule table with such a rule and
for the exit status of the command line tool.
-/

namespace TamperWatch

namespace Literal

/-- The value that reads as a literal. -/
def value : Literal → FuseValue
  | int n => .int n
  | text s => .text s

/-- The value of a literal tells which literal it is. -/
lemma value_inj {l l' : Literal} (h : l.value = l'.value) : l = l' := by
  cases l with
  | int n =>
    cases l' with
    | int n' => exact congrArg int (FuseValue.int.inj h)
    | text s' => cases h
  | text s =>
    cases l' with
    | int n' => cases h
    | text s' => exact congrArg text (FuseValue.text.inj h)

/-- A literal accepts its own value and no other, a number no text and a text no number. -/
lemma accepts_iff {l : Literal} {v : FuseValue} : l.accepts v = true ↔ l.value = v := by
  cases l with
  | int n => cases v <;> simp [accepts, value]
  | text s => cases v <;> simp [accepts, value]

/-- No value is accepted by two literals. -/
lemma eq_of_accepts {l l' : Literal} {v : FuseValue} (h : l.accepts v = true)
    (h' : l'.accepts v = true) : l = l' :=
  value_inj ((accepts_iff.1 h).trans (accepts_iff.1 h').symm)

end Literal

namespace Audit

variable {rules : List FuseRule} {attributes : FuseAttributes} {profile : Profile} {r : FuseRule}

/-- A device that passes holds the literals that are expected of it. -/
lemma accepts_of_passes {identity : Option DeviceIdentity} {now : Stamp} {l : Literal}
    (h : (verify rules attributes profile identity now).passes = true) (hr : r ∈ rules)
    (hl : r.expected profile = .literal l) : l.accepts (attributes.read r.name) = true := by
  have hmem : checkRule attributes profile r ∈ checks rules attributes profile :=
    List.mem_append_left _ (List.mem_map_of_mem hr)
  have hpassed : (checkRule attributes profile r).passed = true := List.all_eq_true.1 h _ hmem
  have hexpected : (r.expected profile).accepts (attributes.read r.name) = true :=
    (Bool.and_eq_true_iff.1 hpassed).2
  rw [hl] at hexpected
  exact hexpected

/-- The one value read for a rule would have to be two literals. -/
lemma not_passes_both {l l' : Literal} {attributes' : FuseAttributes}
    {identity identity' : Option DeviceIdentity} {now now' : Stamp} (hr : r ∈ rules)
    (hvirgin : r.virgin = .literal l) (hlocked : r.locked = .literal l') (hne : l ≠ l')
    (hread : attributes.read r.name = attributes'.read r.name) :
    ¬((verify rules attributes .virgin identity now).passes = true ∧
      (verify rules attributes' .locked identity' now').passes = true) := by
  rintro ⟨hpasses, hpasses'⟩
  have hl : l.accepts (attributes.read r.name) = true := accepts_of_passes hpasses hr hvirgin
  have hl' : l'.accepts (attributes'.read r.name) = true := accepts_of_passes hpasses' hr hlocked
  rw [← hread] at hl'
  exact hne (Literal.eq_of_accepts hl hl')

end Audit

namespace FuseVerify

open Arguments

/-- The flag that asks for the checks of a profile. -/
def profileFlag : Profile → String
  | .virgin => "expect-virgin"
  | .locked => "expect-locked"

/-- The flag of a profile is a flag of the verifier. -/
lemma isFlag_profileFlag (profile : Profile) : IsFlag known (profileFlag profile) := by
  cases profile with
  | virgin => exact ⟨by decide, by decide, ⟨"expect-virgin", none, .flag⟩, rfl, rfl⟩
  | locked => exact ⟨by decide, by decide, ⟨"expect-locked", none, .flag⟩, rfl, rfl⟩

variable {o : Options} {profile : Profile}

/-- Where one task is named at most, the task is any one that is named. -/
lemma eq_of_mem_tasks {tasks : List Task} {task named : Task}
    (h : (match tasks with
      | [] => some .verifyDefault
      | [task] => some task
      | _ => none) = some task)
    (hmem : named ∈ tasks) : task = named := by
  match tasks, h with
  | [], _ => cases hmem
  | [only], h =>
    rw [List.mem_singleton] at hmem
    rw [hmem]
    exact (Option.some.inj h).symm

/-- Where the flag of a profile is given, the task is to verify that profile. -/
lemma task_of_has {given : Given} {task : Task} (h : task? given = some task)
    (hflag : given.has (profileFlag profile) = true) : task = .verify profile := by
  refine eq_of_mem_tasks h ?_
  cases profile with
  | virgin => simp [show given.has "expect-virgin" = true from hflag]
  | locked => simp [show given.has "expect-locked" = true from hflag]

/-- The flag of a profile, anywhere on a command line, sets the task of its run. -/
lemma task_of_mem {arguments : List String} (h : request arguments = .run o)
    (hmem : "--" ++ profileFlag profile ∈ arguments) : o.task = .verify profile := by
  obtain ⟨given, hread, hgiven⟩ := request_eq_run h
  exact task_of_has (task?_of_ofGiven? hgiven) (has_of_mem (isFlag_profileFlag profile) hread hmem)

/-- A run for a profile that has status 0 found fuses that pass as that profile. -/
lemma passes_of_status {s : Sources} {written : String → String → Except FileError Unit}
    (htask : o.task = .verify profile) (h : (o.outcome s written).status = 0) :
    ∃ attributes, s.Hold attributes ∧
      (Audit.verify FuseRule.table attributes profile (some o.identity) s.now).passes = true := by
  obtain ⟨d, hd, -, hstatus⟩ := (status_outcome_eq_iff (by decide)).1 h
  obtain ⟨settings, attributes, profile?, -, hhold, hprofile, rfl⟩ := deliverable_eq_ok_iff.1 hd
  rw [Options.profile?, htask] at hprofile
  cases hprofile
  refine ⟨attributes, hhold, List.all_eq_true.2 ?_⟩
  exact exitStatus_eq_zero_iff.1 hstatus

/-- An input holds one set of fuses only. -/
lemma Sources.Hold.unique {s s' : Sources} {attributes attributes' : FuseAttributes}
    (h : s.Hold attributes) (h' : s'.Hold attributes') (hinput : s.input = s'.input) :
    attributes = attributes' := by
  obtain ⟨text, htext, hparse⟩ := h
  obtain ⟨text', htext', hparse'⟩ := h'
  rw [hinput, htext'] at htext
  cases htext
  exact Except.ok.inj (hparse.symm.trans hparse')

/-- The status of a run is that of its outcome in the directory. -/
lemma status_runIn {arguments : List String} (h : request arguments = .run o) (w : Workspace)
    (now : Stamp) :
    (runIn w now arguments).1.status = (o.outcome (o.sources w now) fun path document =>
      (w.write path document).map fun _ => ()).status := by
  simp only [runIn, h]

/-- No device passes both as fresh from the factory and as locked, if one rule of the table expects
different literals in the two profiles. The rule may stand anywhere among others of any kind, and
the fuses may be read twice, if only those two readings of the rule's fuse agree. So the tool, with
its own table, does not have status 0 on one input both for the flag of one profile and for that of
the other, whatever else is on the command lines. -/
theorem profiles_exclude_each_other :
    (∀ (rules : List FuseRule) (r : FuseRule) (l l' : Literal), r ∈ rules →
      r.virgin = .literal l → r.locked = .literal l' → l ≠ l' →
      ∀ m m' : FuseAttributes, m.read r.name = m'.read r.name →
      ∀ identity identity' now now',
        ¬((Audit.verify rules m .virgin identity now).passes = true ∧
          (Audit.verify rules m' .locked identity' now').passes = true)) ∧
    ∀ (arguments arguments' : List String) (o o' : Options),
      request arguments = .run o → request arguments' = .run o' →
      "--expect-virgin" ∈ arguments → "--expect-locked" ∈ arguments' →
      ∀ w w' now now', (o.sources w now).input = (o'.sources w' now').input →
        ¬((runIn w now arguments).1.status = 0 ∧ (runIn w' now' arguments').1.status = 0) := by
  refine ⟨fun rules r l l' hr hvirgin hlocked hne m m' hread identity identity' now now' => ?_,
    fun arguments arguments' o o' h h' hflag hflag' w w' now now' hinput => ?_⟩
  · exact Audit.not_passes_both hr hvirgin hlocked hne hread
  · rintro ⟨hstatus, hstatus'⟩
    rw [status_runIn h] at hstatus
    rw [status_runIn h'] at hstatus'
    have htask : o.task = .verify .virgin := task_of_mem h hflag
    have htask' : o'.task = .verify .locked := task_of_mem h' hflag'
    obtain ⟨m, hhold, hpasses⟩ := passes_of_status htask hstatus
    obtain ⟨m', hhold', hpasses'⟩ := passes_of_status htask' hstatus'
    obtain rfl := hhold.unique hhold' hinput
    have hmem : FuseRule.burned "SECURE_BOOT_EN" "Enables Secure Boot v2" ∈ FuseRule.table :=
      List.mem_cons_self
    exact Audit.not_passes_both hmem rfl rfl (by decide) rfl ⟨hpasses, hpasses'⟩

/-- One fuse that is not burned, as a table with a rule for it sees it and as the tool does. -/
theorem profiles_exclude_each_other_secure_boot :
    let rules : List FuseRule := [.freeSlot "KEY_PURPOSE_1" "", .burned "SECURE_BOOT_EN" ""]
    let m : FuseAttributes := .ofList [("KEY_PURPOSE_1", .text "USER"), ("SECURE_BOOT_EN", .int 0)]
    let virgin := ["-i", "-", "--expect-virgin"]
    let locked := ["--quiet", "--expect-locked", "-i-"]
    let w : Workspace := ⟨[], "\x7b\"SECURE_BOOT_EN\": 0\x7d".toUTF8⟩
    (Audit.verify rules m .virgin none ⟨0⟩).passes = true ∧
      (Audit.verify rules m .locked none ⟨0⟩).passes = false ∧
      ¬((runIn w ⟨0⟩ virgin).1.status = 0 ∧ (runIn w ⟨1⟩ locked).1.status = 0) := by
  intro rules m virgin locked w
  have hpasses : (Audit.verify rules m .virgin none ⟨0⟩).passes = true := by decide +kernel
  obtain ⟨hrules, htool⟩ := profiles_exclude_each_other
  refine ⟨hpasses, ?_, ?_⟩
  · have hboth := hrules rules (.burned "SECURE_BOOT_EN" "") (.int 0) (.int 1)
      (List.mem_cons_of_mem _ List.mem_cons_self) rfl rfl (by decide) m m rfl none none ⟨0⟩ ⟨0⟩
    exact Bool.eq_false_iff.2 fun hlocked => hboth ⟨hpasses, hlocked⟩
  · exact htool virgin locked ⟨"-", .verify .virgin, {}, false, none, false, none, false⟩
      ⟨"-", .verify .locked, {}, false, none, true, none, false⟩ (by decide +kernel)
      (by decide +kernel) (by decide) (by decide) w w ⟨0⟩ ⟨1⟩ rfl

end FuseVerify

end TamperWatch
