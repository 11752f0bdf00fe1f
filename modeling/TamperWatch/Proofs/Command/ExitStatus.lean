import Mathlib.Data.List.Basic
import TamperWatch.Command.FuseVerify

/-!
# The exit status of the fuse verifier

The status tells whether the fuses of a device are as they should be, and it tells so only when they
were checked. Everything that can be in the way of the checks leads to status 2: a configuration or
an input that cannot be read or makes no sense, a profile that does not exist, a report that cannot
be written. The report is reached exactly if none of these is in the way
(`FuseVerify.deliverable_eq_ok_iff`), and the profile is the one of a flag, else the one that is
named, else the one of the settings (`FuseVerify.profile?_eq`). Main statement:
`FuseVerify.status_never_fails_open`.
-/

namespace TamperWatch

/-- Whether a file can be written does not depend on what is written to it. -/
lemma Workspace.map_write (w : Workspace) (path content content' : String) :
    (w.write path content).map (fun _ => ()) = (w.write path content').map fun _ => () := by
  unfold write put
  split
  · cases w.locate path with
    | error e => rfl
    | ok place => cases place <;> rfl
  · cases w.locateParts (withoutLastSlashes (Text.pieces '/' path)) <;> rfl

namespace FuseVerify

open Arguments

/-- The settings of a run: the defaults where no file is named, or else what the file gives. -/
inductive Options.Configured (o : Options) (s : Sources) : Settings → Prop where
  | defaults (hconfig : o.config = none) : Configured o s {}
  | file {path text : String} {settings : Settings} (hconfig : o.config = some path)
      (htext : s.config = .ok text) (hread : Settings.ofToml text = .ok settings) :
      Configured o s settings

/-- The input of a run can be read and holds these fuses. -/
def Sources.Hold (s : Sources) (attributes : FuseAttributes) : Prop :=
  ∃ text, s.input = .ok text ∧ FuseAttributes.parse text = .ok attributes

/-- The profile that a run checks against: that of a flag, else the one that is named, else the one
of the settings. -/
def chosenProfile (given : Given) (settings : Settings) : Except UnknownProfile Profile :=
  if given.has "expect-virgin" then .ok .virgin
  else if given.has "expect-locked" then .ok .locked
  else Profile.parse ((given.lookup "expect").getD settings.verifier.defaultProfile)

/-- A run gets as far as a report on the checks. -/
def Options.Audits (o : Options) (given : Given) (s : Sources) (report : AuditReport) : Prop :=
  ∃ settings attributes profile, o.Configured s settings ∧ s.Hold attributes ∧
    chosenProfile given settings = .ok profile ∧
    report = Audit.verify FuseRule.table attributes profile (some o.identity) s.now

/-- A run gets as far as a listing. -/
def Options.Lists (o : Options) (s : Sources) (listing : FuseListing) : Prop :=
  ∃ settings attributes, o.Configured s settings ∧ s.Hold attributes ∧
    listing = Audit.list FuseRule.table attributes (some o.identity) s.now

/-- The document is written where that was asked for. -/
def Options.Delivers (o : Options) (written : String → String → Except FileError Unit)
    (document : String) : Prop :=
  ∀ path, o.output = some path → written path document = .ok ()

/-- What a run makes of the fuses, for a profile or for none. -/
def Options.deliver (o : Options) (s : Sources) (attributes : FuseAttributes) :
    Option Profile → Deliverable
  | none =>
    let listing := Audit.list FuseRule.table attributes (some o.identity) s.now
    ⟨listing.toJson.pretty, listing.render, 0⟩
  | some profile =>
    let report := Audit.verify FuseRule.table attributes profile (some o.identity) s.now
    ⟨report.toJson.pretty, report.render, report.exitStatus⟩

variable {o : Options} {s : Sources} {written : String → String → Except FileError Unit}

/-- A command line asks for a run if it can be read and its options go together. -/
lemma request_eq_run {arguments : List String} (h : request arguments = .run o) :
    ∃ given, Arguments.read known arguments = .run given ∧ ofGiven? given = some o := by
  unfold request at h
  cases hread : Arguments.read known arguments with
  | run given =>
    rw [hread] at h
    cases ho : ofGiven? given with
    | none => simp [ho] at h
    | some options =>
      simp only [ho, Request.run.injEq] at h
      exact ⟨given, rfl, h ▸ ho⟩
  | _ => simp [hread] at h

/-- The task of a run is the one that its options ask for. -/
lemma task?_of_ofGiven? {given : Given} (h : ofGiven? given = some o) :
    task? given = some o.task := by
  obtain ⟨input, _, h⟩ := Option.bind_eq_some_iff.1 h
  obtain ⟨task, htask, h⟩ := Option.bind_eq_some_iff.1 h
  cases h
  exact htask

/-- A listing needs no profile, and a check the chosen one. -/
lemma profile?_eq {given : Given} (h : task? given = some o.task) (settings : Settings) :
    o.profile? settings =
      if given.has "info" then .ok none
      else match chosenProfile given settings with
        | .error e => .error (.profile e)
        | .ok profile => .ok (some profile) := by
  unfold task? at h
  unfold Options.profile? chosenProfile
  generalize o.task = task at h ⊢
  -- With two of the four options there is no task, and each way to give at most one is a case.
  cases hvirgin : given.has "expect-virgin" <;> cases hlocked : given.has "expect-locked" <;>
    cases hinfo : given.has "info" <;> cases hexpect : given.lookup "expect" <;>
      simp only [hvirgin, hlocked, hinfo, hexpect] at h <;> cases h <;> rfl

/-- The settings can be had exactly if the run is configured with them. -/
lemma settings_eq_ok_iff {settings : Settings} :
    o.settings s = .ok settings ↔ o.Configured s settings := by
  constructor
  · intro h
    unfold Options.settings at h
    cases hconfig : o.config with
    | none =>
      rw [hconfig] at h
      cases h
      exact .defaults hconfig
    | some path =>
      rw [hconfig] at h
      cases htext : s.config with
      | error e => simp [htext] at h
      | ok text =>
        cases hread : Settings.ofToml text with
        | error e => simp [htext, hread] at h
        | ok read =>
          simp only [htext, hread, Except.ok.injEq] at h
          exact .file hconfig htext (h ▸ hread)
  · intro h
    unfold Options.settings
    cases h with
    | defaults hconfig => rw [hconfig]
    | file hconfig htext hread => simp only [hconfig, htext, hread]

/-- The attributes can be had exactly if the input holds them. -/
lemma attributes_eq_ok_iff {attributes : FuseAttributes} :
    o.attributes s = .ok attributes ↔ s.Hold attributes := by
  unfold Options.attributes Sources.Hold
  cases s.input with
  | error e => simp
  | ok text => cases hparse : FuseAttributes.parse text <;> simp [hparse]

/-- A sequence gives a result exactly if its second part gives it from that of the first. -/
lemma bind_eq_ok_iff {ε α β : Type} {x : Except ε α} {f : α → Except ε β} {b : β} :
    x.bind f = .ok b ↔ ∃ a, x = .ok a ∧ f a = .ok b := by
  cases x <;> simp [Except.bind]

/-- A mapped computation gives the images of the results of the computation. -/
lemma map_eq_ok_iff {ε α β : Type} {x : Except ε α} {f : α → β} {b : β} :
    x.map f = .ok b ↔ ∃ a, x = .ok a ∧ f a = b := by
  cases x <;> simp [Except.map]

/-- The configuration, the input and the profile are gone through in turn. -/
lemma deliverable_eq :
    o.deliverable s = (o.settings s).bind fun settings => (o.attributes s).bind fun attributes =>
      (o.profile? settings).map (o.deliver s attributes) := by
  unfold Options.deliverable
  cases o.settings s with
  | error e => rfl
  | ok settings =>
    cases o.attributes s with
    | error e => rfl
    | ok attributes =>
      show (o.profile? settings).bind _ = (o.profile? settings).map _
      cases o.profile? settings with
      | error e => rfl
      | ok profile? => cases profile? <;> rfl

/-- There is something to deliver exactly if settings, fuses and profile can be had. -/
lemma deliverable_eq_ok_iff {d : Deliverable} :
    o.deliverable s = .ok d ↔
      ∃ settings attributes profile?, o.Configured s settings ∧ s.Hold attributes ∧
        o.profile? settings = .ok profile? ∧ o.deliver s attributes profile? = d := by
  simp only [deliverable_eq, bind_eq_ok_iff, map_eq_ok_iff, settings_eq_ok_iff,
    attributes_eq_ok_iff]
  constructor
  · rintro ⟨settings, hsettings, attributes, hattributes, profile?, hprofile, hd⟩
    exact ⟨settings, attributes, profile?, hsettings, hattributes, hprofile, hd⟩
  · rintro ⟨settings, attributes, profile?, hsettings, hattributes, hprofile, hd⟩
    exact ⟨settings, hsettings, attributes, hattributes, profile?, hprofile, hd⟩

/-- A run that is to list the fuses gets as far as a listing, whatever profile is named anywhere. -/
lemma deliverable_of_info {given : Given} (h : task? given = some o.task)
    (hinfo : given.has "info" = true) {d : Deliverable} :
    o.deliverable s = .ok d ↔
      ∃ listing, o.Lists s listing ∧ d = ⟨listing.toJson.pretty, listing.render, 0⟩ := by
  rw [deliverable_eq_ok_iff]
  constructor
  · rintro ⟨settings, attributes, profile?, hsettings, hattributes, hprofile, rfl⟩
    rw [profile?_eq h, if_pos hinfo] at hprofile
    cases hprofile
    exact ⟨_, ⟨settings, attributes, hsettings, hattributes, rfl⟩, rfl⟩
  · rintro ⟨_, ⟨settings, attributes, hsettings, hattributes, rfl⟩, rfl⟩
    refine ⟨settings, attributes, none, hsettings, hattributes, ?_, rfl⟩
    rw [profile?_eq h, if_pos hinfo]

/-- Without a listing there is something to deliver exactly if the run gets as far as a report. -/
lemma deliverable_of_not_info {given : Given} (h : task? given = some o.task)
    (hinfo : given.has "info" = false) {d : Deliverable} :
    o.deliverable s = .ok d ↔
      ∃ report, o.Audits given s report ∧
        d = ⟨report.toJson.pretty, report.render, report.exitStatus⟩ := by
  have hprofile (settings : Settings) (profile? : Option Profile) :
      o.profile? settings = .ok profile? ↔
        ∃ profile, chosenProfile given settings = .ok profile ∧ profile? = some profile := by
    rw [profile?_eq h, hinfo, if_neg Bool.false_ne_true]
    cases chosenProfile given settings <;> simp [eq_comm]
  simp only [deliverable_eq_ok_iff, hprofile]
  constructor
  · rintro ⟨settings, attributes, _, hsettings, hattributes, ⟨profile, hchosen, rfl⟩, rfl⟩
    exact ⟨_, ⟨settings, attributes, profile, hsettings, hattributes, hchosen, rfl⟩, rfl⟩
  · rintro ⟨_, ⟨settings, attributes, profile, hsettings, hattributes, hchosen, rfl⟩, rfl⟩
    exact ⟨settings, attributes, some profile, hsettings, hattributes, ⟨profile, hchosen, rfl⟩, rfl⟩

/-- The status of a report is 0 exactly if every check passes. -/
lemma exitStatus_eq_zero_iff {r : AuditReport} :
    r.exitStatus = 0 ↔ ∀ c ∈ r.checks, c.passed = true := by
  simp [AuditReport.exitStatus, AuditReport.passes]

/-- The status of a report is 1 exactly if some check fails. -/
lemma exitStatus_eq_one_iff {r : AuditReport} :
    r.exitStatus = 1 ↔ ∃ c ∈ r.checks, c.passed = false := by
  simp [AuditReport.exitStatus, AuditReport.passes]

/-- The status of a report is a function of its checks. -/
lemma exitStatus_congr {r r' : AuditReport} (h : r'.checks = r.checks) :
    r'.exitStatus = r.exitStatus := by
  unfold AuditReport.exitStatus AuditReport.passes
  rw [h]

/-- Status 2 is that of every run without a report; a run with one has its status, which is not
2. -/
lemma status_outcome_eq_iff {n : Nat} (hn : n ≠ 2) :
    (o.outcome s written).status = n ↔
      ∃ d, o.deliverable s = .ok d ∧ o.Delivers written d.document ∧ d.status = n := by
  unfold Options.outcome Options.Delivers
  cases o.deliverable s with
  | error f => simp [Outcome.failed, hn.symm]
  | ok d =>
    cases o.output with
    | none => simp [Options.printed]
    | some path =>
      cases hwritten : written path d.document with
      | error e => simp [hwritten, Outcome.failed, hn.symm]
      | ok _ => simp [hwritten, Options.printed]

/-- A listing that was asked for gives no status but 0, once it is written. -/
lemma status_outcome_of_info {given : Given} (h : task? given = some o.task)
    (hinfo : given.has "info" = true) {n : Nat} (hn : n ≠ 2) :
    (o.outcome s written).status = n ↔
      (∃ listing, o.Lists s listing ∧ o.Delivers written listing.toJson.pretty) ∧ n = 0 := by
  rw [status_outcome_eq_iff hn]
  constructor
  · rintro ⟨d, hd, hwritten, rfl⟩
    obtain ⟨listing, hlisting, rfl⟩ := (deliverable_of_info h hinfo).1 hd
    exact ⟨⟨listing, hlisting, hwritten⟩, rfl⟩
  · rintro ⟨⟨listing, hlisting, hwritten⟩, rfl⟩
    exact ⟨_, (deliverable_of_info h hinfo).2 ⟨listing, hlisting, rfl⟩, hwritten, rfl⟩

/-- Without a listing the status is that of the report, once it is written. -/
lemma status_outcome_of_not_info {given : Given} (h : task? given = some o.task)
    (hinfo : given.has "info" = false) {n : Nat} (hn : n ≠ 2) :
    (o.outcome s written).status = n ↔
      ∃ report, o.Audits given s report ∧ o.Delivers written report.toJson.pretty ∧
        report.exitStatus = n := by
  rw [status_outcome_eq_iff hn]
  constructor
  · rintro ⟨d, hd, hwritten, rfl⟩
    obtain ⟨report, hreport, rfl⟩ := (deliverable_of_not_info h hinfo).1 hd
    exact ⟨report, hreport, hwritten, rfl⟩
  · rintro ⟨report, hreport, hwritten, rfl⟩
    exact ⟨_, (deliverable_of_not_info h hinfo).2 ⟨report, hreport, rfl⟩, hwritten, rfl⟩

/-- What is delivered has status 0 or 1. -/
lemma status_deliver {attributes : FuseAttributes} (profile? : Option Profile) :
    (o.deliver s attributes profile?).status = 0 ∨
      (o.deliver s attributes profile?).status = 1 := by
  cases profile? with
  | none => exact .inl rfl
  | some profile =>
    simp only [Options.deliver, AuditReport.exitStatus]
    split <;> simp

/-- The status of a run is 0, 1 or 2. -/
lemma status_outcome_cases :
    (o.outcome s written).status = 0 ∨ (o.outcome s written).status = 1 ∨
      (o.outcome s written).status = 2 := by
  by_cases htwo : (o.outcome s written).status = 2
  · exact .inr (.inr htwo)
  obtain ⟨d, hd, -, hstatus⟩ := (status_outcome_eq_iff htwo).1 rfl
  obtain ⟨settings, attributes, profile?, -, -, -, rfl⟩ := deliverable_eq_ok_iff.1 hd
  rw [← hstatus]
  exact (status_deliver profile?).imp_right .inl

section Agreement

variable {o' : Options} {s' : Sources} {written' : String → String → Except FileError Unit}

/-- The time and what is said about the device are in the report, but not in its status. -/
lemma map_status_deliverable (hconfig : o'.config = o.config) (hinput : o'.input = o.input)
    (htask : o'.task = o.task) (hsconfig : s'.config = s.config) (hsinput : s'.input = s.input) :
    (o'.deliverable s').map (·.status) = (o.deliverable s).map (·.status) := by
  have hsettings : o'.settings s' = o.settings s := by
    simp only [Options.settings, hconfig, hsconfig]
  have hattributes : o'.attributes s' = o.attributes s := by
    simp only [Options.attributes, hinput, hsinput]
  have hprofile (settings : Settings) : o'.profile? settings = o.profile? settings := by
    simp only [Options.profile?, htask]
  have hstatus (attributes : FuseAttributes) (profile? : Option Profile) :
      (o'.deliver s' attributes profile?).status = (o.deliver s attributes profile?).status := by
    cases profile? with
    | none => rfl
    | some profile => exact exitStatus_congr rfl
  rw [deliverable_eq, deliverable_eq, hsettings, hattributes]
  cases o.settings s with
  | error e => simp only [Except.bind, Except.map]
  | ok settings =>
    cases o.attributes s with
    | error e => simp only [Except.bind, Except.map]
    | ok attributes =>
      simp only [Except.bind, hprofile]
      cases o.profile? settings with
      | error e => simp only [Except.map]
      | ok profile? => simp only [Except.map, hstatus]

/-- Runs that deliver one status and write alike have the same status. -/
lemma status_outcome_congr
    (hstatus : (o'.deliverable s').map (·.status) = (o.deliverable s).map (·.status))
    (houtput : o'.output = o.output)
    (hwritten : ∀ path document document', written' path document' = written path document) :
    (o'.outcome s' written').status = (o.outcome s written).status := by
  unfold Options.outcome
  rw [houtput]
  cases hd : o.deliverable s with
  | error f =>
    rw [hd] at hstatus
    cases hd' : o'.deliverable s' with
    | error f' => rfl
    | ok d' => simp [hd', Except.map] at hstatus
  | ok d =>
    rw [hd] at hstatus
    cases hd' : o'.deliverable s' with
    | error f' => simp [hd', Except.map] at hstatus
    | ok d' =>
      simp only [hd', Except.map, Except.ok.injEq] at hstatus
      cases o.output with
      | none => exact hstatus
      | some path =>
        simp only [hwritten path d.document d'.document]
        cases written path d.document with
        | error e => rfl
        | ok _ => exact hstatus

end Agreement

/-- The options that bear on the form of the report and not on the checks. -/
def presentational : List String :=
  ["json", "quiet", "verbose", "chip-model", "chip-revision", "mac", "chip-id"]

/-- Options that agree up to presentation ask for the same input, task, output and configuration. -/
lemma ofGiven?_congr {given given' : Given} (h : ofGiven? given = some o)
    (hagree : ∀ name, name ∉ presentational → given'.lookup name = given.lookup name) :
    ∃ o', ofGiven? given' = some o' ∧ o'.input = o.input ∧ o'.task = o.task ∧
      o'.output = o.output ∧ o'.config = o.config := by
  obtain ⟨input, hinput, h⟩ := Option.bind_eq_some_iff.1 h
  obtain ⟨task, htask, h⟩ := Option.bind_eq_some_iff.1 h
  cases h
  have htask' : task? given' = some task := by
    rw [← htask]
    unfold task? Given.has
    rw [hagree "expect-virgin" (by decide), hagree "expect-locked" (by decide),
      hagree "info" (by decide), hagree "expect" (by decide)]
  have hinput' : given'.lookup "input" = some input := by
    rw [hagree "input" (by decide), hinput]
  unfold ofGiven?
  rw [hinput', htask']
  exact ⟨_, rfl, rfl, rfl, hagree "output" (by decide), hagree "config" (by decide)⟩

/-- Command lines that agree up to presentation have the same status in every directory. -/
lemma status_runIn_congr {arguments arguments' : List String} {given given' : Given}
    (hread : Arguments.read known arguments = .run given) (h : ofGiven? given = some o)
    (hread' : Arguments.read known arguments' = .run given')
    (hagree : ∀ name, name ∉ presentational → given'.lookup name = given.lookup name)
    (w : Workspace) (now now' : Stamp) :
    (runIn w now' arguments').1.status = (runIn w now arguments).1.status := by
  obtain ⟨o', h', hinput, htask, houtput, hconfig⟩ := ofGiven?_congr h hagree
  have hrequest : request arguments = .run o := by simp [request, hread, h]
  have hrequest' : request arguments' = .run o' := by simp [request, hread', h']
  simp only [runIn, hrequest, hrequest']
  refine status_outcome_congr (map_status_deliverable hconfig hinput htask ?_ ?_) houtput ?_
  · simp only [Options.sources, hconfig]
  · simp only [Options.sources, hinput]
  · exact fun path document document' => w.map_write path document' document

/-- The status of a run is 0 or 1 only if the settings could be read, the input could be read and
holds fuses, and the report could be written where that was asked for. A run that lists the fuses
then has status 0. Any other run also needs a profile, and then has status 0 exactly if every check
passes and 1 exactly if one fails. Every run that lacks one of these has status 2. How a report is
printed and what is said about the device make no difference. -/
theorem status_never_fails_open {arguments : List String} {o : Options}
    (h : request arguments = .run o) :
    ∃ given, Arguments.read known arguments = .run given ∧ ofGiven? given = some o ∧
      (∀ s written, let status := (o.outcome s written).status
        (given.has "info" = false →
          (status = 0 ↔ ∃ report, o.Audits given s report ∧
            o.Delivers written report.toJson.pretty ∧ ∀ c ∈ report.checks, c.passed = true) ∧
          (status = 1 ↔ ∃ report, o.Audits given s report ∧
            o.Delivers written report.toJson.pretty ∧ ∃ c ∈ report.checks, c.passed = false)) ∧
        (given.has "info" = true →
          (status = 0 ↔ ∃ listing, o.Lists s listing ∧
            o.Delivers written listing.toJson.pretty) ∧
          status ≠ 1) ∧
        (status = 0 ∨ status = 1 ∨ status = 2)) ∧
      (∀ w now, (runIn w now arguments).1 =
        o.outcome (o.sources w now) fun path document => (w.write path document).map fun _ => ()) ∧
      ∀ arguments' given', Arguments.read known arguments' = .run given' →
        (∀ name, name ∉ presentational → given'.lookup name = given.lookup name) →
        ∀ w now now', (runIn w now' arguments').1.status = (runIn w now arguments).1.status := by
  obtain ⟨given, hread, hgiven⟩ := request_eq_run h
  have htask := task?_of_ofGiven? hgiven
  refine ⟨given, hread, hgiven, fun s written => ⟨fun hinfo => ⟨?_, ?_⟩, fun hinfo => ⟨?_, ?_⟩,
    status_outcome_cases⟩, fun w now => ?_, fun arguments' given' hread' hagree w now now' => ?_⟩
  · rw [status_outcome_of_not_info htask hinfo (by decide)]
    simp only [exitStatus_eq_zero_iff]
  · rw [status_outcome_of_not_info htask hinfo (by decide)]
    simp only [exitStatus_eq_one_iff]
  · rw [status_outcome_of_info htask hinfo (by decide), and_iff_left rfl]
  · rw [Ne, status_outcome_of_info htask hinfo (by decide)]
    exact fun hone => Nat.one_ne_zero hone.2
  · simp only [runIn, h]
  · exact status_runIn_congr hread hgiven hread' hagree w now now'

/-- A summary of a single fuse on the standard input. That fuse is as it should be, and the status
still is 1 because nothing is known of the others; to print no report does not change it. It is also
1 for the profile of the settings and for the other profile under one of its further names, and 2 for
a profile that does not exist. -/
theorem status_never_fails_open_single_fuse :
    let arguments := ["-i", "-", "--expect", "virgin"]
    let o : Options := ⟨"-", .verifyNamed "virgin", {}, false, none, false, none, false⟩
    let w : Workspace := ⟨[], "\x7b\"SECURE_BOOT_EN\": 0\x7d".toUTF8⟩
    request arguments = .run o ∧ (runIn w ⟨0⟩ arguments).1.status = 1 ∧
      (runIn w ⟨5⟩ (arguments ++ ["--quiet", "--mac", "-"])).1.status = 1 ∧
      (runIn w ⟨0⟩ ["-i", "-"]).1.status = 1 ∧
      (runIn w ⟨0⟩ ["-i", "-", "--expect", "Post-Provision"]).1.status = 1 ∧
      (runIn w ⟨0⟩ ["-i", "-", "--expect", "hardened"]).1.status = 2 := by
  intro arguments o w
  let given : Given := [("input", "-"), ("expect", "virgin")]
  let attributes : FuseAttributes := .ofList [("SECURE_BOOT_EN", .int 0)]
  have h : request arguments = .run o := by decide +kernel
  obtain ⟨_, hread, -, hstatus, hrun, hagree⟩ := status_never_fails_open h
  obtain rfl := Request.run.inj ((by decide +kernel : _ = .run given).symm.trans hread)
  have hhold : (o.sources w ⟨0⟩).Hold attributes :=
    ⟨"\x7b\"SECURE_BOOT_EN\": 0\x7d", by decide +kernel, by decide +kernel⟩
  have haudits : o.Audits given (o.sources w ⟨0⟩)
      (Audit.verify FuseRule.table attributes .virgin (some o.identity) ⟨0⟩) :=
    ⟨{}, attributes, .virgin, .defaults rfl, hhold, by decide +kernel, rfl⟩
  have hfails : (runIn w ⟨0⟩ arguments).1.status = 1 := by
    rw [hrun]
    refine ((hstatus _ _).1 rfl).2.2 ⟨_, haudits, fun path hpath => ?_, by decide +kernel⟩
    cases hpath
  have hquiet : (runIn w ⟨5⟩ (arguments ++ ["--quiet", "--mac", "-"])).1.status = 1 := by
    rw [hagree _ (given ++ [("quiet", ""), ("mac", "-")]) (by decide +kernel) ?_ w ⟨0⟩ ⟨5⟩, hfails]
    intro name hname
    have hne {other : String} (hother : other ∈ presentational) : (name == other) = false :=
      beq_eq_false_iff_ne.2 fun heq => hname (heq ▸ hother)
    simp [List.lookup_append, List.lookup_cons, hne (by decide : "quiet" ∈ presentational),
      hne (by decide : "mac" ∈ presentational)]
  -- The options of the other command lines differ in the task alone.
  have htask : ∀ {arguments'} task given' profile, request arguments' = .run { o with task } →
      Arguments.read known arguments' = .run given' → given'.has "info" = false →
      chosenProfile given' {} = .ok profile →
      (∃ c ∈ Audit.checks FuseRule.table attributes profile, c.passed = false) →
      (runIn w ⟨0⟩ arguments').1.status = 1 := by
    intro arguments' task given' profile h' hread' hinfo hchosen hfailed
    obtain ⟨_, hread'', -, hstatus', hrun', -⟩ := status_never_fails_open h'
    obtain rfl := Request.run.inj (hread'.symm.trans hread'')
    rw [hrun']
    refine ((hstatus' _ _).1 hinfo).2.2 ⟨_, ⟨{}, attributes, profile, .defaults rfl, hhold, hchosen,
      rfl⟩, fun path hpath => ?_, hfailed⟩
    cases hpath
  have hunknown : (runIn w ⟨0⟩ ["-i", "-", "--expect", "hardened"]).1.status = 2 := by
    have h' : request ["-i", "-", "--expect", "hardened"] =
        .run { o with task := .verifyNamed "hardened" } := by decide +kernel
    obtain ⟨_, hread', -, hstatus', hrun', -⟩ := status_never_fails_open h'
    obtain rfl := Request.run.inj ((by decide +kernel :
      _ = .run [("input", "-"), ("expect", "hardened")]).symm.trans hread')
    have hnone : ∀ profile, Profile.parse "hardened" ≠ .ok profile := by
      intro profile hparse
      have hnamed := Profile.parse_eq_ok_iff.1 hparse
      cases profile <;> exact absurd hnamed (by decide +kernel)
    rw [hrun']
    obtain ⟨hchecked, -, hzero | hone | htwo⟩ := hstatus' ({ o with task := _ }.sources w ⟨0⟩) _
    · obtain ⟨_, ⟨_, _, profile, -, -, hchosen, -⟩, -⟩ := (hchecked rfl).1.1 hzero
      exact absurd hchosen (hnone profile)
    · obtain ⟨_, ⟨_, _, profile, -, -, hchosen, -⟩, -⟩ := (hchecked rfl).2.1 hone
      exact absurd hchosen (hnone profile)
    · exact htwo
  refine ⟨h, hfails, hquiet, ?_, ?_, hunknown⟩
  · exact htask .verifyDefault [("input", "-")] .virgin
      (by decide +kernel) (by decide +kernel) rfl (by decide +kernel) (by decide +kernel)
  · exact htask (.verifyNamed "Post-Provision") [("input", "-"), ("expect", "Post-Provision")]
      .locked (by decide +kernel) (by decide +kernel) rfl (by decide +kernel) (by decide +kernel)

end FuseVerify

end TamperWatch
