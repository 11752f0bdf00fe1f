import TamperWatch.Command.Arguments
import TamperWatch.Command.Workspace
import TamperWatch.Fuse.Report
import TamperWatch.Settings.Document

/-!
# The fuse verifier's command line

Reads the fuses of a device, checks them against a profile or lists them, and reports. The exit
status is 0 if every check passed or nothing was to be checked, 1 if a check failed, and 2 if there
is nothing to report on or the report cannot be written.
-/

namespace TamperWatch.FuseVerify

open Arguments

/-- The name and the version of the tool. -/
def versionLine : String := "efuse-verify " ++ Report.toolVersion ++ "\n"

/-- What to do with the fuses. -/
inductive Task where
  /-- List them. -/
  | list
  | verify (profile : Profile)
  /-- Check them against the profile of a name. -/
  | verifyNamed (name : String)
  /-- Check them against the profile that the settings name. -/
  | verifyDefault
  deriving DecidableEq, Repr

structure Options where
  /-- The file with the fuses; a dash is the standard input. -/
  input : String
  task : Task
  identity : DeviceIdentity
  /-- Print the report as JSON. -/
  json : Bool
  /-- A file that gets the JSON report. -/
  output : Option String
  /-- Print no report. -/
  quiet : Bool
  config : Option String
  verbose : Bool
  deriving DecidableEq, Repr

/-- The options that the tool knows. -/
def known : List Known :=
  [⟨"input", some 'i', .path⟩, ⟨"expect", some 'e', .text⟩, ⟨"expect-virgin", none, .flag⟩,
   ⟨"expect-locked", none, .flag⟩, ⟨"info", none, .flag⟩, ⟨"chip-model", none, .text⟩,
   ⟨"chip-revision", none, .text⟩, ⟨"mac", none, .text⟩, ⟨"chip-id", none, .text⟩,
   ⟨"json", none, .flag⟩, ⟨"output", some 'o', .path⟩, ⟨"quiet", some 'q', .flag⟩,
   ⟨"config", some 'c', .path⟩, ⟨"verbose", some 'v', .flag⟩]

/-- The task that the options name; they name at most one. -/
def task? (given : Given) : Option Task :=
  let tasks :=
    (if given.has "expect-virgin" then [.verify .virgin] else []) ++
      (if given.has "expect-locked" then [.verify .locked] else []) ++
      (if given.has "info" then [.list] else []) ++
      ((given.lookup "expect").map .verifyNamed).toList
  match tasks with
  | [] => some .verifyDefault
  | [task] => some task
  | _ => none

/-- The options of a command line that keeps the rules; the input is required. -/
def ofGiven? (given : Given) : Option Options := do
  return {
    input := ← given.lookup "input"
    task := ← task? given
    identity :=
      { chipModel := given.lookup "chip-model"
        chipRevision := given.lookup "chip-revision"
        macAddress := given.lookup "mac"
        chipId := given.lookup "chip-id" }
    json := given.has "json"
    output := given.lookup "output"
    quiet := given.has "quiet"
    config := given.lookup "config"
    verbose := given.has "verbose" }

/-- What a command line asks for. -/
def request (arguments : List String) : Request Options :=
  match read known arguments with
  | .rejected => .rejected
  | .help => .help
  | .version => .version
  | .run given =>
    match ofGiven? given with
    | some options => .run options
    | none => .rejected

/-- Why there is no report. -/
inductive Failure where
  | configFile (path : String) (error : FileError)
  | config (path : String) (error : SettingsError)
  | input (path : String) (error : FileError)
  | attributes (path : String) (error : AttributesError)
  | profile (error : UnknownProfile)
  | output (path : String) (error : FileError)
  deriving DecidableEq

def Failure.message : Failure → String
  | configFile path error =>
    "failed to load config " ++ path ++ ": IO error: " ++ error.message ++ ": " ++ error.message
  | config path error => "failed to load config " ++ path ++ ": " ++ error.message
  | input path error =>
    if Workspace.isDash path then "Device data unavailable: " ++ error.message
    else "Device data unavailable: " ++ path ++ ": " ++ error.message
  | attributes path error => "no usable eFuse data in " ++ path ++ ": " ++ error.message
  | profile error => error.message
  | output path error => "failed to write report " ++ path ++ ": " ++ error.message

/-- What a run reads: the texts of the configuration file, if one is named, and of the input. -/
structure Sources where
  config : Except FileError String
  input : Except FileError String
  now : Stamp

/-- A report in its two forms, and the exit status that goes with it. -/
structure Deliverable where
  document : String
  text : String
  status : Nat
  deriving DecidableEq, Repr

/-- The settings of a run. -/
def Options.settings (o : Options) (s : Sources) : Except Failure Settings :=
  match o.config with
  | none => .ok {}
  | some path =>
    match s.config with
    | .error e => .error (.configFile path e)
    | .ok text =>
      match Settings.ofToml text with
      | .error e => .error (.config path e)
      | .ok settings => .ok settings

/-- The fuses of a run. -/
def Options.attributes (o : Options) (s : Sources) : Except Failure FuseAttributes :=
  match s.input with
  | .error e => .error (.input o.input e)
  | .ok text =>
    match FuseAttributes.parse text with
    | .error e => .error (.attributes o.input e)
    | .ok attributes => .ok attributes

/-- The profile to check against; there is none when fuses are only listed. -/
def Options.profile? (o : Options) (settings : Settings) : Except Failure (Option Profile) :=
  let named (name : String) : Except Failure (Option Profile) :=
    match Profile.parse name with
    | .error e => .error (.profile e)
    | .ok profile => .ok (some profile)
  match o.task with
  | .list => .ok none
  | .verify profile => .ok (some profile)
  | .verifyNamed name => named name
  | .verifyDefault => named settings.verifier.defaultProfile

/-- The report of a run, or the first thing that is in its way: the configuration, then the input,
then the profile. -/
def Options.deliverable (o : Options) (s : Sources) : Except Failure Deliverable := do
  let settings ← o.settings s
  let attributes ← o.attributes s
  match ← o.profile? settings with
  | none =>
    let listing := Audit.list FuseRule.table attributes (some o.identity) s.now
    return ⟨listing.toJson.pretty, listing.render, 0⟩
  | some profile =>
    let report := Audit.verify FuseRule.table attributes profile (some o.identity) s.now
    return ⟨report.toJson.pretty, report.render, report.exitStatus⟩

/-- What a run leaves behind. -/
structure Outcome where
  status : Nat
  stdout : String := ""
  /-- The line on the error output. -/
  error : Option String := none
  /-- The command line was rejected. -/
  misused : Bool := false
  deriving DecidableEq, Repr

/-- The outcome of a run that gives no report. -/
def Outcome.failed (f : Failure) : Outcome where
  status := 2
  error := some ("error: " ++ f.message)

/-- The outcome of a run whose report was written where that was asked for. -/
def Options.printed (o : Options) (d : Deliverable) : Outcome where
  status := d.status
  stdout := if o.quiet then "" else if o.json then d.document ++ "\n" else d.text

/-- The outcome of a run, when `written` is what came of writing a document to a path. -/
def Options.outcome (o : Options) (s : Sources)
    (written : String → String → Except FileError Unit) : Outcome :=
  match o.deliverable s with
  | .error f => .failed f
  | .ok d =>
    match o.output with
    | none => o.printed d
    | some path =>
      match written path d.document with
      | .error e => .failed (.output path e)
      | .ok () => o.printed d

/-- What a run reads in a workspace. -/
def Options.sources (o : Options) (w : Workspace) (now : Stamp) : Sources where
  config := w.text (o.config.getD "")
  input := if Workspace.isDash o.input then textOf w.stdin else w.text o.input
  now := now

/-- The workspace after a run. -/
def Options.workspaceAfter (o : Options) (s : Sources) (w : Workspace) : Workspace :=
  match o.deliverable s, o.output with
  | .ok d, some path =>
    match w.write path d.document with
    | .ok w => w
    | .error _ => w
  | _, _ => w

/-- The outcome of a command line in a workspace, and the workspace after it. The text of the help
is left to the outer layer. -/
def runIn (w : Workspace) (now : Stamp) (arguments : List String) : Outcome × Workspace :=
  match request arguments with
  | .rejected => ({ status := 2, misused := true }, w)
  | .help => ({ status := 0 }, w)
  | .version => ({ status := 0, stdout := versionLine }, w)
  | .run o =>
    let s := o.sources w now
    (o.outcome s fun path document => (w.write path document).map fun _ => (), o.workspaceAfter s w)

end TamperWatch.FuseVerify
