import TamperWatch.Command.Arguments
import TamperWatch.Command.Workspace
import TamperWatch.Settings.Document
import TamperWatch.Telemetry.Replay

/-!
# The replay tool's command line

Replays a recording and prints one record a line. The exit status is 0, or 1 if the configuration or
the recording cannot be read; a recording that is not UTF-8 is replayed up to the line that is not.
-/

namespace TamperWatch.TelemetryReplay

open Arguments

/-- The name and the version of the tool. -/
def versionText : String := "canary-replay 0.2.0"

structure Options where
  /-- The file with the recording, instead of the standard input. -/
  input : Option String
  config : Option String
  /-- The root of the topics, instead of that of the settings. -/
  root : Option String
  /-- Print the stored signals after the replay. -/
  summary : Bool
  verbose : Bool
  deriving DecidableEq, Repr

/-- The options that the tool knows. -/
def known : List Known :=
  [⟨"input", some 'i', .path⟩, ⟨"config", some 'c', .path⟩, ⟨"prefix", none, .text⟩,
   ⟨"summary", none, .flag⟩, ⟨"verbose", some 'v', .flag⟩]

/-- The options that are given. -/
def ofGiven (given : Given) : Options where
  input := given.lookup "input"
  config := given.lookup "config"
  root := given.lookup "prefix"
  summary := given.has "summary"
  verbose := given.has "verbose"

/-- What a command line asks for. -/
def request (arguments : List String) : Request Options :=
  match read known arguments with
  | .rejected => .rejected
  | .help => .help
  | .version => .version
  | .run given => .run (ofGiven given)

/-- The settings of a run, when `config` is the text of the configuration file. -/
def Options.settings? (o : Options) (config : Except FileError String) : Option Settings :=
  match o.config, config with
  | none, _ => some {}
  | some _, .ok text => (Settings.ofToml text).toOption
  | some _, .error _ => none

/-- The engine of a run. -/
def Options.engine (o : Options) (settings : Settings) : Engine :=
  match o.root with
  | some root => (Engine.ofSettings settings.telemetry).withRoot root
  | none => .ofSettings settings.telemetry

/-- What a run prints last, when its engine got through the recording. -/
def Options.lastLines (o : Options) (e : Engine) : List Json :=
  if o.summary then e.summary else []

inductive Line where
  | json (v : Json)
  | text (s : String)

def Line.render : Line → String
  | json v => v.compact
  | text s => s

/-- What a run leaves behind. -/
structure Outcome where
  status : Nat
  lines : List Line := []
  /-- The command line was rejected. -/
  misused : Bool := false

/-- Replays the lines of a recording, in any monad, and gives the exit status. Each record is printed
as soon as it is made; what is printed last is left out if a line cannot be read. -/
def Options.play {m : Type → Type} [Monad m] {α : Type} (o : Options) (e : Engine)
    (reach : α → m (Option TimedLine)) (print : Line → m Unit) (lines : List α) : m Nat := do
  match ← e.replayWith reach (fun r => print (.json r.toJson)) 1 lines with
  | none => return 1
  | some e =>
    forM ((o.lastLines e).map Line.json) print
    return 0

/-- The outcome of replaying lines that are given with their times; one that is not UTF-8 has no
text. -/
def Options.outcome (o : Options) (e : Engine) (lines : List (Option TimedLine)) : Outcome :=
  let print (line : Line) : StateM (Array Line) Unit := modify (·.push line)
  let (status, printed) := (o.play e pure print lines).run #[]
  { status, lines := printed.toList }

/-- The lines of a recording, each with the time at which its number is reached. -/
def timed (clock : Nat → Moment) (texts : List (Option String)) : List (Option TimedLine) :=
  (texts.zipIdx 1).map fun (text, number) => text.map (⟨·, clock number⟩)

/-- The bytes of the recording of a run. -/
def Options.recording (o : Options) (w : Workspace) : Except FileError ByteArray :=
  o.input.elim (.ok w.stdin) w.bytes

/-- The outcome of a command line in a workspace, when the clock shows these times at the lines of
the recording. The text of the help is left to the outer layer. -/
def runAt (w : Workspace) (clock : Nat → Moment) (arguments : List String) : Outcome :=
  match request arguments with
  | .rejected => { status := 2, misused := true }
  | .help => { status := 0 }
  | .version => { status := 0, lines := [.text versionText] }
  | .run o =>
    match o.settings? (w.text (o.config.getD "")) with
    | none => { status := 1 }
    | some settings =>
      match o.recording w with
      | .error _ => { status := 1 }
      | .ok bytes => o.outcome (o.engine settings) (timed clock (lineTexts bytes))

/-- The outcome of a command line in a workspace, all at one time. -/
def runIn (w : Workspace) (now : Moment) (arguments : List String) : Outcome :=
  runAt w (fun _ => now) arguments

end TamperWatch.TelemetryReplay
