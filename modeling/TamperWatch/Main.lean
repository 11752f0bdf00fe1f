import Std.Time.DateTime.Timestamp
import TamperWatch.Command.FuseVerify
import TamperWatch.Command.TelemetryReplay

/-!
# The command line

Runs one of the two tools, named by the first argument, on the files and the clock of the system.
-/

namespace TamperWatch.Main

/-- The time now, in milliseconds since 1970. -/
def nowMillis : IO Int := do
  return (← Std.Time.Timestamp.now).toMillisecondsSinceUnixEpoch.val

/-- Why the system refused a file. The number of an error may come with either sign. -/
def fileError : IO.Error → FileError
  | .noFileOrDirectory .. => .missing
  | .inappropriateType _ code _ =>
    if code = 21 ∨ code = -21 then .isDirectory else .notADirectory
  | e => .other (toString e)

def readFile (path : String) : IO (Except FileError ByteArray) := do
  try
    return .ok (← IO.FS.readBinFile path)
  catch e =>
    return .error (fileError e)

def readStdin : IO ByteArray := do
  let stdin ← IO.getStdin
  let mut bytes := ByteArray.empty
  repeat
    let chunk ← stdin.read 65536
    if chunk.isEmpty then break
    bytes := bytes ++ chunk
  return bytes

def writeFile (path text : String) : IO (Except FileError Unit) := do
  try
    IO.FS.writeFile path text
    return .ok ()
  catch e =>
    return .error (fileError e)

/-- What is printed when a command line breaks the rules or asks for help. -/
def usage : String :=
  "usage: tamper-watch efuse-verify --input FILE [options]\n" ++
    "       tamper-watch canary-replay [options]\n"

/-- Prints what a run of the fuse verifier leaves behind. -/
def report (outcome : FuseVerify.Outcome) : IO UInt32 := do
  IO.print outcome.stdout
  if let some line := outcome.error then IO.eprintln line
  return outcome.status.toUInt32

def verifyFuses (o : FuseVerify.Options) : IO UInt32 := do
  let config ← match o.config with
    | some path => readFile path
    | none => pure (.ok ByteArray.empty)
  let input ← if Workspace.isDash o.input then .ok <$> readStdin else readFile o.input
  let sources : FuseVerify.Sources :=
    { config := config.bind textOf, input := input.bind textOf, now := ⟨← nowMillis⟩ }
  match o.deliverable sources, o.output with
  | .ok d, some path =>
    let written ← writeFile path d.document
    report (o.outcome sources fun _ _ => written)
  | _, _ => report (o.outcome sources fun _ _ => .ok ())

/-- A line of a recording at the time at which it is reached, if it is UTF-8. -/
def reachLine (text? : Option String) : IO (Option TimedLine) := do
  let now ← nowMillis
  return text?.map (⟨·, now.toNat⟩)

def printLine (line : TelemetryReplay.Line) : IO Unit :=
  IO.println line.render

def replay (o : TelemetryReplay.Options) : IO UInt32 := do
  let config ← match o.config with
    | some path => readFile path
    | none => pure (.ok ByteArray.empty)
  let some settings := o.settings? (config.bind textOf)
    | IO.eprintln "error: failed to load config"
      return 1
  let recording ← match o.input with
    | some path => readFile path
    | none => .ok <$> readStdin
  match recording with
  | .error e =>
    IO.eprintln ("error: failed to open " ++ o.input.getD "-" ++ ": " ++ e.message)
    return 1
  | .ok bytes =>
    let status ← o.play (o.engine settings) reachLine printLine (lineTexts bytes)
    if status ≠ 0 then
      IO.eprintln ("error: failed to read input: " ++ FileError.notUtf8.message)
    return status.toUInt32

/-- Prints the usage of the tools where it was asked for. -/
def help : IO UInt32 := do
  IO.print usage
  return 0

/-- Prints the usage of the tools where it was not followed. -/
def misuse : IO UInt32 := do
  IO.eprint usage
  return 2

end TamperWatch.Main

open TamperWatch TamperWatch.Main

/-- Runs the tool that the first argument names. -/
def main (arguments : List String) : IO UInt32 :=
  match arguments with
  | "efuse-verify" :: arguments =>
    match FuseVerify.request arguments with
    | .run o => verifyFuses o
    | .version => do
      IO.print FuseVerify.versionLine
      return 0
    | .help => help
    | .rejected => misuse
  | "canary-replay" :: arguments =>
    match TelemetryReplay.request arguments with
    | .run o => replay o
    | .version => do
      IO.println TelemetryReplay.versionText
      return 0
    | .help => help
    | .rejected => misuse
  | _ => misuse
