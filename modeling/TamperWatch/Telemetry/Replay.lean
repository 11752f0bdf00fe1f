import TamperWatch.Telemetry.Event

/-!
# Replays

Running a recording, one event a line, through the engine. Each line that is not blank gives one
record, either what came of its event or why it was rejected; a rejected line changes nothing.
-/

namespace TamperWatch

/-- Why a line was rejected. -/
inductive Rejection where
  | malformed
  | unroutable (error : RoutingError)
  deriving DecidableEq, Repr

def Rejection.message : Rejection → String
  | malformed => "<malformed event>"
  | unroutable error => error.message

/-- What came of one line. -/
inductive Record where
  | handled (d : Dispatch)
  /-- The line was rejected; lines are counted from one, blank ones too. -/
  | rejected (line : Nat) (reason : Rejection)

def Record.toJson : Record → Json
  | handled d => d.toJson
  | rejected line reason => .object [("error", .string reason.message), ("line", .int line)]

/-- A line of a recording, and when it is replayed. -/
structure TimedLine where
  text : String
  time : Moment
  deriving DecidableEq, Repr

/-- A line that holds blanks only. -/
def TimedLine.isBlank (l : TimedLine) : Bool :=
  Text.trim l.text = ""

namespace Engine

/-- Handles the line with a number: a record unless the line is blank, and the engine after it. -/
def handleLine (e : Engine) (number : Nat) (l : TimedLine) : Option Record × Engine :=
  if l.isBlank then (none, e)
  else
    match Event.parse l.text with
    | none => (some (.rejected number .malformed), e)
    | some event =>
      match e.handleEvent event l.time with
      | (.ok d, e) => (some (.handled d), e)
      | (.error error, e) => (some (.rejected number (.unroutable error)), e)

/-- Handles lines from a number on, in any monad. A line is reached when those before it are done
with, and then `reach` tells its text and its time, or else that it cannot be read, which ends the
replay. A record is given out as soon as it is made. -/
def replayWith {m : Type → Type} [Monad m] {α : Type} (e : Engine)
    (reach : α → m (Option TimedLine)) (give : Record → m Unit) (number : Nat) :
    List α → m (Option Engine)
  | [] => return some e
  | a :: as => do
    match ← reach a with
    | none => return none
    | some l =>
      let (record, e) := e.handleLine number l
      forM record.toList give
      e.replayWith reach give (number + 1) as

/-- Every stored signal, a JSON object for each device, and the counts. -/
def summary (e : Engine) : List Json :=
  e.seen.deviceNames.map (fun device => .object
    [("device_id", .string device),
     ("signals", .array ((e.store.snapshot device).map Signal.toJson))]) ++
    [e.diagnostics.toJson]

end Engine

/-- The lines of a recording in bytes. A line feed ends a line and takes a carriage return before it
with it; what follows the last line feed is a line unless it is empty. -/
def lineBytes (bytes : List UInt8) : List (List UInt8) :=
  let pieces := bytes.splitOn 10
  let ended := pieces.dropLast.map fun line =>
    if line.getLast? = some 13 then line.dropLast else line
  ended ++ pieces.getLast?.toList.filter (!·.isEmpty)

/-- The lines of a recording as texts; a line that is not UTF-8 has none. -/
def lineTexts (bytes : ByteArray) : List (Option String) :=
  (lineBytes bytes.toList).map fun line => String.fromUTF8? ⟨line.toArray⟩

end TamperWatch
