import TamperWatch.Text.Search

/-!
# Workspaces

The directory in which a tool runs, without subdirectories, and its standard input; where a path
leads; and what can go wrong with files. Outside of the directory nothing can be reached. Main
statement: what was written to a path is read from it (`bytes_put`).
-/

namespace TamperWatch

/-- Why a file cannot be used. -/
inductive FileError where
  | missing
  | isDirectory
  /-- Something is looked for below a file. -/
  | notADirectory
  | notUtf8
  /-- Anything else, in the words of the operating system. -/
  | other (text : String)
  deriving DecidableEq, Repr

def FileError.message : FileError → String
  | missing => "No such file or directory (os error 2)"
  | isDirectory => "Is a directory (os error 21)"
  | notADirectory => "Not a directory (os error 20)"
  | notUtf8 => "stream did not contain valid UTF-8"
  | other text => text

def textOf (bytes : ByteArray) : Except FileError String :=
  match String.fromUTF8? bytes with
  | some s => .ok s
  | none => .error .notUtf8

/-- A directory without subdirectories, and the standard input. -/
structure Workspace where
  files : List (String × ByteArray)
  stdin : ByteArray

/-- Where a path leads. -/
inductive Place where
  | directory
  /-- A file of the directory, or the place for one. -/
  | entry (name : String)
  deriving DecidableEq, Repr

namespace Workspace

/-- A part of a path that stays where it is. -/
def isStill (part : String) : Bool :=
  part = "" || part = "."

/-- The path stands for the standard input: it is a dash, and what follows the dash stays there. -/
def isDash (path : String) : Bool :=
  match Text.pieces '/' path with
  | first :: rest => first = "-" && rest.all isStill
  | [] => false

/-- Follows the parts of a path; `above` counts the steps that led out of the directory. -/
def follow (w : Workspace) (above : Nat) : List String → Except FileError Place
  | [] => .ok .directory
  | part :: rest =>
    if isStill part then w.follow above rest
    else if part = ".." then w.follow (above + 1) rest
    else if above ≠ 0 then .error .missing
    else if rest.isEmpty then .ok (.entry part)
    else if (w.files.lookup part).isSome then .error .notADirectory
    else .error .missing

/-- Where a path in parts leads; an empty part at its beginning is the root. -/
def locateParts (w : Workspace) : List String → Except FileError Place
  | "" :: part :: rest => w.follow 1 (part :: rest)
  | parts => w.follow 0 parts

/-- Where a path leads. The empty path leads nowhere. -/
def locate (w : Workspace) (path : String) : Except FileError Place :=
  if path = "" then .error .missing else w.locateParts (Text.pieces '/' path)

def bytes (w : Workspace) (path : String) : Except FileError ByteArray :=
  match w.locate path with
  | .error e => .error e
  | .ok .directory => .error .isDirectory
  | .ok (.entry name) =>
    match w.files.lookup name with
    | some content => .ok content
    | none => .error .missing

def text (w : Workspace) (path : String) : Except FileError String :=
  (w.bytes path).bind textOf

/-- The parts of a path without the empty ones at its end, except for the first. -/
def withoutLastSlashes : List String → List String
  | [] => []
  | first :: rest => first :: (rest.reverse.dropWhile (· = "")).reverse

/-- The workspace after bytes were written to a file. A path with slashes at its end names a
directory, even one that is not there. -/
def put (w : Workspace) (path : String) (content : ByteArray) : Except FileError Workspace :=
  if withoutLastSlashes (Text.pieces '/' path) = Text.pieces '/' path then
    match w.locate path with
    | .error e => .error e
    | .ok .directory => .error .isDirectory
    | .ok (.entry name) => .ok { w with files := (name, content) :: w.files }
  else
    match w.locateParts (withoutLastSlashes (Text.pieces '/' path)) with
    | .error e => .error e
    | .ok _ => .error .isDirectory

/-- The workspace after a text was written to a file. -/
def write (w : Workspace) (path content : String) : Except FileError Workspace :=
  w.put path content.toUTF8

/-- A path leads to the same entry whatever the files hold. -/
theorem follow_entry {w v : Workspace} {above : Nat} {parts : List String} {name : String}
    (h : w.follow above parts = .ok (.entry name)) : v.follow above parts = .ok (.entry name) := by
  induction parts generalizing above with
  | nil => simp [follow] at h
  | cons part rest ih =>
    by_cases still : isStill part
    · simp only [follow, if_pos still] at h ⊢
      exact ih h
    by_cases up : part = ".."
    · simp only [follow, if_neg still, if_pos up] at h ⊢
      exact ih h
    by_cases outside : above ≠ 0
    · simp [follow, still, up, outside] at h
    by_cases last : rest.isEmpty
    · simp only [follow, if_neg still, if_neg up, if_neg outside, if_pos last] at h ⊢
      exact h
    · simp only [follow, if_neg still, if_neg up, if_neg outside, if_neg last] at h
      split at h <;> simp at h

/-- A path whose parts lead to an entry leads to it in every directory. -/
theorem locateParts_entry {w v : Workspace} {parts : List String} {name : String}
    (h : w.locateParts parts = .ok (.entry name)) : v.locateParts parts = .ok (.entry name) := by
  unfold locateParts at h ⊢
  split at h
  all_goals exact follow_entry h

/-- A path that leads to an entry leads to it in every directory. -/
theorem locate_entry {w v : Workspace} {path name : String}
    (h : w.locate path = .ok (.entry name)) : v.locate path = .ok (.entry name) := by
  unfold locate at h ⊢
  split at h
  · simp at h
  · rename_i nonempty
    rw [if_neg nonempty]
    exact locateParts_entry h

/-- What was just put at a path is what is read there. -/
theorem bytes_put {w v : Workspace} {path : String} {content : ByteArray}
    (h : w.put path content = .ok v) : v.bytes path = .ok content := by
  unfold put at h
  split at h
  · split at h
    · simp at h
    · simp at h
    · rename_i name located
      obtain rfl := Except.ok.inj h
      have : locate ⟨(name, content) :: w.files, w.stdin⟩ path = .ok (.entry name) :=
        locate_entry located
      simp [bytes, this]
  · split at h <;> simp at h

example : isDash "-//." = true := by decide
example : isDash "./-" = false := by decide
example : locate ⟨[], ByteArray.empty⟩ ".///./f" = .ok (.entry "f") := by rfl
example : locate ⟨[], ByteArray.empty⟩ "no/../f" = .error .missing := by rfl
example : locate ⟨[("f", ByteArray.empty)], ByteArray.empty⟩ "f/" = .error .notADirectory := by rfl

end Workspace

end TamperWatch
