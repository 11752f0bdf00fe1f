import TamperWatch.Fuse.Value

/-!
# Expectations

What a rule expects of a fuse in each of the two security profiles: a literal value, or a property
with a short description. Main statements: which names are those of a profile
(`Profile.parse_eq_ok_iff`) and which are refused (`Profile.parse_eq_error_iff`).
-/

namespace TamperWatch

/-- The two security profiles of a device. -/
inductive Profile where
  /-- Fresh from the factory: nothing burned, no key assigned. -/
  | virgin
  /-- Provisioned: every lockdown feature burned. -/
  | locked
  deriving DecidableEq, Repr

/-- A profile with an unknown name, trimmed and in lower case. -/
structure UnknownProfile where
  name : String
  deriving DecidableEq, Repr

def UnknownProfile.message (e : UnknownProfile) : String :=
  "Unknown verification mode: " ++ e.name ++ " (expected 'virgin' or 'locked')"

namespace Profile

def name : Profile → String
  | virgin => "virgin"
  | locked => "locked"

/-- The names under which a profile is known, in lower case. -/
def names : Profile → List String
  | virgin => ["virgin"]
  | locked => ["locked", "post_provision", "post-provision"]

/-- The profile with a name, in any letter case and with blanks around it. -/
def parse (s : String) : Except UnknownProfile Profile :=
  let word := (Text.trim s).toLower
  if word = "virgin" then .ok virgin
  else if word = "locked" ∨ word = "post_provision" ∨ word = "post-provision" then .ok locked
  else .error ⟨word⟩

/-- A name is that of a profile exactly if the profile is known under it, letter case and the blanks
around it apart. -/
theorem parse_eq_ok_iff {s : String} {p : Profile} :
    parse s = .ok p ↔ (Text.trim s).toLower ∈ p.names := by
  unfold parse
  cases p <;> grind [names]

/-- A name is refused, and told in lower case without the blanks around it, exactly if no profile is
known under it. -/
theorem parse_eq_error_iff {s : String} {e : UnknownProfile} :
    parse s = .error e ↔
      e = ⟨(Text.trim s).toLower⟩ ∧ ∀ p : Profile, (Text.trim s).toLower ∉ p.names := by
  unfold parse
  constructor
  · intro h
    refine ⟨by grind, fun p => ?_⟩
    cases p <;> grind [names]
  · rintro ⟨rfl, hunknown⟩
    have hvirgin := hunknown virgin
    have hlocked := hunknown locked
    grind [names]

example : (parse " Post-Provision\n").toOption = some locked := by decide +kernel

end Profile

inductive Literal where
  | int (n : Int)
  | text (s : String)
  deriving DecidableEq, Repr

namespace Literal

/-- The value that was read is the literal one. -/
def accepts : Literal → FuseValue → Bool
  | int n, .int m => n == m
  | text s, .text t => s == t
  | _, _ => false

def display : Literal → String
  | int n => toString n
  | text s => s

def toJson : Literal → Json
  | int n => .int n
  | text s => .string s

end Literal

/-- What a rule expects. -/
inductive Expectation where
  | literal (l : Literal)
  /-- A property with the description that reports show in place of a value. -/
  | property (tag : String) (test : FuseValue → Bool)

namespace Expectation

/-- The value that was read is as expected. -/
def accepts : Expectation → FuseValue → Bool
  | literal l, v => l.accepts v
  | property _ test, v => test v

/-- The literal that is expected, if it is one. -/
def literal? : Expectation → Option Literal
  | literal l => some l
  | property _ _ => none

def display : Expectation → String
  | literal l => l.display
  | property tag _ => "<" ++ tag ++ ">"

def toJson : Expectation → Json
  | literal l => l.toJson
  | property tag test => .string (property tag test).display

end Expectation

end TamperWatch
