import TamperWatch.Json.Path
import TamperWatch.Json.View

/-!
# Conditions

Truth tests on the members of a payload. A field is looked for at several paths, and the first path
that is present counts, even if its value is null or false.
-/

namespace TamperWatch

/-- One logical field and the dotted paths at which it may stand. -/
structure Field where
  paths : List String
  deriving DecidableEq, Repr

namespace Field

def one (path : String) : Field := ⟨[path]⟩

/-- The value of the first path that is present. -/
def find? (f : Field) (o : Json.Members) : Option Json :=
  f.paths.findSome? (Json.atPath? o)

end Field

/-- A truth test on a payload. -/
inductive Condition where
  /-- Holds of every payload. -/
  | always
  /-- The field is true; `ifMissing` decides where it is absent. -/
  | truthy (field : Field) (ifMissing : Bool)
  /-- The field is true, or an object with a true member. -/
  | asserted (field : Field)
  /-- The field is present and false. -/
  | presentFalsy (field : Field)
  /-- The field is a number above a bound. -/
  | moreThan (field : Field) (bound : Float)
  /-- The field is a number below a bound. -/
  | lessThan (field : Field) (bound : Float)
  /-- The field is one of the tokens, in any letter case. -/
  | oneOf (field : Field) (tokens : List String)
  | any (conditions : List Condition)
  | all (conditions : List Condition)

namespace Condition

/-- The field is one token, in any letter case. -/
def equals (field : Field) (token : String) : Condition :=
  .oneOf field [token.toLower]

/-- The value itself, or some member of it, is true. -/
def assertsSomething : Json → Bool
  | .object flags => flags.any fun m => m.2.isTruthy
  | v => v.isTruthy

mutual

/-- The condition holds of a payload. -/
def holds : Condition → Json.Members → Bool
  | always, _ => true
  | truthy field ifMissing, o => ((field.find? o).map Json.isTruthy).getD ifMissing
  | asserted field, o => (field.find? o).any assertsSomething
  | presentFalsy field, o => (field.find? o).any (!·.isTruthy)
  | moreThan field bound, o => ((field.find? o).bind Json.asNumber?).any fun x => decide (bound < x)
  | lessThan field bound, o => ((field.find? o).bind Json.asNumber?).any fun x => decide (x < bound)
  | oneOf field tokens, o => ((field.find? o).bind Json.asToken?).any tokens.contains
  | any conditions, o => someHolds conditions o
  | all conditions, o => everyHolds conditions o

/-- At least one of the conditions holds. -/
def someHolds : List Condition → Json.Members → Bool
  | [], _ => false
  | c :: cs, o => c.holds o || someHolds cs o

/-- Each of the conditions holds. -/
def everyHolds : List Condition → Json.Members → Bool
  | [], _ => true
  | c :: cs, o => c.holds o && everyHolds cs o

end

/-- Some condition of a list holds as the list says. -/
@[simp] theorem someHolds_eq_any (cs : List Condition) (o : Json.Members) :
    someHolds cs o = cs.any (·.holds o) := by
  induction cs with
  | nil => rfl
  | cons c cs ih => simp [someHolds, ih]

/-- Every condition of a list holds as the list says. -/
@[simp] theorem everyHolds_eq_all (cs : List Condition) (o : Json.Members) :
    everyHolds cs o = cs.all (·.holds o) := by
  induction cs with
  | nil => rfl
  | cons c cs ih => simp [everyHolds, ih]

end Condition

end TamperWatch
