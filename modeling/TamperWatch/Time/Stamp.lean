import Std.Time.Date.PlainDate

/-!
# Time stamps

Points in time as milliseconds since 1970, and their text `YYYY-MM-DDTHH:MM:SS.mmm` in universal
time. The milliseconds are left out when they are zero. A year outside of 0 to 9999 has a sign.
-/

namespace TamperWatch

/-- A point in time within the years that have a text. -/
structure Stamp where
  /-- Milliseconds since the beginning of 1970. -/
  millis : Int
  deriving DecidableEq, Repr

namespace Stamp

/-- The first millisecond of the year -262143. -/
def least : Int := -8334601228800000

/-- The last millisecond of the year 262142. -/
def greatest : Int := 8210266876799999

/-- The stamp of a number of milliseconds, if its year has a text. -/
def ofMillis? (millis : Int) : Option Stamp :=
  if least ≤ millis ∧ millis ≤ greatest then some ⟨millis⟩ else none

/-- The digits of a number, with zeros in front up to a width. -/
def padded (width : Nat) (n : Nat) : String :=
  let digits := (toString n).toList
  String.ofList (List.replicate (width - digits.length) '0' ++ digits)

/-- The text of a year. -/
def yearText (year : Int) : String :=
  if year < 0 then "-" ++ padded 4 year.natAbs
  else if year ≤ 9999 then padded 4 year.natAbs
  else "+" ++ padded 4 year.natAbs

/-- The text of a stamp, followed by the mark of its time zone. -/
def render (zone : String) (t : Stamp) : String :=
  let date := Std.Time.PlainDate.ofEpochDay ⟨t.millis.fdiv 86400000⟩
  let ofDay := (t.millis.fmod 86400000).toNat
  let fraction := if ofDay % 1000 = 0 then "" else "." ++ padded 3 (ofDay % 1000)
  yearText date.year.toInt ++ "-" ++ padded 2 date.month.val.natAbs ++ "-" ++
    padded 2 date.day.val.natAbs ++ "T" ++ padded 2 (ofDay / 3600000) ++ ":" ++
    padded 2 (ofDay / 60000 % 60) ++ ":" ++ padded 2 (ofDay / 1000 % 60) ++ fraction ++ zone

end Stamp

end TamperWatch
