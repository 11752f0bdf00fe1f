/-!
# Shortest decimals of doubles

The exact magnitude of a double, and the decimal with the fewest digits that reads back as that
double. The doubles next to a double bound the interval of the numbers that round to it; on each
grid of decimals with one exponent only the two neighbours of the exact value need to be tried, and
the coarsest grid that has a neighbour in the interval gives the fewest digits.
-/

namespace TamperWatch

/-- A non-negative decimal number: `digits · 10 ^ exponent`. -/
structure Decimal where
  digits : Nat
  exponent : Int
  deriving DecidableEq, Repr

/-- How to choose between two decimals at the same distance from a double. -/
inductive Tie where
  | toEven
  | up
  deriving DecidableEq, Repr

/-- The exact magnitude of a finite double: `significand · 2 ^ exponent`. -/
structure Magnitude where
  significand : Nat
  exponent : Int
  /-- The double below is only half as far away as the double above. -/
  belowIsCloser : Bool
  deriving DecidableEq, Repr

namespace Magnitude

def isNegative (x : Float) : Bool :=
  Nat.pow 2 63 ≤ x.toBits.toNat

/-- The magnitude of a finite double, from its exponent and fraction bits. -/
def ofFloat (x : Float) : Magnitude :=
  let bits := x.toBits.toNat
  let fraction : Nat := bits % Nat.pow 2 52
  let field : Nat := bits / Nat.pow 2 52 % Nat.pow 2 11
  if field = 0 then ⟨fraction, -1074, false⟩
  else ⟨fraction + Nat.pow 2 52, (field : Int) - 1075, fraction == 0 && field != 1⟩

/-- The numerator of `quarters · 2 ^ (exponent - 2) / 10 ^ grid`. -/
def numerator (m : Magnitude) (grid : Int) (quarters : Nat) : Nat :=
  quarters * Nat.pow 2 (m.exponent - 2).toNat * Nat.pow 10 (-grid).toNat

/-- The denominator that goes with `numerator`. -/
def denominator (m : Magnitude) (grid : Int) : Nat :=
  Nat.pow 2 (2 - m.exponent).toNat * Nat.pow 10 grid.toNat

/-- The decimal `count · 10 ^ grid` rounds to the double; the ends of the interval do so exactly if
the significand is even. -/
def roundsFrom (m : Magnitude) (grid : Int) (count : Nat) : Bool :=
  let low := m.numerator grid (4 * m.significand - (if m.belowIsCloser then 1 else 2))
  let high := m.numerator grid (4 * m.significand + 2)
  let point := count * m.denominator grid
  if m.significand % 2 = 0 then low ≤ point && point ≤ high else low < point && point < high

/-- The nearest decimal of a grid that rounds to the double, if one does. -/
def onGrid? (tie : Tie) (m : Magnitude) (grid : Int) : Option Nat :=
  let exact := m.numerator grid (4 * m.significand)
  let unit := m.denominator grid
  let below := exact / unit
  match m.roundsFrom grid below, m.roundsFrom grid (below + 1) with
  | false, false => none
  | true, false => some below
  | false, true => some (below + 1)
  | true, true =>
    match compare (2 * (exact % unit)) unit with
    | .lt => some below
    | .gt => some (below + 1)
    | .eq =>
      match tie with
      | .toEven => some (below + below % 2)
      | .up => some (below + 1)

/-- Tries ever finer grids from `grid` on. -/
def search (tie : Tie) (m : Magnitude) : Nat → Int → Decimal
  | 0, grid => ⟨m.numerator grid (4 * m.significand) / m.denominator grid, grid⟩
  | tries + 1, grid =>
    match m.onGrid? tie grid with
    | some digits => ⟨digits, grid⟩
    | none => search tie m tries (grid - 1)

/-- A power of ten above the magnitude. -/
def firstGrid (m : Magnitude) : Int :=
  ((m.significand.log2 : Int) + 1 + m.exponent) * 30103 / 100000 + 2

end Magnitude

/-- The decimal with the fewest digits that reads back as the magnitude of a finite double.
Seventeen digits always suffice. -/
def Decimal.shortest (tie : Tie) (x : Float) : Decimal :=
  let m := Magnitude.ofFloat x
  if m.significand = 0 then ⟨0, 0⟩ else m.search tie 24 m.firstGrid

example : Decimal.shortest .toEven 0.1 = ⟨1, -1⟩ := by decide +kernel
example : Decimal.shortest .toEven 5e-324 = ⟨5, -324⟩ := by decide +kernel
example : Decimal.shortest .toEven 1125899906842624.25 = ⟨11258999068426242, -1⟩ := by
  decide +kernel
example : Decimal.shortest .up 1125899906842624.25 = ⟨11258999068426243, -1⟩ := by decide +kernel

end TamperWatch
