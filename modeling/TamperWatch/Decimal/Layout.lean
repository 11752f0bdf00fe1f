import TamperWatch.Decimal.Shortest

/-!
# Layouts of decimal texts

How the shortest decimal of a double is written down: positionally or in scientific notation, with
or without a mark on whole numbers.
-/

namespace TamperWatch.Decimal

/-- The choices a format makes when it writes a double. -/
structure Layout where
  /-- The decimal exponents that are written positionally. -/
  positional : Int → Bool
  /-- What follows a whole number written positionally. -/
  wholeMark : String
  /-- Which of two equally near decimals is written. -/
  tie : Tie

/-- The power of ten of the first digit. -/
def leadingExponent (d : Decimal) : Int :=
  ((toString d.digits).length : Int) + d.exponent - 1

/-- Digits around a decimal point, without an exponent. -/
def positionalText (wholeMark : String) (d : Decimal) : String :=
  let digits := (toString d.digits).toList
  let whole := (digits.length : Int) + d.exponent
  let text :=
    if 0 ≤ d.exponent then
      digits ++ List.replicate d.exponent.toNat '0' ++ wholeMark.toList
    else if 0 < whole then
      digits.take whole.toNat ++ '.' :: digits.drop whole.toNat
    else
      '0' :: '.' :: List.replicate (-whole).toNat '0' ++ digits
  String.ofList text

/-- One digit before the point, and a signed exponent. -/
def scientificText (d : Decimal) : String :=
  let mantissa := match (toString d.digits).toList with
    | [] => []
    | [c] => [c]
    | c :: rest => c :: '.' :: rest
  let exponent := leadingExponent d
  let mark := if exponent < 0 then "e-" else "e+"
  String.ofList mantissa ++ mark ++ toString exponent.natAbs

/-- The text of a double in a layout. -/
def Layout.write (layout : Layout) (x : Float) : String :=
  let sign := if Magnitude.isNegative x then "-" else ""
  if x.isNaN then "NaN"
  else if x.isInf then sign ++ "inf"
  else
    let d := shortest layout.tie x
    if layout.positional (leadingExponent d) then sign ++ positionalText layout.wholeMark d
    else sign ++ scientificText d

/-- Every number positionally, whole ones without a mark, a half rounded up. -/
def Layout.plain : Layout := ⟨fun _ => true, "", .up⟩

example : Layout.plain.write 1e3 = "1000" := by decide +kernel
example : Layout.plain.write (-0.5) = "-0.5" := by decide +kernel
example : Layout.plain.write 1e-7 = "0.0000001" := by decide +kernel

end TamperWatch.Decimal
