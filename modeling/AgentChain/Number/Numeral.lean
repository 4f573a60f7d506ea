import AgentChain.Number.Whole

/-!
# Reading floats

A float is written as digits with a point among them and an exponent, or as a word for an infinity
or for what is not a number.

Main definition: `readFloat?`.
-/

namespace AgentChain.Number

open AgentChain.Text

/-- The decimal numeral `± digits * 10 ^ exponent`. -/
structure Numeral where
  negative : Bool
  digits : Nat
  exponent : Int
deriving DecidableEq, Repr

/-- The float nearest to a numeral. Numerals beyond all floats are infinite, and those below all of
them are zero. -/
def Numeral.toFloat (x : Numeral) : Float :=
  let size : Int := (toString x.digits).length + x.exponent
  let magnitude : Float :=
    if x.digits = 0 ∨ size < -330 then 0
    else if 330 < size then 1 / 0
    else Float.ofScientific x.digits (x.exponent < 0) x.exponent.natAbs
  if x.negative then -magnitude else magnitude

/-- A numeral without sign: digits, a point among them, and an exponent. -/
def readNumeral? (negative : Bool) (cs : List Char) : Option Numeral := do
  let (body, power) := splitFirst (fun c => c == 'e' || c == 'E') cs
  let (whole, fraction) := splitFirst (· == '.') body
  let fraction := fraction.getD []
  let ds ← digits? asciiDigit? (whole ++ fraction)
  let e ← match power with
    | none => some 0
    | some p =>
      let (down, es) := splitSign p
      (digits? asciiDigit? es).map fun es => signed down (ofDigits es)
  some ⟨negative, ofDigits ds, e - fraction.length⟩

/-- A float with nothing around it and without underscores. -/
def readPlainFloat? (cs : List Char) : Option Float :=
  let (negative, body) := splitSign cs
  let word := String.ofList (body.map Char.toLower)
  if word = "inf" ∨ word = "infinity" then some (if negative then -1 / 0 else 1 / 0)
  else if word = "nan" then some (0 / 0)
  else (readNumeral? negative body).map (·.toFloat)

/-- A float: with white space around it, or else with single underscores anywhere inside it. -/
def readFloat? (s : String) : Option Float :=
  (readPlainFloat? (trimBy isWhiteSpace s.toList)).or ((ungroup? s.toList).bind readPlainFloat?)

/-- The float nearest to a whole number, unless it lies beyond all floats. -/
def floatOfInt? (n : Int) : Option Float :=
  let x := Numeral.toFloat ⟨n < 0, n.natAbs, 0⟩
  if x.isInf then none else some x

end AgentChain.Number
