import AgentChain.Number.Rounding

/-!
# The exact value of a float

A float is not a number, an infinity, or a whole number times a power of two. What is computed from
the exact value is computed in whole numbers.
-/

namespace AgentChain.Number

/-- What a float stands for. The finite ones have the value `mantissa * 2 ^ exponent`, negated if
`negative`; zero keeps its sign. -/
inductive Binary64 where
  | nan
  | infinite (negative : Bool)
  | finite (negative : Bool) (mantissa : Nat) (exponent : Int)
deriving DecidableEq, Repr

/-- The value of a float, read off its bits: a sign, eleven bits of exponent, fifty-two of
fraction. -/
def Binary64.ofFloat (x : Float) : Binary64 :=
  let n := x.toBits.toNat
  let negative := Nat.pow 2 63 ≤ n
  let exponent : Nat := n / Nat.pow 2 52 % Nat.pow 2 11
  let fraction : Nat := n % Nat.pow 2 52
  if exponent = 2047 then
    if fraction = 0 then .infinite negative else .nan
  else if exponent = 0 then .finite negative fraction (-1074)
  else .finite negative (Nat.pow 2 52 + fraction) (exponent - 1075)

/-- The float is neither infinite nor not a number. -/
def Binary64.isFinite : Binary64 → Bool
  | .finite .. => true
  | _ => false

/-- A non-negative value `mantissa * 2 ^ exponent` times `scale`, as a quotient of whole numbers. -/
def Binary64.quotient (mantissa : Nat) (exponent : Int) (scale : Nat) : Nat × Nat :=
  if 0 ≤ exponent then (mantissa * Nat.pow 2 exponent.toNat * scale, 1)
  else (mantissa * scale, Nat.pow 2 (-exponent).toNat)

/-- The whole number nearest to `mantissa * 2 ^ exponent * scale`; a half goes to the even
neighbour. -/
def Binary64.scaled (mantissa : Nat) (exponent : Int) (scale : Nat) : Nat :=
  let q := quotient mantissa exponent scale
  roundHalfEven q.1 q.2

/-- The whole number that a float is equal to. -/
def Binary64.toInt? : Binary64 → Option Int
  | .finite negative mantissa exponent =>
    let q := quotient mantissa exponent 1
    if q.1 % q.2 = 0 then
      let n := q.1 / q.2
      some (if negative then -n else n)
    else none
  | _ => none

/-- The number fits into a machine word of sixty-four bits. -/
def fitsWord (n : Int) : Bool := -Int.pow 2 63 ≤ n && n < Int.pow 2 63

/-- The whole number that a float is equal to, if it lies strictly between the two ends of a machine
word. -/
def Binary64.toWord? (x : Binary64) : Option Int := x.toInt?.filter fun n => n.natAbs < Nat.pow 2 63

end AgentChain.Number
