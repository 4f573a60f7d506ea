import AgentChain.Number.Binary64

/-!
# Fixed-point text

A float written with a fixed number of decimal places, rounded exactly: of two equally near decimals
the one with the even last digit is taken. The sign is kept even where all digits are zero.
-/

namespace AgentChain.Number

/-- `n / 10 ^ places` in decimal digits, with all the places written. -/
def placesText (places n : Nat) : String :=
  if places = 0 then toString n
  else
    let fraction := toString (n % Nat.pow 10 places)
    toString (n / Nat.pow 10 places) ++ "." ++ "".pushn '0' (places - fraction.length) ++ fraction

/-- A float with the given number of decimal places. -/
def fixedText (places : Nat) (x : Float) : String :=
  match Binary64.ofFloat x with
  | .nan => "nan"
  | .infinite negative => if negative then "-inf" else "inf"
  | .finite negative mantissa exponent =>
    (if negative then "-" else "") ++
      placesText places (Binary64.scaled mantissa exponent (Nat.pow 10 places))

end AgentChain.Number
