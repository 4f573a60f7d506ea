import AgentChain.Number.Binary64

/-!
# Durations

Durations are rounded to whole milliseconds and shown in the largest units that suit them:
milliseconds below a second, seconds below a minute, and minutes with the seconds that remain.
-/

namespace AgentChain.Duration

/-- The milliseconds of a duration in seconds; a half goes to the even neighbour. Negative durations
and what is not a number count as zero, and an infinite duration has none. -/
def millis? (seconds : Float) : Option Nat :=
  let scaled := (if 0 < seconds then seconds else 0) * 1000
  match Number.Binary64.ofFloat scaled with
  | .finite _ mantissa exponent => some (Number.Binary64.scaled mantissa exponent 1)
  | _ => none

/-- The text of a duration in milliseconds. -/
def text (millis : Nat) : String :=
  if millis < 1000 then toString millis ++ "ms"
  else
    let seconds := millis / 1000
    if seconds < 60 then toString seconds ++ "s"
    else if seconds % 60 = 0 then toString (seconds / 60) ++ "m"
    else toString (seconds / 60) ++ "m " ++ toString (seconds % 60) ++ "s"

/-- The text of a duration in seconds, unless it is infinite. -/
def text? (seconds : Float) : Option String := (millis? seconds).map text

end AgentChain.Duration
