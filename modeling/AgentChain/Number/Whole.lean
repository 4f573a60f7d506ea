import AgentChain.Text.Blank
import AgentChain.Text.Digit

/-!
# Reading whole numbers

A whole number in plain notation is an optional minus sign and digits, without zeros at the start.
Text that is not in plain notation is read in a lenient one, which is brought into plain notation
first: what may be dropped is dropped, and what remains has to be plain.

Main definitions: `readPlain?` for plain notation, `readWhole` for lenient notation, and
`readDigits?` for a whole number in the decimal digits of any script.
-/

namespace AgentChain.Number

open AgentChain.Text

/-- The number with the given decimal digits. -/
def ofDigits (ds : List Nat) : Nat := ds.foldl (fun n d => 10 * n + d) 0

/-- The number `n`, negated if `negative`. -/
def signed (negative : Bool) (n : Nat) : Int := if negative then -n else n

/-- An optional minus sign, and the text after it. -/
def splitMinus : List Char → Bool × List Char
  | '-' :: cs => (true, cs)
  | cs => (false, cs)

/-- An optional sign of either kind, and the text after it. -/
def splitSign : List Char → Bool × List Char
  | '-' :: cs => (true, cs)
  | '+' :: cs => (false, cs)
  | cs => (false, cs)

/-- The text before the first character of the class `p`, and the text after it if there is one. -/
def splitFirst (p : Char → Bool) (cs : List Char) : List Char × Option (List Char) :=
  match cs.dropWhile (!p ·) with
  | [] => (cs, none)
  | _ :: rest => (cs.takeWhile (!p ·), some rest)

/-- The values of a text that consists of one digit or more. -/
def digits? (digit? : Char → Option Nat) (cs : List Char) : Option (List Nat) :=
  if cs.isEmpty then none else cs.mapM digit?

/-- The character stands twice in a row somewhere. -/
def isDoubled (c : Char) : List Char → Bool
  | a :: b :: cs => (a == c && b == c) || isDoubled c (b :: cs)
  | _ => false

/-- The text without its underscores, unless one of them stands at an end of the text or two of them
stand together. -/
def ungroup? (cs : List Char) : Option (List Char) :=
  if cs.head? = some '_' ∨ cs.getLast? = some '_' ∨ isDoubled '_' cs then none
  else some (cs.filter (· != '_'))

/-- The most digits that a whole number may have. -/
def maxDigits : Nat := 4300

/-! ## Plain notation -/

/-- A whole number in plain notation. -/
def readPlain? (cs : List Char) : Option Int :=
  let (negative, body) := splitMinus cs
  match digits? asciiDigit? body with
  | none => none
  | some ds =>
    if (ds.head? = some 0 ∧ 1 < ds.length) ∨ maxDigits < ds.length then none
    else some (signed negative (ofDigits ds))

/-- The text starts like a whole number in plain notation, but with too many digits. -/
def startsTooLong (cs : List Char) : Bool :=
  let ds := (splitMinus cs).2.takeWhile fun c => (asciiDigit? c).isSome
  ds.head? ≠ some '0' && maxDigits < ds.length

/-! ## Lenient notation -/

/-- The character can start a number that has no zeros at its start. -/
def startsNumber (c : Char) : Bool := c == '-' || '1' ≤ c && c ≤ '9'

/-- Drops zeros and underscores that follow a zero at the start, up to where a number starts. The
character `before` the text is kept where a point or nothing follows. -/
def dropZerosAfter (before : Char) : List Char → Option (List Char)
  | [] => some [before]
  | c :: cs =>
    if c = '0' ∨ c = '_' then dropZerosAfter c cs
    else if c = '.' then some (before :: c :: cs)
    else if startsNumber c then some (c :: cs)
    else none

/-- Drops the zeros at the start of the text. -/
def dropLeadingZeros? : List Char → Option (List Char)
  | [] => none
  | c :: cs =>
    if c = '0' then dropZerosAfter c cs
    else if startsNumber c then some (c :: cs)
    else none

/-- Drops the zeros at the start of a number, which follow its minus sign if it has one. -/
def dropZeros? : List Char → Option (List Char)
  | '-' :: cs => (dropLeadingZeros? cs).map ('-' :: ·)
  | cs => dropLeadingZeros? cs

/-- Drops a fraction that consists of one zero or more. -/
def dropFraction (cs : List Char) : List Char :=
  match splitFirst (· == '.') cs with
  | (whole, some (c :: rest)) => if (c :: rest).all (· == '0') then whole else cs
  | _ => cs

/-- Drops a plus sign, after which there may be no minus sign. -/
def dropPlus? : List Char → Option (List Char)
  | '+' :: '-' :: _ => none
  | '+' :: cs => some cs
  | cs => some cs

/-- Why text is no whole number. -/
inductive WholeFault where
  | unreadable
  | tooLong
deriving DecidableEq, Repr

/-- A whole number in lenient notation: white space around it, a plus sign, zeros at the start, a
fraction of zeros, and underscores between digits are allowed. After zeros at the start there may be
underscores, and a minus sign if there is none before the zeros. -/
def readLenient? (cs : List Char) : Option Int := do
  let cs ← dropPlus? (trimBy isWhiteSpace cs)
  let cs ← dropZeros? cs
  let cs ← ungroup? (dropFraction cs)
  readPlain? cs

/-- A whole number in plain or in lenient notation. -/
def readWhole (s : String) : Except WholeFault Int :=
  match readPlain? s.toList with
  | some n => .ok n
  | none =>
    if startsTooLong s.toList then .error .tooLong
    else (readLenient? s.toList).elim (.error .unreadable) .ok

/-! ## Digits of any script -/

/-- A run of digits as their values, in which single underscores may stand between two digits. -/
def readRun? (digit? : Char → Option Nat) (cs : List Char) : Option (List Nat) :=
  (ungroup? cs).bind (digits? digit?)

/-- A whole number in decimal digits of any script, with a sign and with white space around it. -/
def readDigits? (s : String) : Option Int := do
  let (negative, cs) := splitSign (trimBy isWhiteSpace s.toList)
  let ds ← readRun? digitValue? cs
  if ds.length ≤ maxDigits then some (signed negative (ofDigits ds)) else none

end AgentChain.Number
