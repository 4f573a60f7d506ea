import AgentChain.Data
import AgentChain.Data.Issue
import AgentChain.Number.Numeral
import AgentChain.Path

/-!
# Reading plain data

Readers for the simple types and for the fields of objects. A reader is lenient where the meaning of
the data is plain: a truth value may be written as a word, and a number as text.
-/

namespace AgentChain

/-- A reader turns data into a value or says what is wrong with it. -/
abbrev Reader (α : Type) : Type := Data → Validated α

namespace Reader

open Validated

variable {α : Type}

/-- Text as it is. -/
def text : Reader String := fun d =>
  match d.text? with
  | some s => valid s
  | none => fail .textExpected

/-- The words for true and false, in lower case. -/
def readBool? (s : String) : Option Bool :=
  let word := String.ofList (s.toList.map Char.toLower)
  if word ∈ ["1", "true", "t", "yes", "y", "on"] then some true
  else if word ∈ ["0", "false", "f", "no", "n", "off"] then some false
  else none

/-- Zero or one as a truth value; other numbers that fit into a machine word cannot be read as
one. -/
def boolOfInt (n : Int) : Validated Bool :=
  if n = 0 then valid false
  else if n = 1 then valid true
  else if Number.fitsWord n then fail .boolUnreadable
  else fail .boolExpected

/-- A truth value, zero or one, or a word. -/
def bool : Reader Bool := fun d =>
  match d with
  | .bool b => valid b
  | .int n => boolOfInt n
  | .float x => (Number.Binary64.ofFloat x).toWord?.elim (fail .boolExpected) boolOfInt
  | d =>
    match d.text? with
    | some s => (readBool? s).elim (fail .boolUnreadable) valid
    | none => fail .boolExpected

/-- A float without fraction that is smaller than a machine word. -/
def intOfFloat (x : Number.Binary64) : Validated Int :=
  if !x.isFinite then fail .intNotFinite
  else if x.toInt? = none then fail .intWithFraction
  else x.toWord?.elim (fail .intTooLong) valid

/-- The text of a whole number. -/
def intOfText (s : String) : Validated Int :=
  match Number.readWhole s with
  | .ok n => valid n
  | .error .unreadable => fail .intUnreadable
  | .error .tooLong => fail .intTooLong

/-- A whole number, a float without fraction, a truth value, or the text of a whole number. -/
def int : Reader Int := fun d =>
  match d with
  | .int n => valid n
  | .bool b => valid (if b then 1 else 0)
  | .float x => intOfFloat (Number.Binary64.ofFloat x)
  | d => d.text?.elim (fail .intExpected) intOfText

/-- A float, a whole number, a truth value, or the text of a float. -/
def float : Reader Float := fun d =>
  match d with
  | .float x => valid x
  | .int n => (Number.floatOfInt? n).elim (fail .floatExpected) valid
  | .bool b => valid (if b then 1 else 0)
  | d =>
    match d.text? with
    | some s => (Number.readFloat? s).elim (fail .floatUnreadable) valid
    | none => fail .floatExpected

/-- The text of a path. -/
def path : Reader Path := fun d =>
  match d.text? with
  | some s => valid (Path.ofText s)
  | none => fail .pathExpected

/-- A function. -/
def function : Reader Handle := fun d =>
  match d with
  | .callable h => valid h
  | _ => fail .functionExpected

/-- A signal. There are two kinds of signals, and data that is neither has two issues. -/
def signal : Reader Signal := fun d =>
  match d with
  | .signal s => valid s
  | _ =>
    let issue : Issue := ⟨.signalExpected, [.field "is-instance[Event]"]⟩
    invalid [issue, issue]

/-- The text of a reason to stop. -/
def stopReason : Reader StopReason := fun d =>
  match d with
  | .text s => (StopReason.ofText? s).elim (fail .stopReasonExpected) valid
  | _ => fail .stopReasonExpected

/-- Null, or what `r` reads. -/
def orNull (r : Reader α) : Reader (Option α) := fun d =>
  match d with
  | .null => valid none
  | d => some <$> r d

/-- The items of a list, the first of which has the given index. -/
def items (r : Reader α) (index : Nat) : List Data → Validated (List α)
  | [] => valid []
  | d :: ds => List.cons <$> (r d).under (.item index) <*> items r (index + 1) ds

/-- A list of what `r` reads. -/
def list (r : Reader α) : Reader (List α) := fun d =>
  match d with
  | .list ds => items r 0 ds
  | _ => fail .listExpected

/-- A list of anything. -/
def anything : Reader (List Data) := fun d =>
  match d with
  | .list ds => valid ds
  | _ => fail .listExpected

/-- A whole number from one up. -/
def positiveInt : Reader { n : Int // 1 ≤ n } := fun d =>
  (int d).andThen fun n => if h : 1 ≤ n then valid ⟨n, h⟩ else fail .belowOne

/-- A float above zero. -/
def positiveFloat : Reader Float := fun d =>
  (float d).andThen fun x => if 0 < x then valid x else fail .notPositive

/-! ## Objects -/

/-- An object of the record type with the given title. -/
def object (title : String) (r : List (String × Data) → Validated α) : Reader α := fun d =>
  match d with
  | .object fields => r fields
  | _ => fail (.recordExpected title)

/-- A field that must be there. -/
def field (name : String) (r : Reader α) (fields : List (String × Data)) : Validated α :=
  match Data.lookup name fields with
  | some d => (r d).under (.field name)
  | none => invalid [⟨.missing, [.field name]⟩]

/-- A field that has the value `a` where it is absent. -/
def fieldOr (name : String) (a : α) (r : Reader α) (fields : List (String × Data)) :
    Validated α :=
  match Data.lookup name fields with
  | some d => (r d).under (.field name)
  | none => valid a

end Reader

end AgentChain
