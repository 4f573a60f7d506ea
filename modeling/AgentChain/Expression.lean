import AgentChain.Log
import AgentChain.Stage
import AgentChain.Text.Quoted

/-!
# Chain expressions

A chain expression names the stages of a chain, separated by arrows: `planner -> coordinator`.
Whether a stage loops is a matter of its role and cannot be said in an expression.

Reading goes from left to right and stops at the first fault. A warning is logged for every stage
before it whose role is not built in.
-/

namespace AgentChain

namespace Expression

/-- What is wrong with a chain expression. -/
inductive Fault where
  /-- There is no stage at all. -/
  | empty
  | startsWithArrow
  | endsWithArrow
  /-- Nothing stands between two arrows; stages count from one. -/
  | emptyStage (position : Nat)
  /-- A stage asks for a number of iterations, which was possible once. The role is in normal form
  and may be empty. -/
  | countSyntax (stage role : String)
deriving DecidableEq, Repr

/-- What is said of a fault. -/
def Fault.message : Fault → String
  | empty => "Chain expression cannot be empty"
  | startsWithArrow => "Chain expression cannot start with '->'"
  | endsWithArrow => "Chain expression cannot end with '->'"
  | emptyStage position => "Empty stage name at position " ++ toString position
  | countSyntax stage role =>
    "Stage '" ++ stage ++ "' uses the 'role:count' syntax, which is no longer supported. " ++
      "Loop behavior is intrinsic to the role; use '" ++ (if role = "" then "<empty>" else role) ++
      "' instead."

/-- The text between arrows. -/
def segments : List Char → List (List Char)
  | [] => [[]]
  | '-' :: '>' :: cs => [] :: segments cs
  | c :: cs =>
    match segments cs with
    | [] => [[c]]
    | s :: ss => (c :: s) :: ss

/-- The role in a stage that asks for a count: the text before the first colon. What comes after the
colon and the blanks that follow it must stay on one line. -/
def countRole? (cs : List Char) : Option (List Char) :=
  match cs.dropWhile (· != ':') with
  | [] => none
  | _ :: rest =>
    if '\n' ∈ rest.dropWhile Text.isBlank then none else some (cs.takeWhile (· != ':'))

/-- The fault of a blank segment. -/
def blankFault (position total : Nat) : Fault :=
  if position = 0 then .startsWithArrow
  else if position = total - 1 then .endsWithArrow
  else .emptyStage (position + 1)

/-- The stage that a segment names. -/
def readSegment (segment : List Char) (position total : Nat) : Except Fault Stage :=
  match StageName.ofText? (String.ofList segment) with
  | none => .error (blankFault position total)
  | some name =>
    let stage := Text.trim segment
    match countRole? stage with
    | some role => .error (.countSyntax (String.ofList stage) (Text.normalize (String.ofList role)))
    | none => .ok { name, loop := roleLoops name.text }

/-- The warnings that a stage gives rise to. -/
def warnings (stage : Stage) : List LogRecord :=
  if (Role.ofName? stage.name.text).isSome then []
  else [⟨.warning, .parser, "Unknown role " ++ Text.quoted stage.name.text ++
    " in chain expression; running it as a one-shot stage"⟩]

/-- Reads the segments from the given position on. -/
def readSegments (total : Nat) : (position : Nat) → List (List Char) →
    List LogRecord × Except Fault (List Stage)
  | _, [] => ([], .ok [])
  | position, segment :: rest =>
    match readSegment segment position total with
    | .error f => ([], .error f)
    | .ok stage =>
      let (log, result) := readSegments total (position + 1) rest
      (warnings stage ++ log, result.map (stage :: ·))

/-- Reads a chain expression: what is logged, and the stages or the first fault. -/
def read (expression : String) : List LogRecord × Except Fault (List Stage) :=
  let trimmed := Text.trim expression.toList
  if trimmed.isEmpty then ([], .error .empty)
  else
    let parts := segments trimmed
    readSegments parts.length 0 parts

end Expression

end AgentChain
