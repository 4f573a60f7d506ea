import AgentChain.Event

/-!
# Issues

What can be wrong with data that should describe a value, and where. All issues of a value are
reported together.
-/

namespace AgentChain

/-- What is wrong with a piece of data. -/
inductive Problem where
  | textExpected
  | textTooShort
  | boolExpected
  | boolUnreadable
  | intExpected
  | intUnreadable
  | intTooLong
  | intWithFraction
  | intNotFinite
  | floatExpected
  | floatUnreadable
  | belowOne
  | notPositive
  | pathExpected
  | listExpected
  | recordExpected (title : String)
  | stopReasonExpected
  | signalExpected
  | functionExpected
  | tagExpected (kind : EventKind)
  | missing
  | frozen
  | noTag
  | unknownTag (shown : String)
  | objectExpected
deriving DecidableEq, Repr

namespace Problem

/-- The texts, each in single quotes, separated by commas. -/
def quotedChoices (texts : List String) : String :=
  ", ".intercalate (texts.map fun s => "'" ++ s ++ "'")

/-- The short name of a problem. -/
def code : Problem → String
  | textExpected => "string_type"
  | textTooShort => "string_too_short"
  | boolExpected => "bool_type"
  | boolUnreadable => "bool_parsing"
  | intExpected => "int_type"
  | intUnreadable => "int_parsing"
  | intTooLong => "int_parsing_size"
  | intWithFraction => "int_from_float"
  | intNotFinite => "finite_number"
  | floatExpected => "float_type"
  | floatUnreadable => "float_parsing"
  | belowOne => "greater_than_equal"
  | notPositive => "greater_than"
  | pathExpected => "path_type"
  | listExpected => "list_type"
  | recordExpected _ => "model_type"
  | stopReasonExpected => "enum"
  | signalExpected => "is_instance_of"
  | functionExpected => "callable_type"
  | tagExpected _ => "literal_error"
  | missing => "missing"
  | frozen => "frozen_instance"
  | noTag => "union_tag_not_found"
  | unknownTag _ => "union_tag_invalid"
  | objectExpected => "model_attributes_type"

/-- The reasons to stop, as a choice: all but the last, and the last after an "or". -/
def stopReasonChoice : String :=
  let texts := StopReason.all.map (·.text)
  quotedChoices texts.dropLast ++ " or " ++ quotedChoices (texts.drop (texts.length - 1))

/-- What is said of a problem. -/
def message : Problem → String
  | textExpected => "Input should be a valid string"
  | textTooShort => "String should have at least 1 character"
  | boolExpected => "Input should be a valid boolean"
  | boolUnreadable => "Input should be a valid boolean, unable to interpret input"
  | intExpected => "Input should be a valid integer"
  | intUnreadable => "Input should be a valid integer, unable to parse string as an integer"
  | intTooLong => "Unable to parse input string as an integer, exceeded maximum size"
  | intWithFraction => "Input should be a valid integer, got a number with a fractional part"
  | intNotFinite => "Input should be a finite number"
  | floatExpected => "Input should be a valid number"
  | floatUnreadable => "Input should be a valid number, unable to parse string as a number"
  | belowOne => "Input should be greater than or equal to 1"
  | notPositive => "Input should be greater than 0"
  | pathExpected => "Input is not a valid path for <class 'pathlib.Path'>"
  | listExpected => "Input should be a valid list"
  | recordExpected title => "Input should be a valid dictionary or instance of " ++ title
  | stopReasonExpected => "Input should be " ++ stopReasonChoice
  | signalExpected => "Input should be an instance of Event"
  | functionExpected => "Input should be callable"
  | tagExpected kind => "Input should be '" ++ kind.tag ++ "'"
  | missing => "Field required"
  | frozen => "Instance is frozen"
  | noTag => "Unable to extract tag using discriminator 'type'"
  | unknownTag shown =>
    "Input tag '" ++ shown ++ "' found using 'type' does not match any of the expected tags: " ++
      quotedChoices (EventKind.all.map (·.tag))
  | objectExpected => "Input should be a valid dictionary or object to extract fields from"

end Problem

/-- One step on the way to a piece of data. -/
inductive Step where
  | field (name : String)
  | item (index : Nat)
deriving DecidableEq, Repr

/-- A problem and the way to it. -/
structure Issue where
  problem : Problem
  location : List Step := []
deriving DecidableEq, Repr

/-- The issue as seen from outside, one step further away. -/
def Issue.under (step : Step) (i : Issue) : Issue := { i with location := step :: i.location }

/-! ## Collecting issues -/

/-- A value, or all the issues that kept it from being read. -/
inductive Validated (α : Type) where
  | valid (a : α)
  | invalid (issues : List Issue)
deriving DecidableEq

namespace Validated

variable {α β : Type}

/-- Applies a function to the value. -/
def map (f : α → β) : Validated α → Validated β
  | valid a => valid (f a)
  | invalid is => invalid is

/-- Applies a value that is a function; the issues of both sides are collected in order. -/
def seq : Validated (α → β) → Validated α → Validated β
  | valid f, valid a => valid (f a)
  | valid _, invalid is => invalid is
  | invalid is, valid _ => invalid is
  | invalid is, invalid js => invalid (is ++ js)

instance : Functor Validated where
  map := map

instance : Seq Validated where
  seq f a := seq f (a ())

/-- Reads on from the value. -/
def andThen (v : Validated α) (f : α → Validated β) : Validated β :=
  match v with
  | valid a => f a
  | invalid is => invalid is

/-- The value or its issues as seen from one step further away. -/
def under (step : Step) : Validated α → Validated α
  | valid a => valid a
  | invalid is => invalid (is.map (·.under step))

/-- Fails with one problem. -/
def fail (p : Problem) : Validated α := invalid [⟨p, []⟩]

@[simp] theorem map_valid (f : α → β) (a : α) : f <$> valid a = valid (f a) := rfl

@[simp] theorem seq_valid (f : α → β) (a : α) : (valid f <*> valid a) = valid (f a) := rfl

@[simp] theorem under_valid (step : Step) (a : α) : (valid a).under step = valid a := rfl

@[simp] theorem andThen_valid (a : α) (f : α → Validated β) : (valid a).andThen f = f a := rfl

end Validated

end AgentChain
