/-!
# Log records

What the program writes to its log: a level, the part of the program that writes, and one message.
-/

namespace AgentChain

/-- How serious a log record is. -/
inductive Level where
  | debug
  | info
  | warning
  | error
deriving DecidableEq, Repr

/-- A part of the program that writes log records. -/
structure Logger where
  name : String
deriving DecidableEq, Repr

namespace Logger

/-- Reads chain expressions. -/
def parser : Logger := ⟨"parser"⟩

/-- Runs chains. -/
def runner : Logger := ⟨"runner"⟩

/-- Shows the events of a run. -/
def events : Logger := ⟨"events"⟩

end Logger

/-- One message in the log. -/
structure LogRecord where
  level : Level
  logger : Logger
  message : String
deriving DecidableEq, Repr

end AgentChain
