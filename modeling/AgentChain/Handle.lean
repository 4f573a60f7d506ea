/-!
# Handles

Functions and cancellation signals are known by handles. Two handles are equal exactly if they stand
for the same object; what a handle does or shows is a matter of the state in which it is used.
-/

namespace AgentChain

/-- A function handed in from outside: a completion check or an event sink. -/
structure Handle where
  id : Nat
deriving DecidableEq, Repr

/-- Where a cancellation signal may be set from. -/
inductive SignalKind where
  | thread
  | eventLoop
deriving DecidableEq, Repr

/-- A cancellation signal. Whether it is set changes over time and is not part of it. -/
structure Signal where
  kind : SignalKind
  id : Nat
deriving DecidableEq, Repr

end AgentChain
