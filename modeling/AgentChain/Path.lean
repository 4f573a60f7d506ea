/-!
# Paths

A path is kept in a normal form: how many slashes it starts with, and the names between slashes,
without those that mean the directory itself.
-/

namespace AgentChain

/-- How a path starts. Two slashes are told apart from one; three or more count as one. -/
inductive Anchor where
  | relative
  | root
  | doubleRoot
deriving DecidableEq, Repr

/-- A path: where it starts and the names that lead from there. -/
structure Path where
  anchor : Anchor
  parts : List String
deriving DecidableEq, Repr

namespace Path

/-- The slashes at the start of a text. -/
def anchorOf (cs : List Char) : Anchor :=
  match (cs.takeWhile (· == '/')).length with
  | 0 => .relative
  | 2 => .doubleRoot
  | _ => .root

/-- The path that a text denotes. Empty names and single points vanish. -/
def ofText (s : String) : Path where
  anchor := anchorOf s.toList
  parts := ((s.toList.splitOn '/').map String.ofList).filter fun p => p ≠ "" ∧ p ≠ "."

/-- The slashes that a path is written with at the start. -/
def Anchor.toText : Anchor → String
  | .relative => ""
  | .root => "/"
  | .doubleRoot => "//"

/-- The text of a path. The path that leads nowhere is a single point. -/
def toText (p : Path) : String :=
  if p.anchor = .relative ∧ p.parts = [] then "."
  else Anchor.toText p.anchor ++ "/".intercalate p.parts

end Path

end AgentChain
