import AgentChain.Path
import AgentChain.Stage

/-!
# Configuration of a run

The stages of a chain, the directory that it works in, and the caps on the whole run: how many
iterations its loop stages may use up together, and how long it may take.
-/

namespace AgentChain

/-- How long a run may take. The standard limit is half an hour. -/
inductive TimeLimit where
  | standard
  | seconds (x : Float)
deriving DecidableEq

namespace TimeLimit

/-- The standard limit in seconds. -/
def standardSeconds : Nat := 30 * 60

/-- The limit in seconds. -/
def toFloat : TimeLimit → Float
  | standard => Float.ofNat standardSeconds
  | seconds x => x

end TimeLimit

/-- A whole number from one up that caps the iterations of a run. -/
abbrev Budget : Type := { n : Int // 1 ≤ n }

/-- The budget of a run that sets none. -/
def Budget.standard : Budget := ⟨50, by decide⟩

/-- The configuration of a run. -/
structure Config where
  stages : List Stage := []
  root : Path
  models : Option ModelTable := none
  /-- The signal that cancels the run. -/
  signal : Option Signal := none
  /-- The sink that the events of the run are sent to. -/
  sink : Option Handle := none
  budget : Budget := .standard
  timeLimit : TimeLimit := .standard
deriving DecidableEq

end AgentChain
