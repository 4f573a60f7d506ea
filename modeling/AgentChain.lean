import AgentChain.Script.Session
import AgentChain.Main
import AgentChain.Proofs.Trace
import AgentChain.Proofs.Parts
import AgentChain.Proofs.Views
import AgentChain.Proofs.Course
import AgentChain.Proofs.Budget
import AgentChain.Proofs.Depletion
import AgentChain.Proofs.Halting
import AgentChain.Proofs.Verdict
import AgentChain.Proofs.EventStream
import AgentChain.Proofs.Classification
import AgentChain.Proofs.Grammar
import AgentChain.Proofs.Disposal
import AgentChain.Proofs.Aborts
import AgentChain.Proofs.Containment
import AgentChain.Proofs.Requests
import AgentChain.Proofs.Coupling
import AgentChain.Proofs.Watching
import AgentChain.Proofs.Parting
import AgentChain.Proofs.Appending
import AgentChain.Proofs.LargerBudget
import AgentChain.Proofs.Reading
import AgentChain.Proofs.RoundTrip
import AgentChain.Proofs.Joining
import AgentChain.Proofs.LoopOutcome
import AgentChain.Proofs.Echoing
import AgentChain.Proofs.Rehearsal
import AgentChain.Proofs.LeftmostFault
import AgentChain.Proofs.LoneStage
import AgentChain.Data.Status
import AgentChain.Proofs.TaskCompletion
import AgentChain.Proofs.Durations
import AgentChain.Proofs.LogLines
import AgentChain.Proofs.Names
