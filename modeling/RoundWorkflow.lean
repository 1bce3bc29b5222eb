import RoundWorkflow.Files.Directory
import RoundWorkflow.Main
import RoundWorkflow.Plan
import RoundWorkflow.Proofs.Simulation.Freezing
import RoundWorkflow.Proofs.Simulation.Signals
import RoundWorkflow.Proofs.TransitionLog
import RoundWorkflow.Proofs.Validation
import RoundWorkflow.Proofs.Faults
import RoundWorkflow.Proofs.PlainStepping
import RoundWorkflow.Proofs.Retries
import RoundWorkflow.Proofs.DocumentEdges
import RoundWorkflow.Proofs.Warnings
import RoundWorkflow.Proofs.SpecificationYaml
import RoundWorkflow.Proofs.EdgeOrder
import RoundWorkflow.Proofs.Lockstep
import RoundWorkflow.Proofs.Deadlines
import RoundWorkflow.Proofs.Settlement
import RoundWorkflow.Proofs.ContentCycle
import RoundWorkflow.Proofs.Subscriptions
import RoundWorkflow.Proofs.Launch
import RoundWorkflow.Proofs.RoundOutcomes
import RoundWorkflow.Proofs.Stopping
import RoundWorkflow.Proofs.Overrides
import RoundWorkflow.Proofs.CutOff
import RoundWorkflow.Proofs.TableEdges
import RoundWorkflow.Proofs.KeyReading
import RoundWorkflow.Proofs.StoreHistory
import RoundWorkflow.Proofs.GraphOfEdges
import RoundWorkflow.Proofs.Replaying
import RoundWorkflow.Proofs.Simulation.Bookkeeping
import RoundWorkflow.Proofs.SharedAppends
import RoundWorkflow.Proofs.Drawing
import RoundWorkflow.Proofs.ScriptedRounds
import RoundWorkflow.Proofs.ExchangeText
import RoundWorkflow.Proofs.JsonAsYaml
import RoundWorkflow.Proofs.SettingPaths
import RoundWorkflow.Proofs.HistoryWindow
import RoundWorkflow.Proofs.Streaks
