import MoistureLoop.Controller.Resting
import MoistureLoop.Controller.Termination
import MoistureLoop.Controller.FlowExclusion
import MoistureLoop.Controller.PulseExact
import MoistureLoop.Controller.Offer
import MoistureLoop.Controller.SlotRefinement
import MoistureLoop.SlotRuns
import MoistureLoop.Controller.Compensation
import MoistureLoop.StateMachine.EnabledFlag
import MoistureLoop.StateMachine.EnabledWrites
import MoistureLoop.Runtime.LatchedFaults
import MoistureLoop.StateMachine.FaultPair
import MoistureLoop.Controller.Simulation
import MoistureLoop.Controller.GateAgreement
import MoistureLoop.Controller.OffOutcome
import MoistureLoop.Controller.TurnOnOnce
import MoistureLoop.Runtime.OperatorProof
import MoistureLoop.Runtime.Hazards
import MoistureLoop.Runtime.ZoneContinuity
import MoistureLoop.Runtime.PlatformBindings
import MoistureLoop.Store.VerifiedWrites
import MoistureLoop.StateMachine.Budgets
import MoistureLoop.StateMachine.PulseCharges
import MoistureLoop.StateMachine.SoakIntegrity
import MoistureLoop.StateMachine.Watchdog
import MoistureLoop.Models.Plausibility
import MoistureLoop.Controller.LocalDays
import MoistureLoop.Store.DailyMerge
import MoistureLoop.Store.BlockerOwner
import MoistureLoop.Runtime.Idempotence
import MoistureLoop.Controller.SingleWriter
import MoistureLoop.Runtime.SoakTrust
import MoistureLoop.StateMachine.PulseStop
import MoistureLoop.Controller.PulseWatch
import MoistureLoop.Controller.PulseSteps
import MoistureLoop.Controller.BoundedStop
import MoistureLoop.ConfigFlow.AcceptedZones
import MoistureLoop.Runtime.Renames
import MoistureLoop.Runtime.CrashEvidence
import MoistureLoop.Runtime.OneListener
import MoistureLoop.Runtime.QuiescedZones
import MoistureLoop.Runtime.CleanShutdown
