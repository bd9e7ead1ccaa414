import DeadlineTimers.Nrf51.Board
import DeadlineTimers.Simulated.Board
import DeadlineTimers.Proofs.PortSteps
import DeadlineTimers.Proofs.Moments
import DeadlineTimers.Proofs.Runs
import DeadlineTimers.Proofs.BoardSteps
import DeadlineTimers.Proofs.Reachable
import DeadlineTimers.Proofs.ExactTick
import DeadlineTimers.Proofs.WakeUp
import DeadlineTimers.Proofs.Accounts
import DeadlineTimers.Proofs.StoppedDevices
import DeadlineTimers.Proofs.Bookkeeping
import DeadlineTimers.Proofs.StillPorts
import DeadlineTimers.Proofs.HandlerPass
import DeadlineTimers.Proofs.Links
import DeadlineTimers.Proofs.Service
import DeadlineTimers.Proofs.QueueOrder
import DeadlineTimers.Proofs.StartOrder
import DeadlineTimers.Proofs.OnTime
import DeadlineTimers.Proofs.LinkedTimers
import DeadlineTimers.Proofs.Records
import DeadlineTimers.Proofs.FiredOnce
import DeadlineTimers.Proofs.NeverEarly
import DeadlineTimers.Proofs.Settling
import DeadlineTimers.Proofs.ArmOutcome
import DeadlineTimers.Proofs.Rejections
import DeadlineTimers.Proofs.LocalEffects
import DeadlineTimers.Proofs.LocalOperations
import DeadlineTimers.Proofs.Independence
import DeadlineTimers.Proofs.Poised
import DeadlineTimers.Proofs.Jumping
import DeadlineTimers.Proofs.StableQueue
import DeadlineTimers.Proofs.NearestDivider
import DeadlineTimers.Proofs.DrainPass
import DeadlineTimers.Proofs.SelfRestart
import DeadlineTimers.Proofs.VisitedValues
import DeadlineTimers.Proofs.QueueEntries
import DeadlineTimers.Proofs.BusyWait
import DeadlineTimers.Proofs.RunFrequencies
import DeadlineTimers.Proofs.LinePriorities
import DeadlineTimers.Proofs.NewestLines
import DeadlineTimers.Proofs.Truncation
