import ReplicaSet.Change
import ReplicaSet.Controller
import ReplicaSet.Endpoints
import ReplicaSet.Member
import ReplicaSet.Notice
import ReplicaSet.Proofs.Abandonment
import ReplicaSet.Proofs.Addresses
import ReplicaSet.Proofs.AdmissionNumbers
import ReplicaSet.Proofs.Admissions
import ReplicaSet.Proofs.Announcements
import ReplicaSet.Proofs.Audiences
import ReplicaSet.Proofs.BenchRuns
import ReplicaSet.Proofs.CallRuns
import ReplicaSet.Proofs.ChangeRuns
import ReplicaSet.Proofs.ClockRuns
import ReplicaSet.Proofs.ClusterClock
import ReplicaSet.Proofs.ClusterMoves
import ReplicaSet.Proofs.ClusterRuns
import ReplicaSet.Proofs.ClusterWork
import ReplicaSet.Proofs.Commissions
import ReplicaSet.Proofs.Coverage
import ReplicaSet.Proofs.CrashReports
import ReplicaSet.Proofs.Crashes
import ReplicaSet.Proofs.FifoLine
import ReplicaSet.Proofs.FifoWorker
import ReplicaSet.Proofs.Founding
import ReplicaSet.Proofs.HeapContents
import ReplicaSet.Proofs.HeapFifo
import ReplicaSet.Proofs.HeapOrder
import ReplicaSet.Proofs.Independence
import ReplicaSet.Proofs.JoinRuns
import ReplicaSet.Proofs.Lifecycle
import ReplicaSet.Proofs.NodeRuns
import ReplicaSet.Proofs.Numbers
import ReplicaSet.Proofs.OpenRuns
import ReplicaSet.Proofs.QueueAttempts
import ReplicaSet.Proofs.QueueEffort
import ReplicaSet.Proofs.QueueHistory
import ReplicaSet.Proofs.QueueLine
import ReplicaSet.Proofs.QueueLineup
import ReplicaSet.Proofs.QueueMoves
import ReplicaSet.Proofs.QueueOrder
import ReplicaSet.Proofs.QueueRecords
import ReplicaSet.Proofs.QueueRest
import ReplicaSet.Proofs.QueueScripts
import ReplicaSet.Proofs.QueueWorks
import ReplicaSet.Proofs.Requests
import ReplicaSet.Proofs.Resizes
import ReplicaSet.Proofs.RosterHistory
import ReplicaSet.Proofs.RosterRuns
import ReplicaSet.Proofs.RosterShape
import ReplicaSet.Proofs.RunAttempts
import ReplicaSet.Proofs.RunOrder
import ReplicaSet.Proofs.Scenes
import ReplicaSet.Proofs.Settling
import ReplicaSet.Proofs.Shutdown
import ReplicaSet.Proofs.StoreChanges
import ReplicaSet.Proofs.StoreFaces
import ReplicaSet.Proofs.StoreRuns
import ReplicaSet.Proofs.StoreShape
import ReplicaSet.Proofs.Surveys
import ReplicaSet.Proofs.Tableaux
import ReplicaSet.Proofs.TaskPlaces
import ReplicaSet.Proofs.Traces
import ReplicaSet.Proofs.ViewHistory
import ReplicaSet.Queue.Basic
import ReplicaSet.Queue.DelayLine
import ReplicaSet.Queue.WakeHeap
import ReplicaSet.Roster
import ReplicaSet.Scaling
import ReplicaSet.Settings
import ReplicaSet.Simulation.Call
import ReplicaSet.Simulation.Clockwork
import ReplicaSet.Simulation.Cluster
import ReplicaSet.Simulation.Event
import ReplicaSet.Simulation.Line
import ReplicaSet.Simulation.Script
import ReplicaSet.Simulation.Site
import ReplicaSet.Simulation.World
import ReplicaSet.Status
import ReplicaSet.Store.Memory
import ReplicaSet.Store.Request
import ReplicaSet.Surplus
import ReplicaSet.Text.Blank
import ReplicaSet.Text.Distinct
import ReplicaSet.Text.Extending
import ReplicaSet.Text.Ignorable
import ReplicaSet.Text.Quoted
import ReplicaSet.Text.Ranges
import ReplicaSet.Text.Unprintable
import ReplicaSet.Time
