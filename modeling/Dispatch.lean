import Dispatch.Main
import Dispatch.Proofs.Attempt.Pipeline
import Dispatch.Proofs.Mps.Relaxation
import Dispatch.Proofs.Reachable.Conservation
import Dispatch.Proofs.Reachable.DryRun
import Dispatch.Proofs.Reachable.Families
import Dispatch.Proofs.Reachable.Refusal
import Dispatch.Proofs.Group.Entries
import Dispatch.Proofs.Group.Forms
import Dispatch.Proofs.Plant.Resaving
import Dispatch.Proofs.Schedule.Contents
import Dispatch.Proofs.Schedule.Resaving
import Dispatch.Proofs.Schedule.Regeneration
import Dispatch.Proofs.Change.Delivery
import Dispatch.Proofs.Json.Reading
import Dispatch.Proofs.Network.Intervals
import Dispatch.Proofs.Number.Numerals
import Dispatch.Proofs.Group.Codec
import Dispatch.Proofs.Reachable.Constants
import Dispatch.Proofs.Reachable.Altered
import Dispatch.Proofs.Reachable.Flows
import Dispatch.Proofs.Frame.Schedule
import Dispatch.Proofs.Reachable.Stations
import Dispatch.Proofs.Feasibility
import Dispatch.Proofs.Plant.Reloading
import Dispatch.Proofs.Network.Reloading
import Dispatch.Proofs.Reachable.Commuting
import Dispatch.Proofs.Reachable.Readdressed
import Dispatch.Proofs.Reachable.Injections
import Dispatch.Proofs.Topology.Coherence
import Dispatch.Proofs.Reachable.Vectors
import Dispatch.Proofs.Group.Capping
import Dispatch.Proofs.Mps.WellFormed
import Dispatch.Proofs.Group.Completion
import Dispatch.Proofs.Closure.Grids
