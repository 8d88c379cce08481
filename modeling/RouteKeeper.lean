import RouteKeeper.Double.Bench
import RouteKeeper.Double.Fixture
import RouteKeeper.Double.Verification
import RouteKeeper.Double.World
import RouteKeeper.Main
import RouteKeeper.Proofs.Adoption
import RouteKeeper.Proofs.Recording
import RouteKeeper.Proofs.Session
import RouteKeeper.Proofs.Task.Assertion
import RouteKeeper.Proofs.Coverage
import RouteKeeper.Proofs.Injection
import RouteKeeper.Proofs.SinglePath
import RouteKeeper.Proofs.Restart
import RouteKeeper.Proofs.TableInvariant
import RouteKeeper.Proofs.WellFormed
import RouteKeeper.Proofs.Footprint
import RouteKeeper.Proofs.Task.Pool
import RouteKeeper.Proofs.Linearization
import RouteKeeper.Proofs.Notation
import RouteKeeper.Proofs.Vpp.TakeBack
import RouteKeeper.Proofs.Task.Trace
import RouteKeeper.Proofs.Task.Parallel
import RouteKeeper.Proofs.Session.Trace
import RouteKeeper.Proofs.Lockstep
import RouteKeeper.Proofs.Vpp.Refinement
import RouteKeeper.Proofs.Kernel.Refinement
import RouteKeeper.Proofs.Turns
import RouteKeeper.Proofs.DuePass
import RouteKeeper.Proofs.Fulfilment
import RouteKeeper.Proofs.Narration
import RouteKeeper.Proofs.Throttle
import RouteKeeper.Proofs.FailedWrite
import RouteKeeper.Proofs.Kernel.Discovery
import RouteKeeper.Proofs.Kernel.Dump
import RouteKeeper.Proofs.Destination
import RouteKeeper.Proofs.Reconciliation
import RouteKeeper.Proofs.Ownership
import RouteKeeper.Proofs.Isolation
import RouteKeeper.Proofs.HostBits
import RouteKeeper.Proofs.Text.Utf8
import RouteKeeper.Proofs.Wire.Varint
import RouteKeeper.Proofs.Wire.Field
import RouteKeeper.Proofs.Wire.Message
import RouteKeeper.Proofs.Wire.Size
import RouteKeeper.Proofs.Vpp.Wire
import RouteKeeper.Proofs.Vpp.Request
import RouteKeeper.Proofs.Vpp.Concatenation
import RouteKeeper.Proofs.Residue
import RouteKeeper.Proofs.Text.Bytes
import RouteKeeper.Proofs.Shell.Literal
import RouteKeeper.Proofs.Shell.Command
import RouteKeeper.Proofs.Shell.Glob
import RouteKeeper.Proofs.Shell.Expansion
import RouteKeeper.Proofs.Shell.Handover
import RouteKeeper.Proofs.Shell.Line
import RouteKeeper.Proofs.Shell.SetParameter
import RouteKeeper.Proofs.Shell.Calm
import RouteKeeper.Proofs.Shell.Printing
import RouteKeeper.Proofs.Kernel.NextHop
import RouteKeeper.Proofs.PassEffect
import RouteKeeper.Proofs.Recovery
import RouteKeeper.Proofs.Spelling
import RouteKeeper.Proofs.Reinjection
import RouteKeeper.Proofs.Kernel.Connections
import RouteKeeper.Proofs.Vpp.TunnelEnds
import RouteKeeper.Proofs.LeadingBits
import RouteKeeper.Proofs.Grammar
import RouteKeeper.Proofs.FlaggedMap
import RouteKeeper.Proofs.Json.Grammar
import RouteKeeper.Proofs.Json.Reading
import RouteKeeper.Proofs.Connection
import RouteKeeper.Proofs.Toml.AddedLines
import RouteKeeper.Proofs.Toml.Construction
import RouteKeeper.Proofs.Toml.Written
import RouteKeeper.Proofs.Settings
