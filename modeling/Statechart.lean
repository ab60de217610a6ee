import Statechart.Contention
import Statechart.Headers.Envelope
import Statechart.Label
import Statechart.Machine.Step
import Statechart.Machine.Trace
import Statechart.Rules.Trial
import Statechart.Scenario
import Statechart.Value.Reader
import Statechart.Value.Writer
import Statechart.Variables.Access
import Statechart.Proofs.Contention.Turn
import Statechart.Proofs.Contention.Token
import Statechart.Proofs.Contention.Wakeup
import Statechart.Proofs.Machine.Balance
import Statechart.Proofs.Machine.Triple
import Statechart.Proofs.Machine.Inner
import Statechart.Proofs.Machine.Recording
import Statechart.Proofs.Machine.Conservation
import Statechart.Proofs.Machine.Reports
import Statechart.Proofs.Contention.Idle
import Statechart.Proofs.Machine.Cascade
import Statechart.Proofs.Machine.Moves
import Statechart.Proofs.Machine.Repetition
import Statechart.Proofs.Machine.Transparency
import Statechart.Proofs.Machine.Recovery
import Statechart.Proofs.Machine.Chronicle
import Statechart.Proofs.Machine.Residence
import Statechart.Proofs.Machine.Discipline
import Statechart.Proofs.Machine.Sights
import Statechart.Proofs.Machine.Passage
import Statechart.Proofs.Model.Validation
import Statechart.Proofs.Machine.Rearrangement
import Statechart.Proofs.Machine.Announcement
import Statechart.Proofs.Machine.Unwinding
import Statechart.Proofs.Model.CycleReport
import Statechart.Proofs.Machine.Abreast
import Statechart.Proofs.Machine.Shadow
import Statechart.Proofs.Machine.Conduct
import Statechart.Proofs.Machine.Termination
import Statechart.Proofs.Machine.Unmatched
import Statechart.Proofs.Machine.Repose
import Statechart.Proofs.Machine.Retrial
import Statechart.Proofs.Machine.Following
import Statechart.Proofs.Machine.Provenance
import Statechart.Proofs.Handler.Precedence
import Statechart.Proofs.Machine.Concert
import Statechart.Proofs.Machine.Deeds
import Statechart.Proofs.Machine.Hearing
