import Overseer.Component
import Overseer.Proofs.Round
import Overseer.Supervisor.Builder
import Overseer.Proofs.Detector
import Overseer.Proofs.Interleaving
import Overseer.Proofs.Dispatch
import Overseer.Proofs.Pass
import Overseer.Proofs.Boot
import Overseer.Proofs.CrashLoop
import Overseer.Proofs.Timeless
import Overseer.Proofs.Validation
import Overseer.Proofs.Override
import Overseer.Proofs.Bookkeeping
import Overseer.Proofs.Persistence
import Overseer.Proofs.Verdict
import Overseer.Proofs.Landmarks
import Overseer.Proofs.Events
import Overseer.Proofs.SafeMode
import Overseer.Proofs.Recovery
import Overseer.Proofs.Namespaces
import Overseer.Proofs.Keeping
import Overseer.Proofs.Registration
import Overseer.Proofs.Restart
import Overseer.Proofs.Framing
import Overseer.Proofs.Partial
import Overseer.Proofs.Cadence
import Overseer.Proofs.Presses
import Overseer.Proofs.Bounce
import Overseer.Proofs.Numerals
import Overseer.Proofs.Spelling
import Overseer.Proofs.Grammar
import Overseer.Proofs.Literals
import Overseer.Proofs.Arguments
import Overseer.Proofs.LedHistory
import Overseer.Proofs.CounterForm
import Overseer.Proofs.Rewiring
import Overseer.Proofs.Composition
import Overseer.Proofs.Reading
import Overseer.Proofs.Charges
import Overseer.Proofs.Enrolment
import Overseer.Proofs.Assembly
