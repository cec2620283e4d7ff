import Demux.Proofs.Accounting
import Demux.Proofs.Audit
import Demux.Proofs.Bursts
import Demux.Proofs.Captures
import Demux.Proofs.Classification
import Demux.Proofs.Cleared
import Demux.Proofs.Collaboration
import Demux.Proofs.Commutation
import Demux.Proofs.Conservation
import Demux.Proofs.Diagnostics
import Demux.Proofs.Fields
import Demux.Proofs.Fifo
import Demux.Proofs.Identifiers
import Demux.Proofs.Isolation
import Demux.Proofs.Journal
import Demux.Proofs.Ledgers
import Demux.Proofs.Likeness
import Demux.Proofs.LoopLog
import Demux.Proofs.Loops
import Demux.Proofs.Losses
import Demux.Proofs.Moves
import Demux.Proofs.Offer
import Demux.Proofs.Opacity
import Demux.Proofs.Pace
import Demux.Proofs.Planes
import Demux.Proofs.Presentations
import Demux.Proofs.Probes
import Demux.Proofs.Registrations
import Demux.Proofs.Routes
import Demux.Proofs.Routing
import Demux.Proofs.Saturation
import Demux.Proofs.Sessions
import Demux.Proofs.Stability
import Demux.Proofs.Stocks
import Demux.Proofs.Turnover
import Demux.Proofs.Turns
import Demux.Proofs.Wiped
import Demux.Proofs.Workers
import Demux.Session
import Demux.Stats.Telemetry
