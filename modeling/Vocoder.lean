import Vocoder.Line.WireStep
import Vocoder.Main
import Vocoder.Workbench
import Vocoder.Proofs.Cut
import Vocoder.Proofs.Alike
import Vocoder.Proofs.Simulation
import Vocoder.Proofs.Call
import Vocoder.Proofs.Framing
import Vocoder.Proofs.PacketLine
import Vocoder.Proofs.PacketBench
import Vocoder.Proofs.Recording
import Vocoder.Proofs.Interlude
import Vocoder.Proofs.Plan
import Vocoder.Proofs.Ledger
import Vocoder.Proofs.Wiretap
import Vocoder.Proofs.Acknowledged
import Vocoder.Proofs.Devices
import Vocoder.Proofs.Leftover
import Vocoder.Proofs.Isolation
import Vocoder.Proofs.Transports
import Vocoder.Proofs.Lifecycle
import Vocoder.Proofs.Reopened
import Vocoder.Proofs.Accounts
import Vocoder.Proofs.RequestStream
import Vocoder.Proofs.Delivery
import Vocoder.Proofs.Resumption
import Vocoder.Proofs.Faults
import Vocoder.Proofs.Handshake
import Vocoder.Proofs.Hearing
import Vocoder.Proofs.Passage
import Vocoder.Proofs.Traffic
import Vocoder.Proofs.LoopRun
import Vocoder.Proofs.Resynchronization
import Vocoder.Proofs.Conservation
import Vocoder.Proofs.Masking
import Vocoder.Proofs.Builders
import Vocoder.Proofs.Characters
import Vocoder.Proofs.ChipName
import Vocoder.Proofs.Numerals
import Vocoder.Proofs.Addresses
import Vocoder.Proofs.Outlet
import Vocoder.Proofs.Grammar
import Vocoder.Proofs.Quotation
import Vocoder.Proofs.Sections
import Vocoder.Proofs.Conformance
import Vocoder.Proofs.Settings
import Vocoder.Proofs.History
import Vocoder.Proofs.Staging
import Vocoder.Proofs.Lossless
