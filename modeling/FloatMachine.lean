import FloatMachine.Declaration.Tokens
import FloatMachine.Disk
import FloatMachine.Fault.Detail
import FloatMachine.Main
import FloatMachine.Proofs.Alignment
import FloatMachine.Proofs.Arguments
import FloatMachine.Proofs.Bindings
import FloatMachine.Proofs.Branches
import FloatMachine.Proofs.Calls
import FloatMachine.Proofs.Context
import FloatMachine.Proofs.Dates
import FloatMachine.Proofs.Diagnosis
import FloatMachine.Proofs.Echo
import FloatMachine.Proofs.Effects
import FloatMachine.Proofs.Exhaustion
import FloatMachine.Proofs.Extension
import FloatMachine.Proofs.Filling
import FloatMachine.Proofs.Indices
import FloatMachine.Proofs.Interchange
import FloatMachine.Proofs.Lengths
import FloatMachine.Proofs.Malformed
import FloatMachine.Proofs.Outcomes
import FloatMachine.Proofs.Progress
import FloatMachine.Proofs.Readings
import FloatMachine.Proofs.Residue
import FloatMachine.Proofs.Resolution
import FloatMachine.Proofs.Safety
import FloatMachine.Proofs.Scratch
import FloatMachine.Proofs.Storage
import FloatMachine.Proofs.Templates
import FloatMachine.Proofs.Timestamps
import FloatMachine.Proofs.Tracing
import FloatMachine.Proofs.Verdicts
