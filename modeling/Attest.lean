import Attest.Main
import Attest.Proofs.Command.Output
import Attest.Proofs.Command.Sources
import Attest.Proofs.Configuration.Overlooked
import Attest.Proofs.Context.Absence
import Attest.Proofs.Context.Diagnosis
import Attest.Proofs.Context.Forwarding
import Attest.Proofs.Context.Linearization
import Attest.Proofs.Context.Outsider
import Attest.Proofs.Context.Truncation
import Attest.Proofs.Options.Composition
import Attest.Proofs.Process.Installation
import Attest.Proofs.Provider.Release
import Attest.Proofs.Signed.Binding
import Attest.Proofs.Signed.Key
import Attest.Proofs.Wire.Resumption
import Attest.Proofs.Wire.Sequence
import Attest.Proofs.Wire.Wraparound
