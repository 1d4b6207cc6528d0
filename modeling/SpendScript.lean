import SpendScript.Scenario
import SpendScript.Proofs.Hex
import SpendScript.Proofs.Numeral
import SpendScript.Proofs.Value
import SpendScript.Proofs.Parity
import SpendScript.Proofs.KeyHashLock
import SpendScript.Proofs.Bytes
import SpendScript.Proofs.Curve.Encoding
import SpendScript.Proofs.Curve.Der
import SpendScript.Proofs.MultisigLock
import SpendScript.Proofs.Restriction
import SpendScript.Proofs.HonestSpend
import SpendScript.Proofs.Locality
import SpendScript.Proofs.Failure
import SpendScript.Proofs.StackEffect
import SpendScript.Proofs.Provenance
import SpendScript.Proofs.Analysis
import SpendScript.Proofs.WrittenForm
import SpendScript.Proofs.Fusion
import SpendScript.Proofs.Answers
import SpendScript.Proofs.Blame
import SpendScript.Proofs.Grammar
import SpendScript.Proofs.ManySignatures
import SpendScript.Proofs.MessageDigest
import SpendScript.Proofs.Arithmetic
import SpendScript.Proofs.Canonical
import SpendScript.Proofs.Curve.Forms
import SpendScript.Proofs.CaseBlind
import SpendScript.Proofs.Scenario
