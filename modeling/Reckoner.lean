import Reckoner.Grammar
import Reckoner.Main
import Reckoner.Proofs.Evaluation.Settling
import Reckoner.Proofs.Tree.Words
import Reckoner.Proofs.Tree.Meaning
import Reckoner.Proofs.Tree.Attach
import Reckoner.Proofs.Check.Derivation
import Reckoner.Proofs.Check.Prefix
import Reckoner.Proofs.Agreement
import Reckoner.Proofs.Calculation
import Reckoner.Proofs.Check.FirstFault
import Reckoner.Proofs.Check.Completion
import Reckoner.Proofs.Relocation
import Reckoner.Proofs.Spacing
import Reckoner.Proofs.CommandLine.Batch
import Reckoner.Proofs.Arithmetic.Parity
import Reckoner.Proofs.Evaluation.Run
import Reckoner.Proofs.Evaluation.LeadingSign
import Reckoner.Proofs.Evaluation.Conservation
import Reckoner.Proofs.Evaluation.Characters
import Reckoner.Proofs.Evaluation.Places
import Reckoner.Proofs.Evaluation.Parentheses
import Reckoner.Proofs.Check.DigitLimit
import Reckoner.Proofs.ForeignCharacter
import Reckoner.Proofs.Evaluation.Order
import Reckoner.Proofs.Evaluation.Grouping
import Reckoner.Proofs.Evaluation.Alternation
import Reckoner.Proofs.Evaluation.Depth
import Reckoner.Proofs.Arithmetic.Naturals
import Reckoner.Proofs.Literals
import Reckoner.Proofs.Arithmetic.Squaring
import Reckoner.Proofs.Cursor
import Reckoner.Proofs.Arithmetic.Order
import Reckoner.Proofs.Clamping
import Reckoner.Proofs.Arithmetic.Magnitude
import Reckoner.Proofs.Arithmetic.NotANumber
import Reckoner.Proofs.Evaluation.Applications
import Reckoner.Proofs.Indeterminate
