import TextScanner.Scanner.Command
import TextScanner.Stored.Reader
import TextScanner.Stored.Writer
import TextScanner.Proofs.Invariant
import TextScanner.Proofs.Commit
import TextScanner.Proofs.Honesty
import TextScanner.Proofs.Tiling
import TextScanner.Proofs.Speculation
import TextScanner.Proofs.Frame
import TextScanner.Proofs.Traceless
import TextScanner.Proofs.Undo
import TextScanner.Proofs.Pointers
import TextScanner.Proofs.Indifference
import TextScanner.Proofs.Twins
import TextScanner.Proofs.SingleOption
import TextScanner.Proofs.Lookup
import TextScanner.Proofs.Translation
import TextScanner.Proofs.FullReset
import TextScanner.Proofs.Words
import TextScanner.Proofs.StoredForms
import TextScanner.Proofs.FirstDecision
import TextScanner.Proofs.Provenance
import TextScanner.Proofs.Presentation
import TextScanner.Proofs.Enumeration
import TextScanner.Proofs.Subsumption
import TextScanner.Proofs.Progress
import TextScanner.Proofs.Layout
import TextScanner.Proofs.Dumps
import TextScanner.Proofs.Escaping
import TextScanner.Proofs.Rounding
import TextScanner.Proofs.PlainNumbers
import TextScanner.Proofs.DisplayedValues
