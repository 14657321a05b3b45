import LS8.Main
import LS8.Directory
import LS8.Proofs.Step
import LS8.Proofs.Run
import LS8.Proofs.Grammar
import LS8.Proofs.Tiling
import LS8.Proofs.Emission
import LS8.Proofs.Failure
import LS8.Proofs.Execution
import LS8.Proofs.Printing
import LS8.Proofs.BoundedSink
import LS8.Proofs.Limit
import LS8.Proofs.Recurrence
import LS8.Proofs.Reach
import LS8.Proofs.Provenance
import LS8.Proofs.Comparison
import LS8.Proofs.Culprit
import LS8.Proofs.Session
import LS8.Proofs.Codec
import LS8.Proofs.Assembly
import LS8.Proofs.Output
import LS8.Proofs.Status
import LS8.Proofs.Refusal
import LS8.Proofs.Splice
import LS8.Proofs.LineEnds
import LS8.Proofs.Observation
import LS8.Proofs.Block
import LS8.Proofs.Window
import LS8.Proofs.Arithmetic
import LS8.Proofs.Numeral
import LS8.Proofs.Reading
import LS8.Proofs.Positional
import LS8.Proofs.ListingText
import LS8.Proofs.Spelling
import LS8.Proofs.TraceLine
import LS8.Proofs.Lifetime
import LS8.Proofs.Telling
import LS8.Proofs.Concordance
import LS8.Proofs.Files
