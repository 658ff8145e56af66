import TextParsers.Expr.Function
import TextParsers.Expr.Rules
import TextParsers.Main
import TextParsers.Proofs.Runs
import TextParsers.Proofs.Takes
import TextParsers.Proofs.Primitives
import TextParsers.Proofs.Rounds
import TextParsers.Proofs.Suffix
import TextParsers.Proofs.Provenance
import TextParsers.Proofs.Sentences
import TextParsers.Proofs.RoundTrip
import TextParsers.Proofs.Termination
import TextParsers.Proofs.Lossless
import TextParsers.Proofs.Positions
import TextParsers.Proofs.Stalls
import TextParsers.Proofs.Lockstep
import TextParsers.Proofs.Relabelling
import TextParsers.Proofs.ZeroWidth
import TextParsers.Proofs.Legible
import TextParsers.Proofs.Viable
import TextParsers.Proofs.Reports
import TextParsers.Proofs.Canonical
import TextParsers.Proofs.Choices
import TextParsers.Proofs.Repeats
import TextParsers.Proofs.Sequencing
import TextParsers.Proofs.Numbers
import TextParsers.Proofs.Arrays
import TextParsers.Proofs.SelfDelimiting
import TextParsers.Proofs.Separators
import TextParsers.Proofs.Naturality
import TextParsers.Proofs.JoinedLists
import TextParsers.Proofs.Exhaustion
import TextParsers.Proofs.Quoting
import TextParsers.Proofs.Spacing
import TextParsers.Proofs.OutOfRange
import TextParsers.Proofs.Scans
