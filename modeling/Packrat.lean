import Packrat.CommandLine
import Packrat.Combinator.Lookahead
import Packrat.Diagnostic.Plain
import Packrat.Main
import Packrat.Workspace
import Packrat.Proofs.Scheduler.History
import Packrat.Proofs.Scheduler.Continuations
import Packrat.Proofs.Evaluation
import Packrat.Proofs.Scheduler.Soundness
import Packrat.Proofs.Scheduler.Refinement
import Packrat.Proofs.Grammar.Resolution
import Packrat.Proofs.Grammar.Tidy
import Packrat.Proofs.Combinator.Adequacy
import Packrat.Proofs.Combinator.Agreement
import Packrat.Proofs.Combinator.Behaviour
import Packrat.Proofs.Combinator.Bounds
import Packrat.Proofs.Grammar.SharingKey
import Packrat.Proofs.Grammar.Ledger
import Packrat.Proofs.Grammar.Standing
import Packrat.Proofs.Grammar.Accounting
import Packrat.Proofs.Grammar.Books
import Packrat.Proofs.Meaning
import Packrat.Proofs.Grammar.Meaning
import Packrat.Proofs.Scheduler.Confinement
import Packrat.Proofs.Grammar.Containment
import Packrat.Proofs.Grammar.WellFormed
import Packrat.Proofs.Spans
import Packrat.Proofs.Transparency
import Packrat.Proofs.Termination
import Packrat.Proofs.Spinning
import Packrat.Proofs.Grammar.Recall
import Packrat.Proofs.Stability
import Packrat.Proofs.Grammar.Failure
import Packrat.Proofs.Sharing
import Packrat.Proofs.Unfolding
import Packrat.Proofs.Translation
import Packrat.Proofs.LeftRecursion
import Packrat.Proofs.WholeInput
import Packrat.Proofs.Grammar.Lettering
import Packrat.Proofs.Grammar.WholeInput
import Packrat.Proofs.Scheduler.Nesting
import Packrat.Proofs.Scheduler.Conclusion
import Packrat.Proofs.Pattern.Greedy
import Packrat.Proofs.Leaves
import Packrat.Proofs.Combinator.OrderedChoice
import Packrat.Proofs.Diagnostic
import Packrat.Proofs.StepLimit
import Packrat.Proofs.Demand
import Packrat.Proofs.DirectRecursion
import Packrat.Proofs.Calculator.Completeness
import Packrat.Proofs.Calculator.Resolution
import Packrat.Proofs.Combinator.Ranges
import Packrat.Proofs.Combinator.TooFew
import Packrat.Proofs.Grammar.Sightings
import Packrat.Proofs.Combinator.Repetition
import Packrat.Proofs.Combinator.Unrolling
import Packrat.Proofs.Defined
import Packrat.Proofs.Unrolling
import Packrat.Proofs.Calculator.Evaluation
import Packrat.Proofs.Workspace.Runs
import Packrat.Proofs.ParseError
import Packrat.Proofs.Diagnostic.Underlines
import Packrat.Proofs.Diagnostic.Highlights
import Packrat.Proofs.Text.Bytes
