import PiecewiseLang.Main
import PiecewiseLang.Proofs.Binary64.Positional
import PiecewiseLang.Proofs.Environment.Visibility
import PiecewiseLang.Proofs.Evaluation.Nesting
import PiecewiseLang.Proofs.Evaluation.Printing
import PiecewiseLang.Proofs.Evaluation.Raising
import PiecewiseLang.Proofs.Evaluation.Soundness
import PiecewiseLang.Proofs.Parsing.Acceptance
import PiecewiseLang.Proofs.Parsing.Depth
import PiecewiseLang.Proofs.Parsing.FirstError
import PiecewiseLang.Proofs.Parsing.Phrases
import PiecewiseLang.Proofs.Parsing.Supplies
import PiecewiseLang.Proofs.Repl.Comments
import PiecewiseLang.Proofs.Repl.Completion
import PiecewiseLang.Proofs.Repl.Typing
import PiecewiseLang.Proofs.Session.Copying
import PiecewiseLang.Proofs.Session.Framing
import PiecewiseLang.Proofs.Session.Joining
import PiecewiseLang.Proofs.Settings.Layering
import PiecewiseLang.Proofs.Token.Composition
import PiecewiseLang.Proofs.Token.Respelling
import PiecewiseLang.Proofs.Value.Casting
import PiecewiseLang.Proofs.Value.Reductions
import PiecewiseLang.Proofs.Value.SortKey
