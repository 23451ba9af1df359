import Jet.Labelling
import Jet.Main
import Jet.Proofs.Evaluation.Declaration
import Jet.Proofs.Evaluation.HashLiteral
import Jet.Proofs.Evaluation.Logic
import Jet.Proofs.Evaluation.Reach
import Jet.Proofs.Evaluation.Signal
import Jet.Proofs.Evaluation.Unused
import Jet.Proofs.Grammar.Containment
import Jet.Proofs.Grammar.Ending
import Jet.Proofs.Grammar.Height
import Jet.Proofs.Grammar.ProblemOrder
import Jet.Proofs.Grammar.Recovery
import Jet.Proofs.Grammar.Stability
import Jet.Proofs.Session.Bound
import Jet.Proofs.Session.Coverage
import Jet.Proofs.Session.Inspection
import Jet.Proofs.Session.Isolation
import Jet.Proofs.Session.MessageLines
import Jet.Proofs.Session.Silence
import Jet.Proofs.Session.Transcript
import Jet.Proofs.Settings.Document
import Jet.Proofs.Store.Forest
import Jet.Proofs.Token.Quotation
import Jet.Proofs.Token.Sharing
import Jet.Proofs.Value.Comparison
import Jet.Proofs.Value.Overflow
