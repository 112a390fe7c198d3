import Conform.Main
import Conform.Proofs.Command.Overrides
import Conform.Proofs.Guard.Address
import Conform.Proofs.Guard.Enclosure
import Conform.Proofs.Guard.Laziness
import Conform.Proofs.Guard.Merging
import Conform.Proofs.Guard.Number
import Conform.Proofs.Guard.Optional
import Conform.Proofs.Guard.Order
import Conform.Proofs.Guard.Reports
import Conform.Proofs.Match.Alike
import Conform.Proofs.Match.Collecting
import Conform.Proofs.Match.Plugins
import Conform.Proofs.Match.Root
import Conform.Proofs.Match.TypeGuard
import Conform.Proofs.Match.Weakening
import Conform.Proofs.Registry.Binding
import Conform.Proofs.Schema.Enclosing
import Conform.Proofs.Schema.Matching
import Conform.Proofs.Schema.Position
import Conform.Proofs.Schema.Ranges
import Conform.Proofs.Schema.Separator
import Conform.Proofs.Schema.Tokenization
import Conform.Proofs.Schema.WellFormed
import Conform.Proofs.Session.Agreement
import Conform.Proofs.Session.Recall
import Conform.Proofs.Time.Timestamp
import Conform.Proofs.Value.Equivalence
