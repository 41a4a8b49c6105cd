import Sift.Main
import Sift.Selector.Shared
import Sift.Yaml.TaggedValue
import Sift.Proofs.Condition.Laws
import Sift.Proofs.Path.Reach
import Sift.Proofs.Path.Precedence
import Sift.Proofs.Path.RoundTrip
import Sift.Proofs.Version.Accepts
import Sift.Proofs.Condition.Discipline
import Sift.Proofs.Condition.Items
import Sift.Proofs.Path.Likeness
import Sift.Proofs.Yaml.Bare
import Sift.Proofs.Condition.Likeness
import Sift.Proofs.Path.Found
import Sift.Proofs.Yaml.Image
import Sift.Proofs.Path.Spelling
import Sift.Proofs.Path.Readers
import Sift.Proofs.Path.Numbers
import Sift.Proofs.Path.Transitions
import Sift.Proofs.Path.Runs
import Sift.Proofs.Path.Finishes
import Sift.Proofs.Path.Tokenize
import Sift.Proofs.Path.Respelling
import Sift.Proofs.Path.Enclosure
import Sift.Proofs.Path.Rejection
import Sift.Proofs.Path.Counts
import Sift.Proofs.Path.Displayed
import Sift.Proofs.Condition.History
import Sift.Proofs.Condition.Filters
import Sift.Proofs.Condition.Computed
import Sift.Proofs.Path.Joined
import Sift.Proofs.Condition.Addressed
import Sift.Proofs.Version.RoundTrip
import Sift.Proofs.Condition.Rearranged
import Sift.Proofs.Selector.Shared
import Sift.Proofs.Selector.Load
import Sift.Proofs.Version.Bounds
import Sift.Proofs.Version.Precedence
import Sift.Proofs.Version.Uplift
import Sift.Proofs.Version.Displayed
import Sift.Proofs.Path.Descendants
import Sift.Proofs.Path.Slice
import Sift.Proofs.Value.Equality
import Sift.Proofs.Condition.Sets
import Sift.Proofs.Condition.Integers
import Sift.Proofs.Condition.Patterns
import Sift.Proofs.Text.Folding
import Sift.Proofs.Value.Conversion
import Sift.Proofs.Text.Split
import Sift.Proofs.Function.Split
import Sift.Proofs.Path.Places
import Sift.Proofs.Path.Casing
import Sift.Proofs.Function.Integers
import Sift.Proofs.Condition.Listing
import Sift.Proofs.Path.Flat.Tree
import Sift.Proofs.Condition.Subsets
import Sift.Proofs.Condition.Pieces
