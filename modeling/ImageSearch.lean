import ImageSearch.Log.Filter
import ImageSearch.Main
import ImageSearch.Proofs.Channel.Isolation
import ImageSearch.Proofs.Scan.Initialization
import ImageSearch.Proofs.Query.Acceptance
import ImageSearch.Proofs.Query.Scanning
import ImageSearch.Proofs.Text.Lowering
import ImageSearch.Proofs.Query.RoundTrip
import ImageSearch.Proofs.Channel.Replies
import ImageSearch.Proofs.Channel.Settlement
import ImageSearch.Proofs.Channel.Ending
import ImageSearch.Proofs.Channel.InTurn
import ImageSearch.Proofs.Channel.Conclusion
import ImageSearch.Proofs.Query.Composition
import ImageSearch.Proofs.Query.IndexedWords
import ImageSearch.Proofs.Scan.Calls
import ImageSearch.Proofs.Document.Persistence
import ImageSearch.Proofs.Channel.Lifecycle
import ImageSearch.Proofs.Query.SoughtWords
import ImageSearch.Proofs.Query.LetterCase
import ImageSearch.Proofs.Channel.Quiescence
import ImageSearch.Proofs.Channel.Reach
import ImageSearch.Proofs.Channel.Stalling
import ImageSearch.Proofs.Scan.Outcome
import ImageSearch.Proofs.Channel.Separation
import ImageSearch.Proofs.Query.Folding
import ImageSearch.Proofs.Query.ErrorPositions
import ImageSearch.Proofs.Document.Items
import ImageSearch.Proofs.Document.NormalForm
import ImageSearch.Proofs.Worker.RequestLines
import ImageSearch.Proofs.Query.Polarity
import ImageSearch.Proofs.Discovery.Repetition
import ImageSearch.Proofs.Configuration.Overrides
import ImageSearch.Proofs.Log.Levels
import ImageSearch.Proofs.Worker.SearchPath
import ImageSearch.Proofs.Channel.OrderedTable
