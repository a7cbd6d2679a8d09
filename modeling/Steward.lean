import Steward.Main
import Steward.Proofs.Assignment.Trail
import Steward.Proofs.Bot.Commit
import Steward.Proofs.Tracker.History
import Steward.Proofs.Assignment.Failure
import Steward.Proofs.Bot.Indifference
import Steward.Proofs.Bot.Signing
import Steward.Proofs.Bot.Signing.Consistency
import Steward.Proofs.Bot.Pipeline
import Steward.Proofs.Search.Guard
import Steward.Proofs.Search.Clauses
import Steward.Proofs.Commit.Signoff.Line
import Steward.Proofs.Context.Guarded
import Steward.Proofs.Bot.Ledger
import Steward.Proofs.Commit.Paging
import Steward.Proofs.Conflict.Polling
import Steward.Proofs.Transition.Attempt
import Steward.Proofs.Bot.Review.Trail
import Steward.Proofs.Action.Write
import Steward.Proofs.Commit.Rendering
import Steward.Proofs.Assignment.Taken
import Steward.Proofs.Assignment.Limit
import Steward.Proofs.Label.Likeness
import Steward.Proofs.Command.Phrase
import Steward.Proofs.Address.Encoding
import Steward.Proofs.Settings.Reading
