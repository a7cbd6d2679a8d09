import Steward.Bot.Comment
import Steward.Bot.Commit
import Steward.Bot.Review
import Steward.Bot.Signing
import Steward.Settings.Load

/-! The bots, and how one of them is started from its environment. -/

namespace Steward

inductive Bot where
  | comment
  | commit
  | review
  | signing
deriving DecidableEq, Repr

namespace Bot

def all : List Bot := [.comment, .commit, .review, .signing]

def name : Bot → String
  | .comment => Comment.name
  | .commit => Commit.name
  | .review => Review.name
  | .signing => Signing.name

inductive Result where
  | decisions (decisions : List Assignment.Decision)
  | verdicts (verdicts : Commit.Verdicts)
  | label (label : String)
  | passed (passed : Bool)
deriving DecidableEq, Repr

def run (event : Option Event) (settings : Job Settings) : Bot → Job Result
  | .comment => return .decisions (← Comment.run event settings)
  | .commit => return .verdicts (← Commit.run event settings)
  | .review => return .label (← Review.run event settings)
  | .signing => return .passed (← Signing.run event settings)

def start (bot : Bot) : Job Result := do
  let token ← Service.token
  let service := Service.addressFrom (← Job.station).environment
  let event ← Event.load
  (bot.run (some event) Settings.load).movedBy fun station => { station with service, token }

end Bot

end Steward
