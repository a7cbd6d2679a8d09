import Steward.Command

/-! The bot that reads comments on issues and follows the commands in them. -/

namespace Steward.Bot.Comment

def name : String := "on-comment"

def complaint (event : Option Event) (failure : Failure) : Wording :=
  let status := (failure.status?.map Json.integer).getD .null
  "Error: " ++ failure.message ++ " (status=" ++ status.display ++
    ", number=" ++ Event.issueNumber event ++ ", commenter=" ++ Event.commenter event ++ ")"

def run (event : Option Event) (settings : Job Settings) : Job (List Assignment.Decision) :=
  Job.named name <|
    Job.onFailure
      (do
        let context ← (Context.ofEvent true event (← settings)).mapError Failure.event
        Command.dispatch context)
      fun failure => Job.error (complaint event failure)

end Steward.Bot.Comment
