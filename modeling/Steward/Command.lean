import Steward.Assignment
import Steward.Text.Variant

/-! Commands in comments. A comment is a command or it is none: nothing but blanks may stand around
the command. -/

namespace Steward

inductive Command where
  | assign
deriving DecidableEq, Repr

namespace Command

def all : List Command := [.assign]

def name : Command → String
  | .assign => "assign"

def word (command : Command) : String := "/" ++ command.name

def isGivenBy (comment : String) (command : Command) : Bool :=
  Text.areVariants command.word.toList (Text.strip comment.toList)

def ofComment? (comment : String) : Option Command := all.find? (isGivenBy comment)

def shownLength : Nat := 80

/-- The commands in the body of a comment. A body that is no text has none. -/
def detect : Json → Job (List Command)
  | .text body =>
      match ofComment? body.shown with
      | some command => do
          Job.info s!"parse_comment: detected {command.word}"
          return [command]
      | none => do
          Job.info s!"parse_comment: no known command {Text.quoted (body.take shownLength)}"
          return []
  | _ => return []

def run (context : Context) : Command → Job Assignment.Decision
  | .assign => Assignment.handle context

def dispatch (context : Context) : Job (List Assignment.Decision) := do
  let comment := Context.part context.comment
  let user := (← comment.orEmpty.field "user").orEmpty
  if (← user.field "login").isFalsy then
    Job.info "Exit: missing comment user login"
    return []
  if (← user.field "type").text? = some "Bot" then
    Job.info "Exit: comment authored by bot"
    return []
  let commands ← detect (← comment.field "body")
  if commands.isEmpty then
    Job.info "Exit: no known command"
    return []
  commands.mapM (run context)

end Command

end Steward
