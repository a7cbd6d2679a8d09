import Steward.Context
import Steward.Search
import Steward.Skill
import Steward.Text.Percent

/-! Comments that answer a request for assignment. -/

namespace Steward.Assignment

/-- So many open issues, blocked ones not counted, one may hold at a time. -/
def maximumOpen : Nat := 2

namespace Comment

/-! ## Links -/

def plainMarks : List Char := ['!', '*', '\'', '(', ')']

def searchLink (repository : Repository) (query : String) : String :=
  s!"https://github.com/{repository.owner}/{repository.name}/issues?q=" ++
    Text.Percent.encode plainMarks query

def readyQuery : String := s!"is:issue is:open no:assignee label:\"{Label.readyForDev}\""

def readyLink (repository : Repository) : String :=
  s!"https://github.com/{repository.owner}/{repository.name}/issues?q=" ++
    Text.Percent.encodeQuery readyQuery

def levelQuery (level : SkillLevel) : String :=
  s!"is:issue is:open no:assignee label:\"{level.label}\" label:\"{Label.readyForDev}\""

def assignedQuery (requester : String) (labelClause : String) : String :=
  s!"is:issue is:{Search.openState} assignee:{requester} {labelClause}"

def unblockedClause : String := s!"-label:\"{Label.blocked}\""

def blockedClause : String := s!"label:\"{Label.blocked}\""

/-! ## Welcome -/

def welcome (username : Wording) (level : SkillLevel) (settings : Settings) : Wording :=
  match level with
  | .goodFirstIssue =>
      .ofLines
        ["👋 Hi @" ++ username ++ ", welcome to the " ++ settings.projectName ++
           " community! Thank you for choosing to contribute — we're thrilled to have you here! 🎉",
         "",
         "You've been assigned this **Good First Issue**, and the **Good First Issue Support " ++
           "Team** (" ++ settings.supportTeam ++ ") is ready to help you succeed.",
         "",
         "The issue description above has everything you need: implementation steps, " ++
           "contribution workflow, and links to guides. If anything is unclear, just ask — " ++
           "we're happy to help.",
         "",
         "Good luck, and welcome aboard! 🚀"]
  | level =>
      .ofLines
        ["👋 Hi @" ++ username ++ ", thanks for continuing to contribute to the " ++
           settings.projectName ++
           s!"! You've been assigned this **{level.displayName}** issue. 🙌",
         "",
         "If this task involves any design decisions or you'd like early feedback, feel free to " ++
           "share your plan here before diving into the code.",
         "",
         "Good luck! 🚀"]

/-! ## Assigned issues -/

def login (assignee : Json) : Except Failure Json :=
  return (← assignee.field "login").orElse (.text "")

def logins (issue : Json) : Except Failure (List Json) := do
  let assignees ← issue.field "assignees"
  (← (assignees.orElse (.list [])).elements).mapM login

/-- Whether a name is among others up to case. The walk ends where the name is found. -/
def isNamed (name : Wording) : List Json → Except Failure Bool
  | [] => return false
  | other :: rest => do
      if (← other.requireText "lower").lower = name then return true else isNamed name rest

def holder (logins : List Json) : Wording :=
  match logins with
  | [] => "someone"
  | login :: _ => if login.isTruthy then login.display else "someone"

def alreadyAssigned (requester issue : Json) (repository : Repository) :
    Except Failure Wording := do
  let logins ← logins issue
  let name := (← requester.requireText "lower").lower
  if ← isNamed name logins then
    return .ofLines
      ["👋 Hi @" ++ requester.display ++ "! You're already assigned to this issue. " ++
         "You're all set to start working on it!",
       "",
       "If you have any questions, feel free to ask here or reach out to the team."]
  else
    return .ofLines
      ["👋 Hi @" ++ requester.display ++ "! This issue is already assigned to @" ++
         holder logins ++ ".",
       "",
       "👉 **Find another issue to work on:**",
       s!"[Browse unassigned issues]({readyLink repository})",
       "",
       "Once you find one you like, comment `/assign` to get started!"]

/-! ## Labels that are missing -/

def notReady (requester : Wording) (repository : Repository) : Wording :=
  .ofLines
    ["👋 Hi @" ++ requester ++ "! This issue is not ready for development yet.",
     "",
     s!"Issues must have the `{Label.readyForDev}` label before they can be assigned.",
     "",
     "👉 **Find an issue that's ready:**",
     s!"[Browse ready issues]({readyLink repository})",
     "",
     "Once you find one you like, comment `/assign` to get started!"]

def noSkillLevel (requester : Wording) (settings : Settings) : Wording :=
  .framed
    ["👋 Hi @" ++ requester ++ "! This issue doesn't have a skill level label yet.",
     "",
     settings.maintainerTeam ++ " — could you please add one of the following labels?"]
    (SkillLevel.all.map fun level => s!"- `{level.label}`")
    ["",
     "@" ++ requester ++ ", once a maintainer adds the label, comment `/assign` again to " ++
       "request assignment."]

/-! ## Conditions that are not met -/

/-- Tells what has to be completed first, where `completed` is how much has been. For the easiest
level there is nothing to tell. -/
def prerequisiteNotMet (requester : String) (level : SkillLevel) (completed : String)
    (repository : Repository) : Except Failure String :=
  match level.prerequisite? with
  | none => .error .noPrerequisite
  | some prerequisite =>
      return Text.ofLines
        [s!"👋 Hi @{requester}! Thanks for your interest in contributing!",
         "",
         s!"This is a **{level.displayName}** issue. Before taking it on, you need to complete " ++
           s!"at least **{prerequisite.count} {prerequisite.plural}** to build familiarity with " ++
           "the codebase.",
         "",
         s!"📊 **Your Progress:** You've completed **{completed}** so far.",
         "",
         s!"👉 **Find {prerequisite.plural} to work on:**",
         s!"[Browse available {prerequisite.plural}]" ++
           s!"({searchLink repository (levelQuery prerequisite.level)})",
         "",
         s!"Once you've completed {prerequisite.count}, come back and we'll be happy to assign " ++
           "this to you! 🎯"]

def blockedLines (requester : String) (repository : Repository) (hasBlocked : Bool) :
    List String :=
  if hasBlocked then
    ["",
     "👉 **View your blocked issues:**",
     "[Your blocked issues]" ++
       s!"({searchLink repository (assignedQuery requester blockedClause)})"]
  else []

def limitExceeded (requester held : String) (repository : Repository) (hasBlocked : Bool) :
    String :=
  Text.ofLines (
    [s!"👋 Hi @{requester}! Thanks for your enthusiasm to contribute!",
     "",
     "To help contributors stay focused and ensure issues remain available for others, we limit " ++
       s!"assignments to **{maximumOpen} open issues** at a time. Issues labeled " ++
       s!"`{Label.blocked}` are not counted toward this limit.",
     "",
     s!"📊 **Your Current Assignments:** You're currently assigned to **{held}** open issues.",
     "",
     "👉 **View your assigned issues:**",
     "[Your open assignments]" ++
       s!"({searchLink repository (assignedQuery requester unblockedClause)})"] ++
    blockedLines requester repository hasBlocked ++
    ["",
     "Once you complete or unassign from one of your current issues, come back and we'll be " ++
       "happy to assign this to you! 🎯"])

/-! ## Trouble with the service -/

def serviceError (requester : Wording) (settings : Settings) : Wording :=
  .ofLines
    ["👋 Hi @" ++ requester ++ "! I encountered an error while trying to verify your eligibility " ++
       "for this issue.",
     "",
     settings.maintainerTeam ++ " — could you please help with this assignment request?",
     "",
     "@" ++ requester ++ ", a maintainer will review your request and assign you manually if " ++
       "appropriate. Sorry for the inconvenience!"]

def labelFailure (username : Wording) (error : Wording) (settings : Settings) : Wording :=
  .ofLines
    ["⚠️ @" ++ username ++ " has been successfully assigned to this issue, but I encountered " ++
       "an error updating the labels.",
     "",
     settings.maintainerTeam ++ " — please manually:",
     s!"- Remove the `{Label.readyForDev}` label",
     s!"- Add the `{Label.inProgress}` label",
     "",
     "Error details: " ++ error]

def assignmentFailure (requester : Wording) (error : Wording) (settings : Settings) : Wording :=
  .ofLines
    ["⚠️ Hi @" ++ requester ++ "! I tried to assign you to this issue, but encountered an error.",
     "",
     settings.maintainerTeam ++ " — could you please manually assign @" ++ requester ++
       " to this issue?",
     "",
     "Error details: " ++ error]

end Comment

end Steward.Assignment
