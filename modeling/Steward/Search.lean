import Steward.Event
import Steward.Label
import Steward.Service

/-! Searches for the issues that are assigned to somebody, and the counting of what they find. A
count that cannot be verified is never taken for zero. -/

namespace Steward

/-- A search for issues. An empty label asks for none. -/
structure Search where
  owner : String
  repository : String
  username : String
  state : String
  label : Wording
deriving DecidableEq, Repr

namespace Search

def openState : String := "open"

def closedState : String := "closed"

/-- What is asked of the labels. Open issues are looked for without the blocked ones unless a label
is named. -/
def labelClauses (search : Search) : List Wording :=
  if search.label ≠ "" then ["label:\"" ++ search.label ++ "\""]
  else if search.state = openState then [s!"-label:\"{Label.blocked}\""]
  else []

def clauses (search : Search) : List Wording :=
  ([s!"repo:{search.owner}/{search.repository}", "is:issue", s!"is:{search.state}",
    s!"assignee:{search.username}"] : List Wording) ++ search.labelClauses

def query (search : Search) : Wording := .joined " " search.clauses

/-! ## Guard -/

inductive Refusal where
  | words
  | state
  | label
deriving DecidableEq, Repr

def Refusal.reason : Refusal → String
  | .words => "invalid search inputs"
  | .state => "invalid state"
  | .label => "invalid label"

structure Inputs where
  owner : Json
  repository : Json
  username : Json
  state : Json
  label : Json

def label? (value : Json) : Option Wording :=
  if value.isFalsy then some ""
  else
    match value with
    | .text label =>
        if Text.isAllBlank label.shown || label.shown.toList.contains '"' then none
        else some label
    | _ => none

/-- The search that values make. Nothing gets into it that could end its clause. -/
def ofInputs (inputs : Inputs) : Except Refusal Search :=
  if inputs.owner.isSearchWord && inputs.repository.isSearchWord &&
      inputs.username.isSearchWord then
    match inputs.state with
    | .text state =>
        if state = openState || state = closedState then
          match label? inputs.label with
          | some label =>
              .ok ⟨inputs.owner.display.shown, inputs.repository.display.shown,
                inputs.username.display.shown, state.shown, label⟩
          | none => .error .label
        else .error .state
    | _ => .error .state
  else .error .words

def refusalText (inputs : Inputs) : Refusal → String
  | .words =>
      s!"[assign] Invalid search inputs: owner={inputs.owner.literal} " ++
        s!"repo={inputs.repository.literal} username={inputs.username.literal} " ++
        s!"label={inputs.label.literal}"
  | .state => s!"[assign] Invalid state: {inputs.state.literal}"
  | .label => s!"[assign] Invalid label parameter: {inputs.label.literal}"

/-! ## Counting -/

inductive Count where
  | verified (count : Int)
  | unverified (reason : Wording)
deriving DecidableEq, Repr

def countQuery : String :=
  "\nquery ($searchQuery: String!) \x7b\n" ++
    "  search(type: ISSUE, query: $searchQuery) \x7b issueCount \x7d\n\x7d\n"

def summary (search : Search) : Wording :=
  if search.label = "" then s!"{search.state} assigned"
  else
    let state := if search.state = openState then "open" else "completed"
    state ++ " \"" ++ search.label ++ "\""

def countIn (data : Json) : Except Failure Json := do
  let found ← data.orEmpty.field "search"
  found.orEmpty.field "issueCount"

def run (search : Search) : Job Count := do
  Job.info ("[assign] GraphQL search (" ++ search.summary ++ "): " ++ search.query)
  let bindings := Json.object [("searchQuery", .text search.query)]
  match ← Job.attempt (Service.query (.text countQuery) bindings) with
  | .error failure =>
      Job.info (s!"[assign] Failed to count {search.state} issues for {search.username}: " ++
        failure.message)
      return .unverified failure.message
  | .ok data =>
      match ← countIn data with
      | .integer count =>
          if 0 ≤ count then
            Job.info ("[assign] " ++ search.summary ++ s!" issues for {search.username}: {count}")
            return .verified count
          else
            Job.info s!"[assign] Unexpected issueCount for {search.username}: {count}"
            return .unverified "unexpected search response"
      | other =>
          Job.info s!"[assign] Unexpected issueCount for {search.username}: {other.literal}"
          return .unverified "unexpected search response"

def count (inputs : Inputs) : Job Count := do
  match ofInputs inputs with
  | .error refusal =>
      Job.info (refusalText inputs refusal)
      return .unverified refusal.reason
  | .ok search => search.run

end Search

end Steward
