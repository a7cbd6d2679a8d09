import Mathlib.Data.Finset.Card
import Steward.Proofs.Request
import Steward.Proofs.Search
import Steward.Proofs.Tracker.Query

/-! A tracker is what the service keeps of the issues of one repository. It counts them, changes
them when it is asked to, and may fail to do either. -/

namespace Steward

/-! ## Names -/

/-- The repository of a tracker, the address at which it is served, and the form in which names of
labels and of people are compared: as they are, or in lower case. -/
structure Site where
  base : String
  repository : Repository
  form : String → String
  apart : form Label.readyForDev ≠ form Label.blocked

namespace Site

def caseless (base : String) (repository : Repository) : Site :=
  ⟨base, repository, Text.lower, by decide +kernel⟩

def Has (site : Site) (names : Finset String) (name : String) : Prop :=
  ∃ other ∈ names, site.form other = site.form name

instance (site : Site) (names : Finset String) (name : String) : Decidable (site.Has names name) :=
  inferInstanceAs (Decidable (∃ other ∈ names, site.form other = site.form name))

end Site

/-! ## Issues -/

structure Issue where
  isOpen : Bool
  labels : Finset String
  assignees : Finset String

namespace Issue

/-- Somebody holds an issue that is assigned to them while it is open, unless it is blocked. -/
structure IsHeldBy (site : Site) (issue : Issue) (login : String) : Prop where
  stillOpen : issue.isOpen = true
  free : ¬site.Has issue.labels Label.blocked
  assigned : site.Has issue.assignees login

instance (site : Site) (issue : Issue) (login : String) : Decidable (issue.IsHeldBy site login) :=
  decidable_of_iff (issue.isOpen = true ∧ ¬site.Has issue.labels Label.blocked ∧
      site.Has issue.assignees login)
    ⟨fun ⟨stillOpen, free, assigned⟩ => ⟨stillOpen, free, assigned⟩,
      fun held => ⟨held.stillOpen, held.free, held.assigned⟩⟩

def close (issue : Issue) : Issue := { issue with isOpen := false }

def assign (logins : List String) (issue : Issue) : Issue :=
  { issue with assignees := issue.assignees ∪ logins.toFinset }

def unassign (login : String) (issue : Issue) : Issue :=
  { issue with assignees := issue.assignees.erase login }

def addLabels (names : List String) (issue : Issue) : Issue :=
  { issue with labels := issue.labels ∪ names.toFinset }

def removeLabel (site : Site) (name : String) (issue : Issue) : Issue :=
  { issue with labels := issue.labels.filter fun other => site.form other ≠ site.form name }

end Issue

def Clause.Holds (site : Site) (issue : Issue) : Clause → Prop
  | .repository path => path = site.repository.owner ++ "/" ++ site.repository.name
  | .issues => True
  | .isOpen => issue.isOpen = true
  | .isClosed => issue.isOpen = false
  | .assignee login => site.Has issue.assignees login
  | .label name => site.Has issue.labels name
  | .unlabelled name => ¬site.Has issue.labels name

instance (site : Site) (issue : Issue) : DecidablePred (Clause.Holds site issue)
  | .repository path =>
      inferInstanceAs (Decidable (path = site.repository.owner ++ "/" ++ site.repository.name))
  | .issues => inferInstanceAs (Decidable True)
  | .isOpen => inferInstanceAs (Decidable (issue.isOpen = true))
  | .isClosed => inferInstanceAs (Decidable (issue.isOpen = false))
  | .assignee login => inferInstanceAs (Decidable (site.Has issue.assignees login))
  | .label name => inferInstanceAs (Decidable (site.Has issue.labels name))
  | .unlabelled name => inferInstanceAs (Decidable (¬site.Has issue.labels name))

/-! ## Trackers -/

structure Tracker where
  numbers : Finset Nat
  issue : Nat → Issue

namespace Tracker

def count (site : Site) (tracker : Tracker) (clauses : List Clause) : Nat :=
  (tracker.numbers.filter fun number =>
    ∀ clause ∈ clauses, clause.Holds site (tracker.issue number)).card

def held (site : Site) (tracker : Tracker) (login : String) : Nat :=
  (tracker.numbers.filter fun number => (tracker.issue number).IsHeldBy site login).card

def update (number : Nat) (change : Issue → Issue) (tracker : Tracker) : Tracker :=
  { tracker with
    issue := fun other =>
      if other = number then change (tracker.issue other) else tracker.issue other }

end Tracker

/-! ## Requests -/

inductive Change where
  | assign (number : Nat) (logins : List String)
  | addLabels (number : Nat) (names : List String)
  | removeLabel (number : Nat) (name : String)

namespace Change

def request (site : Site) : Change → Request
  | .assign number logins =>
      .assignees site.base site.repository number
        (logins.map fun login : String => (login : Wording))
  | .addLabels number names =>
      .labelAddition site.base site.repository number
        (names.map fun name : String => (name : Wording))
  | .removeLabel number name => .labelRemoval site.base site.repository number name

def apply (site : Site) (tracker : Tracker) : Change → Tracker
  | .assign number logins => tracker.update number (Issue.assign logins)
  | .addLabels number names => tracker.update number (Issue.addLabels names)
  | .removeLabel number name => tracker.update number (Issue.removeLabel site name)

end Change

inductive Answer.IsError : Answer → Prop
  | rejected {status : Int} {body : String} (bad : 400 ≤ status) : IsError (.reply status body)
  | refused {reason : String} : IsError (.refusal reason)

namespace Tracker

/-- What an exchange does to a tracker. A change that is asked for is made wholly or not at all, and
the answer to it can be any. The answer to a count is true, or an error. -/
inductive Serves (site : Site) : Tracker → Exchange → Tracker → Prop
  | changed {tracker : Tracker} {exchange : Exchange} (change : Change)
      (asked : exchange.request = change.request site) :
      Serves site tracker exchange (change.apply site tracker)
  | unchanged {tracker : Tracker} {exchange : Exchange}
      (truthful : ∀ query clauses, exchange.request = .count site.base query →
        Query.clauses? query = some clauses →
          exchange.answer.IsError ∨ exchange.answer.Tells (tracker.count site clauses)) :
      Serves site tracker exchange tracker

inductive ServesAll (site : Site) : Tracker → List Exchange → Tracker → Prop
  | nil {tracker : Tracker} : ServesAll site tracker [] tracker
  | cons {before middle after : Tracker} {exchange : Exchange} {rest : List Exchange}
      (first : Serves site before exchange middle) (others : ServesAll site middle rest after) :
      ServesAll site before (exchange :: rest) after

end Tracker

end Steward
