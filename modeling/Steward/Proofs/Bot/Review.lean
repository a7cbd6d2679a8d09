import Steward.Bot.Review
import Steward.Proofs.Address
import Steward.Proofs.Context
import Steward.Proofs.Settings
import Steward.Proofs.Text.Lines
import Steward.Proofs.Transition

/-! The bot that prepares a pull request for review. Whatever becomes of the author, it asks for one
label and comes to it. -/

namespace Steward.Bot.Review

/-! ## Assignees -/

inductive IsNamed : Json → Prop
  | nobody : IsNamed .null
  | unnamed {members : List (Wording × Json)} (absent : Json.lookup members "login" = .null) :
      IsNamed (.object members)
  | named {members : List (Wording × Json)} {login : Wording}
      (loginIs : Json.lookup members "login" = .text login) : IsNamed (.object members)

/-- No assignees, or a list of some with names. -/
def AreNamed (assignees : Json) : Prop :=
  assignees.isFalsy = true ∨ ∃ items, assignees = .list items ∧ ∀ item ∈ items, IsNamed item

def IsCalled (login : String) (assignee : Json) : Prop :=
  ∃ other : Wording, Event.valueAt assignee ["login"] = .text other ∧
    other.lower = Text.lower login

theorem lower_ne_lower_empty {login : String} (present : login ≠ "") :
    Text.lower "" ≠ Text.lower login := by
  intro same
  apply present
  have none_ : Text.lowerFrom [] login.toList = [] := String.ofList_injective same.symm
  cases characters : login.toList with
  | nil => exact String.toList_eq_nil_iff.mp characters
  | cons character rest =>
      rw [characters, Text.lowerFrom] at none_
      have lowered := (List.append_eq_nil_iff.mp none_).1
      split at lowered
      · cases lowered
      · split at lowered
        · split at lowered <;> cases lowered
        · cases lowered

/-- The login that is looked at is the assignee's, or empty, which is nobody's. -/
theorem IsNamed.login {assignee : Json} (named : IsNamed assignee) :
    ∃ value other, assignee.orEmpty.field "login" = .ok value ∧
      (value.orElse (.text "")).requireText "lower" = .ok other ∧
      ∀ login ≠ "", other.lower = Text.lower login ↔ IsCalled login assignee := by
  have empty (login : String) (present : login ≠ "") :
      Wording.lower "" ≠ (Text.lower login : Wording) :=
    fun same => lower_ne_lower_empty present (congrArg Wording.text same)
  cases named with
  | nobody =>
      refine ⟨.null, "", rfl, rfl, fun login present => ?_⟩
      exact iff_of_false (empty login present) (by simp [IsCalled])
  | unnamed absent =>
      rw [Json.orEmpty_object, Json.field, absent]
      refine ⟨.null, "", rfl, rfl, fun login present => ?_⟩
      refine iff_of_false (empty login present) ?_
      simp [IsCalled, Event.valueAt_object, absent]
  | @named members own loginIs =>
      rw [Json.orEmpty_object, Json.field, loginIs]
      refine ⟨.text own, own, rfl, ?_, fun login present => ?_⟩
      · rw [Json.orElse_text]
        rfl
      · simp [IsCalled, Event.valueAt_object, loginIs]

theorem isAssigned_eq_ok {login : String} (present : login ≠ "") {items : List Json}
    (named : ∀ item ∈ items, IsNamed item) :
    ∃ found, isAssigned login items = .ok found ∧
      (found = true ↔ ∃ item ∈ items, IsCalled login item) := by
  induction items with
  | nil => exact ⟨false, rfl, by simp⟩
  | cons item rest induction =>
      rcases List.forall_mem_cons.mp named with ⟨first, others⟩
      rcases first.login with ⟨value, other, valueIs, otherIs, called⟩
      rw [isAssigned, valueIs, Except.ok_bind]
      simp only [otherIs, Except.ok_bind, List.mem_cons, exists_eq_or_imp, ← called login present]
      split
      · rename_i same
        exact ⟨true, rfl, by simp [same]⟩
      · rename_i different
        rcases induction others with ⟨found, foundIs, iff_⟩
        exact ⟨found, foundIs, by simp [different, iff_]⟩

/-- Assignees that are walked over are those of the list, if there is one. -/
theorem AreNamed.elements {assignees : Json} (named : AreNamed assignees) :
    ∃ items, (assignees.orElse (.list [])).elements = .ok items ∧ (∀ item ∈ items, IsNamed item) ∧
      ∀ item, item ∈ items ↔ ∃ list, assignees = .list list ∧ item ∈ list := by
  rcases named with absent | ⟨items, rfl, named⟩
  · rw [Json.orElse_of_falsy absent]
    refine ⟨[], rfl, nofun, fun item => iff_of_false nofun ?_⟩
    intro listed
    rcases listed with ⟨list, rfl, member⟩
    cases list with
    | nil => cases member
    | cons first rest => cases absent
  · rw [Json.orElse_list]
    exact ⟨items, rfl, named, by simp⟩

/-! ## The author -/

structure IsAuthor (pull : Json) (login : String) : Prop where
  present : (Event.valueAt pull ["user"]).isFalsy = false
  loginIs : Event.valueAt pull ["user", "login"] = .text login

structure IsUnassigned (pull : Json) (login : String) : Prop extends IsAuthor pull login where
  missing : ∀ assignees, Event.valueAt pull ["assignees"] = .list assignees →
    ∀ assignee ∈ assignees, ¬IsCalled login assignee

theorem IsAuthor.unique {pull : Json} {first second : String} (author : IsAuthor pull first)
    (other : IsAuthor pull second) : first = second :=
  Json.eq_of_text (author.loginIs.symm.trans other.loginIs)

theorem IsAuthor.of_user {pull user : List (Wording × Json)} {login : String}
    (userIs : Json.lookup pull "user" = .object user)
    (loginIs : Json.lookup user "login" = .text login) : IsAuthor (.object pull) login where
  present := by
    rw [Event.valueAt_object, userIs]
    cases user with
    | nil => cases loginIs
    | cons member rest => rfl
  loginIs := by
    rw [Event.valueAt_cons, Event.valueAt_object, userIs, Event.valueAt_object, loginIs]

theorem IsAuthor.of_pulled {context : Context} {pull : List (Wording × Json)}
    (pulled : context.Pulled pull)
    (present : (Event.valueAt (.object pull) ["user"]).isFalsy = false) :
    ∃ login, IsAuthor (.object pull) login := by
  rcases pulled.author with absent | ⟨user, login, userIs, loginIs, -⟩
  · rw [Event.valueAt_object, absent] at present
    cases present
  · exact ⟨login, .of_user userIs loginIs⟩

def passOver : Job Bool := do
  Job.info "Exit: missing pull request author"
  return false

def assignNamed (context : Context) (login : String) : Job Bool := do
  Job.info s!"Processing PR #{context.number} by {login}"
  let assignees := (← (Context.part context.pull).field "assignees").orElse (.list [])
  if ← isAssigned login (← assignees.elements) then
    Job.info s!"Author {login} is already assigned"
    return false
  return (← Action.addAssignees context (.list [.text login])).isDone

section

variable {context : Context} {pull user : List (Wording × Json)} {login : String}

theorem assignAuthor_none (none_ : context.pull = none) : assignAuthor context = passOver := by
  unfold assignAuthor
  rw [none_]
  rfl

theorem assignAuthor_absent (pulled : context.Pulled pull)
    (absent : (Json.lookup pull "user").isFalsy = true) : assignAuthor context = passOver := by
  unfold assignAuthor
  rw [pulled.part_eq]
  simp only [Json.orEmpty_object, Json.field, Job.lift_ok_bind]
  rw [Json.orEmpty, Json.orElse_of_falsy absent]
  rfl

/-- A context has no author whom a request could not name. -/
theorem assignAuthor_present (pulled : context.Pulled pull)
    (userIs : Json.lookup pull "user" = .object user)
    (loginIs : Json.lookup user "login" = .text login) (spoken : Text.isAllBlank login = false)
    (word : (Json.text login).isSearchWord = true) :
    assignAuthor context = assignNamed context login := by
  unfold assignAuthor assignNamed
  rw [pulled.part_eq]
  simp only [Json.orEmpty_object, Json.field, Job.lift_ok_bind, userIs, loginIs,
    Json.isFalsy_text login spoken, Json.requireLogin_text spoken word]
  rfl

end

/-! ## Courses -/

section

variable {station : Station} {context : Context} {pull : List (Wording × Json)}

/-- At most the author is made an assignee, and nothing fails. -/
inductive AuthorCourse (base : String) (context : Context) : Course Bool
  | stays {assigned : Bool}
      (unwanted : ∀ login, ¬IsUnassigned (Context.part context.pull) login) :
      AuthorCourse base context [] (.ok assigned)
  | assigns {login : String} {answer : Answer} {assigned : Bool}
      (unassigned : IsUnassigned (Context.part context.pull) login) :
      AuthorCourse base context
        [⟨.assignees base context.repository context.number [login], answer⟩] (.ok assigned)

theorem takes_passOver (absent : ∀ login, ¬IsAuthor (Context.part context.pull) login) :
    passOver.Takes station (AuthorCourse station.service context) :=
  .info (.pure (.stays fun login unassigned => absent login unassigned.toIsAuthor))

theorem takes_assignNamed {login : String} (pulled : context.Pulled pull)
    (author : IsAuthor (.object pull) login) (spoken : Text.isAllBlank login = false)
    (word : (Json.text login).isSearchWord = true)
    (named : AreNamed (Json.lookup pull "assignees")) :
    (assignNamed context login).Takes station (AuthorCourse station.service context) := by
  have present : login ≠ "" := by
    intro empty
    subst empty
    cases spoken
  unfold assignNamed
  rw [pulled.part_eq]
  refine .info (.liftOk rfl ?_)
  rcases named.elements with ⟨items, itemsAre, named, members⟩
  rcases isAssigned_eq_ok present named with ⟨found, foundIs, called⟩
  refine .liftOk itemsAre (.liftOk foundIs ?_)
  cases found with
  | true =>
      refine .info (.pure (.stays fun other unassigned => ?_))
      rw [pulled.part_eq] at unassigned
      rcases called.mp rfl with ⟨item, member, calledItem⟩
      rcases (members item).mp member with ⟨list, listIs, inList⟩
      rw [author.unique unassigned.toIsAuthor] at calledItem
      exact unassigned.missing list listIs item inList calledItem
  | false =>
      refine .askOk (Action.takes_addAssignees spoken word) fun answer => .pure (.assigns ?_)
      rw [pulled.part_eq]
      refine ⟨author, fun list listIs item member calledItem => ?_⟩
      cases called.mpr ⟨item, (members item).mpr ⟨list, listIs, member⟩, calledItem⟩

theorem takes_assignAuthor (pulled : context.Pulled pull)
    (named : AreNamed (Json.lookup pull "assignees")) :
    (assignAuthor context).Takes station (AuthorCourse station.service context) := by
  rcases pulled.author with absent | ⟨user, login, userIs, loginIs, spoken, word⟩
  · rw [assignAuthor_absent pulled absent]
    refine takes_passOver fun login author => ?_
    rw [pulled.part_eq] at author
    cases author.present.symm.trans absent
  · rw [assignAuthor_present pulled userIs loginIs spoken word]
    exact takes_assignNamed pulled (.of_user userIs loginIs) spoken word named

theorem Reports.label_spoken (reports : Reports) : Text.isAllBlank reports.label = false := by
  unfold label
  split <;> decide

theorem labelFailureComment_spoken (label : String) (error : Wording) (settings : Settings) :
    Text.isAllBlank (labelFailureComment label error settings).shown = false :=
  Wording.isAllBlank_ofLines (by decide)

def labelFailure (label : String) (reason : Wording) : Wording :=
  s!"Failed to add \"{label}\" label: " ++ reason

inductive LabelCourse (base : String) (context : Context) (label : String)
    (comment : Wording → Wording) : List Exchange → Prop
  | labelled {answer : Answer} (accepts : Service.Accepts answer) :
      LabelCourse base context label comment
        [⟨.labelAddition base context.repository context.number [label], answer⟩]
  | unlabelled {answer posted : Answer} {failure : Failure}
      (denies : Service.Denies answer failure) :
      LabelCourse base context label comment
        [⟨.labelAddition base context.repository context.number [label], answer⟩,
          ⟨.comment base context.repository context.number
            (comment (labelFailure label failure.message)), posted⟩]

theorem takes_applyAndReport {label : String} {comment : Wording → Wording}
    (spoken : Text.isAllBlank label = false)
    (commentSpoken : ∀ error, Text.isAllBlank (comment error).shown = false) :
    (Transition.applyAndReport context comment [.text label] []).Takes station
      (Course.succeeds fun exchanges _ =>
        LabelCourse station.service context label comment exchanges) := by
  unfold Transition.applyAndReport Transition.apply Transition.removeAll
  simp only [pure_bind, bind_assoc]
  have spoken : Text.isAllBlank (label : Wording).shown = false := spoken
  apply Job.Takes.askOk (Transition.takes_addAll spoken)
  intro answer
  apply Job.Takes.bind (Transition.takes_report (commentSpoken _))
  · intro exchanges value reported
    rcases reported with ⟨-, reported⟩
    refine .pure (Course.after_end.mpr ⟨_, rfl, ?_⟩)
    cases decoded : Service.decode answer with
    | ok value =>
        have done : Outcome.ofAnswer answer = .done := congrArg Outcome.ofResult decoded
        rw [done] at reported
        rw [show exchanges = [] from reported]
        exact .labelled (Service.accepts_iff.mpr ⟨value, decoded⟩)
    | error failure =>
        have failed : Outcome.ofAnswer answer = .failed failure.message :=
          congrArg Outcome.ofResult decoded
        rw [failed] at reported
        rcases reported with ⟨posted, rfl⟩
        exact .unlabelled (Service.decode_eq_error_iff.mp decoded)
  · intro exchanges failure reported
    cases reported.1

inductive PrepareCourse (base : String) (context : Context) (label : String) : Course String
  | prepared {first second : List Exchange} {assigned : Bool}
      (author : AuthorCourse base context first (.ok assigned))
      (labels : LabelCourse base context label
        (labelFailureComment label · context.settings) second) :
      PrepareCourse base context label (first ++ second) (.ok label)

theorem takes_prepare (pulled : context.Pulled pull)
    (named : AreNamed (Json.lookup pull "assignees")) :
    (prepare context).Takes station (PrepareCourse station.service context
      (Reports.ofEnvironment station.environment).label) := by
  unfold prepare
  apply Job.Takes.bind (takes_assignAuthor pulled named)
  · intro first assigned author
    refine .atStation (.info ?_)
    apply Job.Takes.bindOk (takes_applyAndReport (Reports.label_spoken _)
      fun error => labelFailureComment_spoken _ error _)
    intro second transition labels
    exact .info (.pure (Course.after_end.mpr (.prepared author labels)))
  · intro first failure author
    cases author

/-- A pull request that is accepted is prepared, whatever is answered. -/
theorem takes_run {event : Option Event} {source : Settings.Source} {session : Session}
    {known : Settings} (settingsAre : source.read name station session = .ok known)
    (accepted : Context.ofEvent true event known = .ok context) (pulled : context.Pulled pull)
    (named : AreNamed (Json.lookup pull "assignees")) :
    (run event source.job).TakesFrom station session (PrepareCourse station.service context
      (Reports.ofEnvironment station.environment).label) := by
  refine .named (.onFailure (source.takesFrom_context ?_ ?_) fun failure => Job.Takes.record _ _)
  · intro other otherContext otherSettings otherAccepted
    cases settingsAre.symm.trans otherSettings
    cases accepted.symm.trans otherAccepted
    exact takes_prepare pulled named
  · intro unaccepted
    exact absurd accepted (unaccepted known context settingsAre)

end

/-! ## Labels -/

section

variable {base label : String} {context : Context} {comment : Wording → Wording}
  {exchanges : List Exchange}

theorem AuthorCourse.posting_labels {result : Except Failure Bool}
    (author : AuthorCourse base context exchanges result) :
    Exchange.posting "/labels" exchanges = [] := by
  cases author with
  | stays => rfl
  | assigns =>
      have ends := context.repository.toList_issueAddress base context.number "/assignees"
      apply Exchange.posting_cons_of_not
      rw [Request.posts_of_ends rfl (congrArg Wording.shown (Request.url_assignees _)) ends]
      rfl

theorem LabelCourse.posting_labels
    (labels : LabelCourse base context label comment exchanges) :
    ∃ answer, Exchange.posting "/labels" exchanges =
      [⟨.labelAddition base context.repository context.number [label], answer⟩] := by
  have ends := context.repository.toList_issueAddress base context.number "/labels"
  have adds :
      (Request.labelAddition base context.repository context.number [label]).posts "/labels" =
        true := by
    rw [Request.posts_of_ends rfl (congrArg Wording.shown (Request.url_labelAddition _)) ends]
    rfl
  cases labels with
  | @labelled answer accepts =>
      exact ⟨answer, Exchange.posting_cons_of_posts adds⟩
  | @unlabelled answer posted failure denies =>
      refine ⟨answer, ?_⟩
      rw [Exchange.posting_cons_of_posts adds, Exchange.posting_cons_of_not]
      · rfl
      · rw [Request.posts_comment]
        rfl

/-- The one label that is asked for is what a run comes to. -/
theorem PrepareCourse.labels {result : Except Failure String}
    (course : PrepareCourse base context label exchanges result) :
    result = .ok label ∧ ∃ answer, Exchange.posting "/labels" exchanges =
      [⟨.labelAddition base context.repository context.number [label], answer⟩] := by
  cases course with
  | prepared author labels =>
      rw [Exchange.posting_append, author.posting_labels]
      exact ⟨rfl, labels.posting_labels⟩

end

theorem Reports.label_eq_needsReview_iff {reports : Reports} :
    reports.label = Label.needsReview ↔
      reports = ⟨some "success", some "success", some "success"⟩ := by
  have different : Label.needsRevision ≠ Label.needsReview := by decide
  unfold label
  split <;> simp_all

theorem Reports.label_eq_or (reports : Reports) :
    reports.label = Label.needsReview ∨ reports.label = Label.needsRevision := by
  unfold label
  split
  · exact .inl rfl
  · exact .inr rfl

end Steward.Bot.Review
