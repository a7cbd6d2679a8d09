import Steward.Proofs.Action
import Steward.Proofs.Address
import Steward.Proofs.Text.Percent
import Steward.Proofs.Word

/-! Changes from any values. A value that cannot be sent is refused before anything is asked. All
others go into one request, and the outcome tells whether its answer was that of a success. -/

namespace Steward

/-! ## Values -/

namespace Json

def IsSpoken (value : Json) : Prop :=
  ∃ content, value = .text content ∧ Text.isAllBlank content.shown = false

def IsLogin (value : Json) : Prop := ∃ login : String, value = .text login ∧ IsWord login

variable {value : Json}

theorem requireNonBlank_of_spoken (spoken : value.IsSpoken) (field : String) :
    ∃ content, value.requireNonBlank field = .ok content := by
  rcases spoken with ⟨content, spoken⟩
  exact ⟨content, requireNonBlank_eq_ok_iff.mpr spoken⟩

theorem requireNonBlank_of_not_spoken (unspoken : ¬value.IsSpoken) (field : String) :
    value.requireNonBlank field = .error (.missing field) := by
  cases value with
  | text content =>
      cases blank : Text.isAllBlank content.shown with
      | true => simp [requireNonBlank, blank]
      | false => exact absurd ⟨content, rfl, blank⟩ unspoken
  | _ => rfl

theorem requireLogin_of_login (login : value.IsLogin) (field : String) :
    ∃ name, value.requireLogin field = .ok name := by
  rcases login with ⟨name, rfl, word⟩
  exact ⟨name, requireLogin_text word.spoken (IsWord.iff_isSearchWord.mp word)⟩

theorem requireLogin_of_not_spoken (unspoken : ¬value.IsSpoken) (field : String) :
    value.requireLogin field = .error (.missing field) := by
  rw [requireLogin, requireSearchWord, requireNonBlank_of_not_spoken unspoken]
  rfl

theorem requireLogin_of_misspelled (spoken : value.IsSpoken) (misspelled : ¬value.IsLogin)
    (field : String) : value.requireLogin field = .error (.unsafeCharacters field) := by
  rcases requireNonBlank_of_spoken spoken field with ⟨content, passed⟩
  have odd : value.isSearchWord = false := by
    rw [← Bool.not_eq_true, isSearchWord_iff]
    exact misspelled
  rw [requireLogin, requireSearchWord, passed, odd]
  rfl

inductive FirstUnfit (fits : Json → Prop) : List Json → Json → Nat → Prop
  | found {before after : List Json} {item : Json} (fitting : ∀ other ∈ before, fits other)
      (unfit : ¬fits item) : FirstUnfit fits (before ++ item :: after) item before.length

variable {fits : Json → Prop} {items : List Json}

theorem FirstUnfit.unfit {item : Json} {position : Nat}
    (first : FirstUnfit fits items item position) : ¬fits item := by
  rcases first with ⟨-, unfit⟩
  exact unfit

theorem FirstUnfit.mem {item : Json} {position : Nat}
    (first : FirstUnfit fits items item position) : item ∈ items := by
  rcases first
  exact List.mem_append_right _ List.mem_cons_self

theorem exists_firstUnfit (unfit : ¬∀ item ∈ items, fits item) :
    ∃ item position, FirstUnfit fits items item position := by
  induction items with
  | nil => exact absurd nofun unfit
  | cons item rest induction =>
      by_cases fit : fits item
      · have later : ¬∀ other ∈ rest, fits other := fun others =>
          unfit (List.forall_mem_cons.mpr ⟨fit, others⟩)
        rcases induction later with ⟨other, _, ⟨fitting, otherUnfit⟩⟩
        exact ⟨other, _, .found (List.forall_mem_cons.mpr ⟨fit, fitting⟩) otherUnfit⟩
      · exact ⟨item, _, .found (List.forall_mem_nil _) fit⟩

end Json

/-! ## Lists -/

namespace Action

variable {α : Type} {check : Json → String → Except EventFault α} {fits : Json → Prop}
  {name : String}

/-- Items are looked at up to the first that does not fit. -/
theorem checkItems_append {before : List Json}
    (passes : ∀ item ∈ before, ∀ field, ∃ content, check item field = .ok content) (position : Nat)
    (rest : List Json) :
    checkItems check name position (before ++ rest) =
      checkItems check name (position + before.length) rest := by
  induction before generalizing position with
  | nil => rfl
  | cons item before induction =>
      rcases List.forall_mem_cons.mp passes with ⟨first, others⟩
      rcases first s!"{name}[{position}]" with ⟨content, passed⟩
      have later := induction others (position + 1)
      rw [Nat.add_right_comm] at later
      rw [List.cons_append, checkItems, passed, List.length_cons, ← Nat.add_assoc]
      exact later

theorem checkItems_of_fit {items : List Json}
    (passes : ∀ item, fits item → ∀ field, ∃ content, check item field = .ok content)
    (fit : ∀ item ∈ items, fits item) : checkItems check name 0 items = .ok () := by
  rw [← List.append_nil items, checkItems_append fun item member => passes item (fit item member)]
  rfl

theorem checkItems_of_firstUnfit {items : List Json} {item : Json} {position : Nat}
    {fault : EventFault}
    (passes : ∀ item, fits item → ∀ field, ∃ content, check item field = .ok content)
    (first : Json.FirstUnfit fits items item position)
    (refused : check item s!"{name}[{position}]" = .error fault) :
    checkItems check name 0 items = .error (.event fault) := by
  rcases first with ⟨fitting, -⟩
  rw [checkItems_append fun item member => passes item (fitting item member), checkItems,
    Nat.zero_add, refused]
  rfl

section

variable {station : Station} {change : Job Json} {complain : Wording → Job Unit}
  {success : Wording} {items : List Json}

theorem takes_checked_refused {fault : EventFault}
    (stops : checkItems check name 0 items = .error (.event fault))
    (complains : ∀ reason, (complain reason).Takes station (Course.settled (.ok ()))) :
    (guarded (do checkItems check name 0 items; change) complain success).Takes station
      (Course.settled (.ok (.failed fault.message))) := by
  refine takes_guarded_refused (.event fault) ?_ complains
  rw [stops]
  exact .ofExcept ⟨rfl, rfl⟩

theorem takes_checked_asks {request : Request} (passes : checkItems check name 0 items = .ok ())
    (takes : change.Takes station (Course.asks request Service.decode))
    (complains : ∀ reason, (complain reason).Takes station (Course.settled (.ok ()))) :
    (guarded (do checkItems check name 0 items; change) complain success).Takes station
      (Course.asks request fun answer => .ok (Outcome.ofAnswer answer)) :=
  takes_guarded_asks (.liftOk passes takes) complains

end

/-! ## Changes -/

inductive Write where
  | labels (labels : Json)
  | removal (label : Json)
  | assignees (assignees : Json)
  | comment (body : Json)
  | reaction (comment content : Json)

namespace Write

def job (context : Context) : Write → Job Outcome
  | .labels value => addLabels context value
  | .removal value => removeLabel context value
  | .assignees value => addAssignees context value
  | .comment value => postComment context value
  | .reaction target content => addReaction context target content

/-- A change whose values can be sent: labels and texts that say something, and logins. A label that
is removed has no surrogates, as it stands in an address. To what, and with what, one reacts is left
to the service. -/
inductive IsFit : Write → Prop
  | labels {items : List Json} (spoken : ∀ item ∈ items, item.IsSpoken) :
      IsFit (.labels (.list items))
  | removal {label : String} (spoken : Text.isAllBlank label = false) :
      IsFit (.removal (.text label))
  | assignees {items : List Json} (logins : ∀ item ∈ items, item.IsLogin) :
      IsFit (.assignees (.list items))
  | comment {body : Json} (spoken : body.IsSpoken) : IsFit (.comment body)
  | reaction {comment content : Json} : IsFit (.reaction comment content)

/-- What a change is refused with. Of several items at fault the first is named. -/
inductive Refuses : Write → Wording → Prop
  | noLabelList {value : Json} (single : ∀ items, value ≠ .list items) :
      Refuses (.labels value) "labels must be a list"
  | label {items : List Json} {item : Json} {position : Nat}
      (first : Json.FirstUnfit Json.IsSpoken items item position) :
      Refuses (.labels (.list items)) (EventFault.missing s!"labels[{position}]").message
  | removal {label : Json} (unspoken : ¬label.IsSpoken) :
      Refuses (.removal label) (EventFault.missing "label").message
  | surrogates {label : Wording} {fault : Wording.Fault}
      (spoken : Text.isAllBlank label.shown = false) (broken : label.IsBrokenBy fault) :
      Refuses (.removal (.text label)) (surrogateMessage fault)
  | noAssigneeList {value : Json} (single : ∀ items, value ≠ .list items) :
      Refuses (.assignees value) "assignees must be a list"
  | assignee {items : List Json} {item : Json} {position : Nat}
      (first : Json.FirstUnfit Json.IsLogin items item position) (unspoken : ¬item.IsSpoken) :
      Refuses (.assignees (.list items)) (EventFault.missing s!"assignees[{position}]").message
  | misspelled {items : List Json} {item : Json} {position : Nat}
      (first : Json.FirstUnfit Json.IsLogin items item position) (spoken : item.IsSpoken) :
      Refuses (.assignees (.list items))
        (EventFault.unsafeCharacters s!"assignees[{position}]").message
  | comment {body : Json} (unspoken : ¬body.IsSpoken) :
      Refuses (.comment body) (EventFault.missing "comment body").message

inductive Asks (base : String) (context : Context) : Write → Request → Prop
  | labels {labels : Json} :
      Asks base context (.labels labels)
        (.post base s!"{context.repository.issuePath context.number}/labels"
          (.object [("labels", labels)]))
  | removal {label : String} :
      Asks base context (.removal (.text label))
        (.labelRemoval base context.repository context.number label)
  | assignees {assignees : Json} :
      Asks base context (.assignees assignees)
        (.post base s!"{context.repository.issuePath context.number}/assignees"
          (.object [("assignees", assignees)]))
  | comment {body : Json} :
      Asks base context (.comment body)
        (.post base s!"{context.repository.issuePath context.number}/comments"
          (.object [("body", body)]))
  | reaction {comment content : Json} :
      Asks base context (.reaction comment content)
        (.post base (s!"{context.repository.path}/issues/comments/" ++ comment.display ++
            "/reactions")
          (.object [("content", content)]))

variable {write : Write}

theorem Refuses.not_fit {reason : Wording} (refuses : write.Refuses reason) : ¬write.IsFit := by
  intro fit
  cases refuses with
  | noLabelList single | noAssigneeList single =>
      cases fit
      exact single _ rfl
  | label first =>
      cases fit with
      | labels spoken => exact first.unfit (spoken _ first.mem)
  | removal unspoken =>
      cases fit with
      | removal spoken => exact unspoken ⟨_, rfl, spoken⟩
  | surrogates _ broken =>
      cases fit
      cases broken.encodable_eq
  | assignee first | misspelled first =>
      cases fit with
      | assignees logins => exact first.unfit (logins _ first.mem)
  | comment unspoken =>
      cases fit with
      | comment spoken => exact unspoken spoken

theorem refuses_of_not_fit (unfit : ¬write.IsFit) : ∃ reason, write.Refuses reason := by
  cases write with
  | labels value =>
      by_cases several : ∃ items, value = .list items
      · rcases several with ⟨items, rfl⟩
        rcases Json.exists_firstUnfit fun spoken => unfit (.labels spoken) with
          ⟨item, position, first⟩
        exact ⟨_, .label first⟩
      · exact ⟨_, .noLabelList (not_exists.mp several)⟩
  | removal label =>
      by_cases spoken : label.IsSpoken
      · rcases spoken with ⟨content, rfl, spoken⟩
        rcases content.coe_or_isBrokenBy with ⟨text, rfl⟩ | ⟨fault, broken⟩
        · exact absurd (.removal spoken) unfit
        · exact ⟨_, .surrogates spoken broken⟩
      · exact ⟨_, .removal spoken⟩
  | assignees value =>
      by_cases several : ∃ items, value = .list items
      · rcases several with ⟨items, rfl⟩
        rcases Json.exists_firstUnfit fun logins => unfit (.assignees logins) with
          ⟨item, position, first⟩
        by_cases spoken : item.IsSpoken
        · exact ⟨_, .misspelled first spoken⟩
        · exact ⟨_, .assignee first spoken⟩
      · exact ⟨_, .noAssigneeList (not_exists.mp several)⟩
  | comment body => exact ⟨_, .comment fun spoken => unfit (.comment spoken)⟩
  | reaction comment content => exact absurd .reaction unfit

theorem not_fit_iff : ¬write.IsFit ↔ ∃ reason, write.Refuses reason := by
  refine ⟨refuses_of_not_fit, ?_⟩
  intro refused
  rcases refused with ⟨reason, refuses⟩
  exact refuses.not_fit

/-! ## Courses -/

variable {station : Station} {context : Context}

/-- What is refused is refused without a request. -/
theorem takes_refused {reason : Wording} (refuses : write.Refuses reason) :
    (write.job context).Takes station (Course.settled (.ok (.failed reason))) := by
  cases refuses with
  | @noLabelList value single | @noAssigneeList value single =>
      cases value with
      | list items => exact absurd rfl (single items)
      | _ => exact .pure ⟨rfl, rfl⟩
  | label first =>
      exact takes_checked_refused
        (checkItems_of_firstUnfit (fun _ => Json.requireNonBlank_of_spoken) first
          (Json.requireNonBlank_of_not_spoken first.unfit _))
        fun _ => Job.Takes.record _ _
  | removal unspoken =>
      refine takes_guarded_refused (.event (.missing "label")) ?_ fun _ => Job.Takes.record _ _
      rw [Json.requireNonBlank_of_not_spoken unspoken]
      exact .ofExcept ⟨rfl, rfl⟩
  | surrogates spoken broken => exact takes_removeLabel_of_broken spoken broken
  | assignee first unspoken =>
      exact takes_checked_refused
        (checkItems_of_firstUnfit (fun _ => Json.requireLogin_of_login) first
          (Json.requireLogin_of_not_spoken unspoken _))
        fun _ => Job.Takes.record _ _
  | misspelled first spoken =>
      exact takes_checked_refused
        (checkItems_of_firstUnfit (fun _ => Json.requireLogin_of_login) first
          (Json.requireLogin_of_misspelled spoken first.unfit _))
        fun _ => Job.Takes.record _ _
  | comment unspoken =>
      refine takes_guarded_refused (.event (.missing "comment body")) ?_ fun _ =>
        Job.Takes.record _ _
      rw [Json.requireNonBlank_of_not_spoken unspoken]
      exact .ofExcept ⟨rfl, rfl⟩

/-- What fits is asked for once, and the answer decides the outcome. -/
theorem takes_fit (fit : write.IsFit) :
    ∃ request, write.Asks station.service context request ∧
      (write.job context).Takes station
        (Course.asks request fun answer => .ok (Outcome.ofAnswer answer)) := by
  cases fit with
  | labels spoken =>
      exact ⟨_, .labels, takes_checked_asks
        (checkItems_of_fit (fun _ => Json.requireNonBlank_of_spoken) spoken)
        (Service.takes_call _ _ _ _) fun _ => Job.Takes.record _ _⟩
  | removal spoken => exact ⟨_, .removal, takes_removeLabel spoken⟩
  | assignees logins =>
      exact ⟨_, .assignees, takes_checked_asks
        (checkItems_of_fit (fun _ => Json.requireLogin_of_login) logins)
        (Service.takes_call _ _ _ _) fun _ => Job.Takes.record _ _⟩
  | comment spoken =>
      rcases spoken with ⟨body, rfl, spoken⟩
      exact ⟨_, .comment, takes_postComment spoken⟩
  | reaction =>
      exact ⟨_, .reaction,
        takes_guarded_asks (Service.takes_call _ _ _ _) fun _ => Job.Takes.record _ _⟩

/-! ## Runs -/

/-- Whether a change is done or failed is told by the answer to its one request. -/
theorem ofAnswer_tells (answer : Answer) :
    (Outcome.ofAnswer answer = .done ↔ Service.Accepts answer) ∧
      (Outcome.ofAnswer answer ≠ .done → ∃ failure, Service.Denies answer failure ∧
        Outcome.ofAnswer answer = .failed failure.message) := by
  refine ⟨Outcome.ofAnswer_eq_done_iff.trans Service.accepts_iff.symm, fun undone => ?_⟩
  cases decoded : Service.decode answer with
  | ok value => exact absurd (Outcome.ofAnswer_eq_done_iff.mpr ⟨value, decoded⟩) undone
  | error failure =>
      exact ⟨failure, Service.decode_eq_error_iff.mp decoded, congrArg Outcome.ofResult decoded⟩

/-- A label is removed under an address that ends with it. -/
theorem labelRemoval_names (base : String) (repository : Repository) (number : Int)
    (label : String) :
    ∃ segment : String,
      (Request.labelRemoval base repository number label).url =
        (base ++ "/" ++ repository.issuePath number ++ "/labels/" ++ segment : String) ∧
      Text.Percent.decode segment.toList = Text.Utf8.encode label := by
  refine ⟨Text.Percent.encode [] label, ?_, Text.Percent.decode_encode List.not_mem_nil label⟩
  rw [Request.url_labelRemoval]
  refine congrArg (Wording.mk · []) ?_
  rw [← String.toList_inj, Repository.toList_issueAddress]
  simp

/-- No change fails, whatever it is asked for with and whatever is answered, and its outcome is done
exactly if one request was made and taken. What is refused makes none, and the outcome is what it is
refused with; what is not makes one that carries it, and a failed outcome is that of the answer. -/
theorem write_done_iff_taken (context : Context) (write : Write) (station : Station)
    (session : Session) :
    let run := write.job context station session
    let answer := Answer.inTurn session.answers 0
    ∃ outcome, run.1 = .ok outcome ∧
      (outcome = .done ↔ Service.Accepts answer ∧
        ∃ request, run.2.requests = session.requests ++ [request]) ∧
      (¬write.IsFit ↔ ∃ reason, write.Refuses reason) ∧
      (∀ reason, write.Refuses reason →
        outcome = .failed reason ∧ session.Reaches [] run.2) ∧
      (write.IsFit → ∃ request, write.Asks station.service context request ∧
        session.Reaches [⟨request, answer⟩] run.2 ∧
        (∀ label : String, write = .removal (.text label) → ∃ segment : String,
          request.url = (station.service ++ "/" ++ context.repository.issuePath context.number ++
            "/labels/" ++ segment : String) ∧
          Text.Percent.decode segment.toList = Text.Utf8.encode label) ∧
        (outcome ≠ .done →
          ∃ failure, Service.Denies answer failure ∧ outcome = .failed failure.message)) := by
  intro run answer
  by_cases fit : write.IsFit
  · rcases takes_fit fit with ⟨request, asks, takes⟩
    rcases takes session with ⟨exchanges, reached, other, rfl, result⟩
    have inTurn : other = answer := reached.answer_eq
    subst inTurn
    rcases ofAnswer_tells answer with ⟨done, failed⟩
    refine ⟨_, result, ?_, not_fit_iff, fun reason refuses => absurd fit refuses.not_fit,
      fun _ => ⟨request, asks, reached, fun label same => ?_, failed⟩⟩
    · rw [done]
      exact ⟨fun accepts => ⟨accepts, request, reached.requests⟩, And.left⟩
    · subst same
      cases asks
      exact labelRemoval_names _ _ _ _
  · rcases refuses_of_not_fit fit with ⟨reason, refuses⟩
    rcases takes_refused refuses session with ⟨exchanges, reached, rfl, result⟩
    refine ⟨_, result, ?_, not_fit_iff, fun other refusesToo => ?_, fun fits => absurd fits fit⟩
    · refine iff_of_false nofun fun asked => ?_
      rcases asked with ⟨-, request, asked⟩
      have lengths := congrArg List.length (asked.symm.trans reached.requests)
      simp at lengths
    · rcases takes_refused refusesToo session with ⟨_, -, rfl, also⟩
      exact ⟨Except.ok.inj (result.symm.trans also), reached⟩

/-- A label whose name is a lone surrogate is not blank, and still its removal is not asked for. -/
theorem removal_skips_surrogate :
    let label : Json := .text ⟨"", [(0, "")]⟩
    let station : Station := ⟨"on-comment", "https://api.github.com", "token", [], "12:00:00"⟩
    let context : Context := ⟨⟨"hiero", "sdk"⟩, "issues", 7, none, none, none, .standard⟩
    let run := (Write.removal label).job context station (.start [] [])
    Json.read "\"\\ud800\"" = .ok label ∧ label.IsSpoken ∧
      run.1.toOption =
        some (.failed ("'utf-8' codec can't encode character '\\ud800' in position " ++
        "0: surrogates not allowed" : String)) ∧
      run.2.requests = [] := by
  intro label station context run
  refine ⟨rfl, ⟨_, rfl, by decide +kernel⟩, by decide +kernel, ?_⟩
  exact List.isEmpty_iff.mp (by decide +kernel)

end Write

end Action

end Steward
