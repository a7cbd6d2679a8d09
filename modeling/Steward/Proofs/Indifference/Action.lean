import Steward.Bot
import Steward.Proofs.Address
import Steward.Proofs.Indifference
import Steward.Proofs.Transition

/-! Actions of the bots, by what they do with the answers to them. Those to comments and reactions
make no difference to any bot, and those to assignments none to the bot that prepares for review. -/

namespace Steward

/-- Requests whose answers a bot looks at only to log them. -/
def Bot.Overlooks (bot : Bot) (request : Request) : Prop :=
  request.posts "/comments" = true ∨ request.posts "/reactions" = true ∨
    bot = .review ∧ request.posts "/assignees" = true

variable {bot : Bot} {station : Station}

/-! ## Requests -/

theorem Bot.not_overlooks_get (path : Wording) (parameters : Json) :
    ¬bot.Overlooks (.get station.service path parameters) := by
  simp [Overlooks, Request.posts_get]

theorem Bot.not_overlooks_labelRemoval (repository : Repository) (number : Int) (label : String) :
    ¬bot.Overlooks (.labelRemoval station.service repository number label) := by
  simp [Overlooks, Request.posts, Request.labelRemoval]

def Request.Misses (front tail : List Char) (ending : String) : Prop :=
  ending.toList.reverse.isPrefixOf (tail.reverse ++ front.reverse) = false

/-- What is posted elsewhere than to comments, reactions and assignees is heeded. -/
theorem Bot.not_overlooks_post {path : String} {body : Json} {front tail : List Char}
    (ends : (Service.address station.service path).toList = front ++ tail)
    (comments : Request.Misses front tail "/comments")
    (reactions : Request.Misses front tail "/reactions")
    (assignees : Request.Misses front tail "/assignees") :
    ¬bot.Overlooks (.post station.service path body) := by
  have posted (ending : String) : (Request.post station.service path body).posts ending =
      ending.toList.reverse.isPrefixOf (tail.reverse ++ front.reverse) :=
    Request.posts_of_ends rfl rfl ends
  simp only [Overlooks, posted]
  rw [comments, reactions, assignees]
  simp

namespace Service

theorem indifferent_get (path : Wording) (parameters : Json) :
    (get path parameters).Indifferent bot.Overlooks station :=
  .ofAsks (takes_call _ _ _ _) (.inl (Bot.not_overlooks_get path parameters))

theorem indifferent_query (text bindings : Json) :
    (query text bindings).Indifferent bot.Overlooks station := by
  have unslashed : "graphql".toList.head? ≠ some '/' := by decide
  have ends : (address station.service "graphql").toList =
      station.service.toList ++ '/' :: "graphql".toList := toList_address unslashed
  have heeded (body : Json) : ¬bot.Overlooks (.post station.service "graphql" body) :=
    Bot.not_overlooks_post ends rfl rfl rfl
  exact .bind (.ofAsks (takes_call _ _ _ _) (.inl (heeded _))) fun _ => .ofExcept _

theorem indifferent_addLabels (repository : Repository) (number : Int) (labels : Json) :
    (addLabels repository number labels).Indifferent bot.Overlooks station :=
  .ofAsks (takes_call _ _ _ _) (.inl (Bot.not_overlooks_post
    (repository.toList_issueAddress station.service number "/labels") rfl rfl rfl))

theorem indifferent_removeLabel (repository : Repository) (number : Int) (label : String) :
    (removeLabel repository number label).Indifferent bot.Overlooks station :=
  .ofAsks (takes_removeLabel _ _ _) (.inl (Bot.not_overlooks_labelRemoval _ _ _))

theorem indifferent_createCheckRun (repository : Repository) (run : Json) :
    (createCheckRun repository run).Indifferent bot.Overlooks station :=
  .ofAsks (takes_createCheckRun _ _) (.inl (Bot.not_overlooks_post
    (repository.toList_address station.service "/check-runs") rfl rfl rfl))

/-- Whether an assignment was taken matters to all bots but one. -/
theorem indifferent_addAssignees (other : bot ≠ .review) (repository : Repository) (number : Int)
    (assignees : Json) :
    (addAssignees repository number assignees).Indifferent bot.Overlooks station := by
  have located : (Request.post station.service s!"{repository.issuePath number}/assignees"
      (.object [("assignees", assignees)])).url.shown =
        address station.service (repository.issuePath number ++ "/assignees") := rfl
  have ends := repository.toList_issueAddress station.service number "/assignees"
  refine .ofAsks (takes_call _ _ _ _) (.inl fun overlooked => ?_)
  rcases overlooked with comment | reaction | ⟨isReview, -⟩
  · cases (Request.posts_of_ends rfl located ends).symm.trans comment
  · cases (Request.posts_of_ends rfl located ends).symm.trans reaction
  · exact other isReview

end Service

/-! ## Actions -/

namespace Action

theorem indifferent_guarded {change : Job Json} {complain : Wording → Job Unit} {success : Wording}
    (indifferent : change.Indifferent bot.Overlooks station)
    (complains : ∀ reason, (complain reason).Takes station (Course.settled (.ok ()))) :
    (guarded change complain success).Indifferent bot.Overlooks station := by
  refine .bindAttempt indifferent fun found => ?_
  cases found with
  | ok value => exact .info (.pure _)
  | error failure => exact .remark (complains _) (.pure _)

theorem indifferent_addLabels (context : Context) (labels : Json) :
    (addLabels context labels).Indifferent bot.Overlooks station := by
  cases labels with
  | list items =>
      exact indifferent_guarded (.lift fun _ => Service.indifferent_addLabels _ _ _) fun _ =>
        .record _ _
  | _ => exact .pure _

theorem indifferent_removeLabel (context : Context) (label : Json) :
    (removeLabel context label).Indifferent bot.Overlooks station :=
  indifferent_guarded (.lift fun _ => .lift fun _ => Service.indifferent_removeLabel _ _ _)
    fun _ => .record _ _

theorem indifferent_addAssignees (other : bot ≠ .review) (context : Context) (assignees : Json) :
    (addAssignees context assignees).Indifferent bot.Overlooks station := by
  cases assignees with
  | list items =>
      exact indifferent_guarded (.lift fun _ => Service.indifferent_addAssignees other _ _ _)
        fun _ => .record _ _
  | _ => exact .pure _

/-- A blank text is not posted, and any other is posted whatever comes of it. -/
theorem indifferent_say (context : Context) (comment : Wording) :
    (say context comment).Indifferent bot.Overlooks station := by
  cases blank : Text.isAllBlank comment.shown with
  | false => exact .ofAsks (takes_say blank) (.inr fun _ _ => rfl)
  | true =>
      have unposted : (Json.text comment).requireNonBlank "comment body" =
          .error (.missing "comment body") := by
        simp [Json.requireNonBlank, blank]
      unfold say postComment
      rw [unposted]
      have refused : Job.Indifferent bot.Overlooks station (do
          let _ ← (Except.error (.missing "comment body") : Except EventFault Wording).mapError
            Failure.event
          Service.createComment context.repository context.number (.text comment)) :=
        .ofSettled fun session => ⟨[], .refl session, rfl, rfl⟩
      exact .bind (indifferent_guarded refused fun _ => .record _ _) fun _ => .pure _

end Action

/-! ## Transitions -/

namespace Transition

theorem indifferent_removeAll (context : Context) (labels : List Json) :
    (removeAll context labels).Indifferent bot.Overlooks station := by
  induction labels with
  | nil => exact .pure []
  | cons label rest induction =>
      exact .bind (Action.indifferent_removeLabel _ _) fun _ => .bind induction fun _ => .pure _

theorem indifferent_addAll (context : Context) (labels : List Json) :
    (addAll context labels).Indifferent bot.Overlooks station := by
  induction labels with
  | nil => exact .pure []
  | cons label rest induction =>
      exact .bind (Action.indifferent_addLabels _ _) fun _ => .bind induction fun _ => .pure _

theorem indifferent_apply (context : Context) (additions removals : List Json) :
    (apply context additions removals).Indifferent bot.Overlooks station :=
  .bind (indifferent_removeAll _ _) fun _ => .bind (indifferent_addAll _ _) fun _ => .pure _

theorem indifferent_report (context : Context) (transition : Transition)
    (comment : Wording → Wording) :
    (report context transition comment).Indifferent bot.Overlooks station := by
  refine .choice (.bind (Action.indifferent_say _ _) fun _ => ?_) (.pure ())
  exact .ofSettled (.record _ _)

theorem indifferent_applyAndReport (context : Context) (comment : Wording → Wording)
    (additions removals : List Json) :
    (applyAndReport context comment additions removals).Indifferent bot.Overlooks station :=
  .bind (indifferent_apply _ _ _) fun _ => .bind (indifferent_report _ _ _) fun _ => .pure _

end Transition

end Steward
