import Steward.Proofs.Bot.Comment
import Steward.Proofs.Bot.Commit
import Steward.Proofs.Bot.Signing
import Steward.Proofs.Commit.Listing
import Steward.Proofs.Indifference.Assignment

/-! What the service answers to comments and reactions makes no difference to a bot: it goes on as
if they had been taken. -/

namespace Steward

variable {bot : Bot} {station : Station}

/-! ## Commits -/

namespace Commit

variable {repository : Repository} {number perPage : Int}

theorem indifferent_pagesFrom (bound : Nat) (page : Int) (before : List Json) :
    (pagesFrom repository number perPage bound page before).Indifferent bot.Overlooks station := by
  induction bound generalizing page before with
  | zero => exact .pure before
  | succ bound induction =>
      refine .bind (Service.indifferent_get _ _) fun batch => .lift fun commits => ?_
      exact .choice (.pure _) (induction _ _)

theorem indifferent_fetchWithin (bound : Nat) :
    (fetchWithin repository number perPage bound).Indifferent bot.Overlooks station :=
  .bind (indifferent_pagesFrom bound 1 []) fun _ => .info (.pure _)

/-- Two scripts may differ in length, so that their runs are compared under a common bound. -/
theorem indifferent_fetchAll (positive : 0 < perPage) :
    (fetchAll repository number perPage).Indifferent bot.Overlooks station where
  asks session := (takes_fetchAll positive session).asks
  alike := by
    intro first second requests files asked agree
    have fewFirst : first.answers.length < first.answers.length + second.answers.length + 1 := by
      omega
    have fewSecond : second.answers.length < first.answers.length + second.answers.length + 1 := by
      omega
    rw [fetchAll_run positive first fewFirst] at asked ⊢
    rw [fetchAll_run positive second fewSecond]
    exact (indifferent_fetchWithin _).alike files asked agree

end Commit

theorem Conflict.indifferent_poll (repository : Repository) (number attempts : Int) (delay : Json)
    (left : Nat) :
    (poll repository number attempts delay left).Indifferent bot.Overlooks station := by
  induction left with
  | zero => exact .info (.pure _)
  | succ left induction =>
      refine .bind (Service.indifferent_get _ _) fun pull => .lift fun mergeable => ?_
      refine .choice (.choice ?_ induction) (.lift fun state => .info (.pure _))
      exact .info (.remark (.pause _) induction)

/-! ## Bots -/

namespace Bot

/-- A run begins with its settings and its event, whichever the bot. -/
theorem indifferent_context {α : Type} {event : Option Event} {source : Settings.Source}
    {next : Context → Job α}
    (continues : ∀ context, (next context).Indifferent bot.Overlooks station) :
    (do next (← (Context.ofEvent true event (← source.job)).mapError Failure.event) :
      Job α).Indifferent bot.Overlooks station :=
  .bind source.indifferent_job fun _ => .lift continues

theorem Comment.indifferent_run (other : bot ≠ .review) (event : Option Event)
    (source : Settings.Source) : (run event source.job).Indifferent bot.Overlooks station :=
  .named (.onFailure (indifferent_context fun _ => Command.indifferent_dispatch other _)
    fun _ => .ofSettled (.record _ _))

namespace Commit

open Steward.Commit

theorem indifferent_conclude (context : Context) (label : String) (total : Nat)
    (findings : List Finding) (comment : List Finding → Settings → Wording) :
    (conclude context label total findings comment).Indifferent bot.Overlooks station :=
  .info (.choice (.bind (Action.indifferent_say _ _) fun _ => .pure _) (.pure _))

theorem indifferent_checkConflict (context : Context) :
    (checkConflict context).Indifferent bot.Overlooks station := by
  refine .bind (Conflict.indifferent_poll _ _ _ _ _) fun conflicts => .info ?_
  exact .choice (.bind (Action.indifferent_say _ _) fun _ => .pure _) (.pure _)

theorem indifferent_check (context : Context) :
    (check context).Indifferent bot.Overlooks station := by
  refine .bind (indifferent_fetchAll (by decide)) fun commits => ?_
  refine .bind (.lift fun _ => indifferent_conclude _ _ _ _ _) fun signoff => ?_
  refine .bind (.lift fun _ => indifferent_conclude _ _ _ _ _) fun signature => ?_
  exact .bind (indifferent_checkConflict _) fun conflict => .pure _

theorem indifferent_run (event : Option Event) (source : Settings.Source) :
    (run event source.job).Indifferent bot.Overlooks station := by
  refine .named (.onFailure (indifferent_context fun context => ?_) fun failure => ?_)
  · refine .bind (indifferent_check context) fun verdicts => ?_
    exact .bind (.write verdicts.areEncodable) fun _ => .info (.pure _)
  · exact .remark (.record _ _) (.write (Verdicts.areEncodable _))

end Commit

namespace Review

/-- Whether the author was assigned makes no difference to what comes next. -/
theorem indifferent_assignAuthor {α : Type} {next : Job α} (context : Context)
    (continues : next.Indifferent Bot.review.Overlooks station) :
    (do let _ ← assignAuthor context; next : Job α).Indifferent Bot.review.Overlooks station := by
  have exits (text : Wording) (assigned : Bool) :
      ((do Job.info text; return assigned : Job Bool) >>= fun _ => next).Indifferent
        Bot.review.Overlooks station :=
    .bind (.info (.pure assigned)) fun _ => continues
  unfold assignAuthor
  simp only [bind_assoc]
  refine .lift fun user => .lift fun author => ?_
  cases author.isFalsy with
  | true => exact exits _ _
  | false =>
      cases named : author.requireLogin "pr.author" with
      | error fault => exact exits _ _
      | ok login =>
          rcases Json.requireSearchWord_eq_ok_iff.mp named with ⟨rfl, spoken, word⟩
          simp only [Bool.false_eq_true, if_false, bind_assoc]
          refine .info (.lift fun assignees => .lift fun items => .lift fun isAssigned => ?_)
          cases isAssigned with
          | true => exact exits _ _
          | false =>
              simp only [Bool.false_eq_true, if_false, bind_assoc, pure_bind]
              exact .ignoring (Action.takes_addAssignees spoken word) continues

theorem indifferent_prepare (context : Context) :
    (prepare context).Indifferent Bot.review.Overlooks station := by
  refine indifferent_assignAuthor context (.atStation (.info ?_))
  exact .bind (Transition.indifferent_applyAndReport _ _ _ _) fun _ => .info (.pure _)

theorem indifferent_run (event : Option Event) (source : Settings.Source) :
    (run event source.job).Indifferent Bot.review.Overlooks station :=
  .named (.onFailure (indifferent_context fun _ => indifferent_prepare _)
    fun _ => .ofSettled (.record _ _))

end Review

namespace Signing

open Steward.Commit

theorem indifferent_judge (context : Context) (head : Json) (commits : List Json) :
    (judge context head commits).Indifferent bot.Overlooks station := by
  refine .lift fun unsigned => .lift fun unverified => .info (.info (.info ?_))
  refine .bind (.atStation (.bind (Service.indifferent_createCheckRun _ _) fun _ =>
    .ofSettled (.record _ _))) fun _ => ?_
  dsimp only
  split
  · exact .bind (Action.indifferent_say _ _) fun _ => .pure _
  · exact .pure _

theorem indifferent_verify (context : Context) :
    (verify context).Indifferent bot.Overlooks station := by
  refine .lift fun head => .lift fun commit => .choice (.info (.pure _)) ?_
  refine .bind (indifferent_fetchAll (by decide)) fun commits => ?_
  exact .choice (.info (.pure _)) (indifferent_judge _ _ _)

theorem indifferent_run (event : Option Event) (source : Settings.Source) :
    (run event source.job).Indifferent bot.Overlooks station := by
  refine .named (.info (.onFailure (indifferent_context fun context => ?_) fun failure => ?_))
  · refine .bind (indifferent_verify context) fun passed => ?_
    exact .bind (.write (areEncodable_reported (.ok passed))) fun _ => .info (.pure _)
  · exact .remark (.record _ _) (.write (areEncodable_reported (.error failure)))

end Signing

theorem indifferent_run (bot : Bot) (event : Option Event) (source : Settings.Source) :
    (bot.run event source.job).Indifferent bot.Overlooks station := by
  cases bot with
  | comment => exact .bind (Comment.indifferent_run (by decide) event source) fun _ => .pure _
  | commit => exact .bind (Commit.indifferent_run event source) fun _ => .pure _
  | review => exact .bind (Review.indifferent_run event source) fun _ => .pure _
  | signing => exact .bind (Signing.indifferent_run event source) fun _ => .pure _

/-! ## Runs -/

/-- What the service answers to comments and reactions, and to the bot that prepares for review also
what it answers to assignments, changes nothing: the same requests are made in the same order, with
the same result or the same failure, and the same is written down. -/
theorem run_eq_of_agree {bot : Bot} {event : Option Event} {source : Settings.Source}
    {station : Station} {answers others : List Answer} {files : Files}
    (agree : Answer.Agree bot.Overlooks
      (bot.run event source.job station (.start answers files)).2.requests answers others) :
    let ran := bot.run event source.job station (.start answers files)
    let other := bot.run event source.job station (.start others files)
    other.2.requests = ran.2.requests ∧ other.1 = ran.1 ∧ other.2.files = ran.2.files := by
  have indifferent : (bot.run event source.job).Indifferent bot.Overlooks station :=
    bot.indifferent_run event source
  have alike := @indifferent.alike (.start answers files) (.start others files) _ rfl
    (List.nil_append _).symm agree
  exact ⟨alike.2.1, alike.1, alike.2.2⟩

/-- The bot that reads comments reacts before it asks for anything else. -/
theorem Comment.overlooks_first (event : Event) (source : Settings.Source) (station : Station)
    (answers : List Answer) (files : Files) :
    ∀ request ∈ (Bot.comment.run (some event) source.job station
      (.start answers files)).2.requests.head?, Bot.comment.Overlooks request := by
  have takes : (Bot.comment.run (some event) source.job).TakesFrom station (.start answers files)
      fun exchanges _ => ∃ settings found,
        Comment.RunCourse station.service event settings exchanges found := by
    apply (Comment.takes_run event source station _).bind
    · intro exchanges decisions course
      exact .pure (Course.after_end.mpr ⟨_, _, course⟩)
    · intro exchanges failure course
      exact ⟨_, _, course⟩
  rcases takes with ⟨exchanges, reached, settings, found, course⟩
  rw [reached.requests]
  cases course with
  | unconcerned => nofun
  | dispatched _ _ _ _ _ _ course =>
      cases course with
      | ignored => nofun
      | handled _ course =>
          rcases course.reacts with ⟨answer, rest, rfl⟩
          intro request first
          cases first
          exact .inr (.inl (Request.posts_reaction _))

open Assignment (asking askingStation nothingFound)

/-- The thumb up may be taken or refused: the issue is assigned all the same. -/
theorem run_eq_of_agree_asking :
    Answer.Agree Bot.comment.Overlooks
        (Bot.comment.run (some asking) (Settings.Source.given .standard).job askingStation
          (.start [.standard, nothingFound] [])).2.requests
        [.standard, nothingFound] [.refusal "Connection refused", nothingFound] ∧
      let ran := Bot.comment.run (some asking) (Settings.Source.given .standard).job
        askingStation (.start [.standard, nothingFound] [])
      let other := Bot.comment.run (some asking) (Settings.Source.given .standard).job
        askingStation (.start [.refusal "Connection refused", nothingFound] [])
      other.2.requests = ran.2.requests ∧ other.1 = ran.1 ∧ other.2.files = ran.2.files := by
  have overlooks := Comment.overlooks_first asking (.given .standard) askingStation
    [.standard, nothingFound] []
  exact ⟨.of_first overlooks, run_eq_of_agree (.of_first overlooks)⟩

end Bot

end Steward
