import Steward.Context
import Steward.Proofs.Indifference
import Steward.Proofs.Json
import Steward.Settings.Load

/-! Settings of a run. No request is made for them, and they depend on nothing but files and
environment. -/

namespace Steward.Settings

/-- Where a run takes its settings from: they are given, or they are looked for. -/
inductive Source where
  | given (settings : Settings)
  | found

def Source.job : Source → Job Settings
  | .given settings => return settings
  | .found => load

def Source.read (source : Source) (bot : String) (station : Station) (session : Session) :
    Except Failure Settings :=
  (source.job.named bot station session).1

variable {station : Station}

theorem takes_accept (text : Wording) : (accept text).Takes station Course.quiet := by
  unfold accept
  refine .lift (fun reading _ => ?_) fun _ _ => rfl
  cases reading.complaint with
  | none => exact .pure rfl
  | some complaint => exact .remark (.notify _) (.pure rfl)

theorem takes_load : load.Takes station Course.quiet := by
  refine .atStation (.withFiles fun files => ?_)
  refine .lift (fun content _ => ?_) fun _ _ => rfl
  cases content with
  | none => exact .pure rfl
  | some bytes => exact .lift (fun (text : String) _ => takes_accept text) fun _ _ => rfl

theorem Source.takes_job (source : Source) : source.job.Takes station Course.quiet := by
  cases source with
  | given settings => exact .pure rfl
  | found => exact takes_load

section

variable {overlooked : Request → Prop}

theorem indifferent_accept (text : Wording) : (accept text).Indifferent overlooked station := by
  refine .lift fun reading => ?_
  cases reading.complaint with
  | none => exact .pure _
  | some complaint => exact .remark (.notify _) (.pure _)

theorem indifferent_load : load.Indifferent overlooked station := by
  refine .atStation (.bind .files fun files => .lift fun content => ?_)
  cases content with
  | none => exact .pure _
  | some bytes => exact .lift fun (text : String) => indifferent_accept text

theorem Source.indifferent_job (source : Source) :
    source.job.Indifferent overlooked station := by
  cases source with
  | given settings => exact .pure _
  | found => exact indifferent_load

end

/-- What has been asked, answered and logged so far makes no difference to the settings. -/
theorem Source.read_eq_of_files (source : Source) {bot : String} {first second : Session}
    (files : second.files = first.files) :
    source.read bot station second = source.read bot station first := by
  have indifferent : source.job.Indifferent (fun _ => False) { station with bot } :=
    source.indifferent_job
  rcases source.takes_job first with ⟨exchanges, reached, rfl⟩
  exact (indifferent.alike files reached.requests nofun).1

/-- Settings are read first, and the rest depends on what they are. -/
theorem Source.takesFrom_bind {α : Type} (source : Source) {bot : String} {session : Session}
    {next : Settings → Job α} {course : Course α}
    (continues : ∀ settings, source.read bot station session = .ok settings →
      (next settings).Takes { station with bot } course)
    (stops : ∀ failure, source.read bot station session = .error failure →
      course [] (.error failure)) :
    (source.job >>= next).TakesFrom { station with bot } session course := by
  refine .bind (source.takes_job session).remembering ?_ ?_
  · intro _ settings found
    rcases found with ⟨rfl, found⟩
    exact continues settings found.symm
  · intro _ failure failed
    rcases failed with ⟨rfl, failed⟩
    exact stops failure failed.symm

/-- A run begins with its settings and its event. It goes on with the context that is made of them;
if there is none, it fails before anything is asked. -/
theorem Source.takesFrom_context {α : Type} (source : Source) {bot : String} {session : Session}
    {event : Option Event} {next : Context → Job α} {course : Course α}
    (continues : ∀ known context, source.read bot station session = .ok known →
      Context.ofEvent true event known = .ok context →
        (next context).Takes { station with bot } course)
    (stops : (∀ known context, source.read bot station session = .ok known →
      Context.ofEvent true event known ≠ .ok context) →
        ∀ failure, course [] (.error failure)) :
    (do next (← (Context.ofEvent true event (← source.job)).mapError Failure.event) :
      Job α).TakesFrom { station with bot } session course := by
  refine source.takesFrom_bind ?_ ?_
  · intro known settingsAre
    refine .lift (fun context made => ?_) fun failure failed => stops ?_ failure
    · exact continues known context settingsAre (Except.mapError_eq_ok_iff.mp made)
    · intro other context otherAre accepted
      cases settingsAre.symm.trans otherAre
      rw [accepted] at failed
      cases failed
  · intro failure failed
    refine stops ?_ failure
    intro known context settingsAre
    cases failed.symm.trans settingsAre

end Steward.Settings
