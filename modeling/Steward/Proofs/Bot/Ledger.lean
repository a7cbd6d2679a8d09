import Steward.Proofs.Bot.Confinement
import Steward.Proofs.Output.Ledger

/-! The file of results over many runs. Each run of a bot that reports appends one entry to it,
whether it returns or fails, and no other run writes to it. -/

namespace Steward.Bot

/-! ## Runs -/

structure Turn where
  bot : Bot
  event : Option Event
  source : Settings.Source
  station : Station
  answers : List Answer

def Turn.run (turn : Turn) (files : Files) : Except Failure Result × Files :=
  let ran := turn.bot.run turn.event turn.source.job turn.station (.start turn.answers files)
  (ran.1, ran.2.files)

def runAll : List Turn → Files → List (Bot × Except Failure Result) × Files
  | [], files => ([], files)
  | turn :: rest, files =>
      let ran := turn.run files
      let others := runAll rest ran.2
      ((turn.bot, ran.1) :: others.1, others.2)

/-! ## Entries -/

/-- What a run adds to the file of results, by its bot and by what it comes to. -/
inductive Entry : Bot → Except Failure Result → String → Prop
  | verdicts (verdicts : Commit.Verdicts) :
      Entry .commit (.ok (.verdicts verdicts))
        (s!"dco={verdicts.signoff.name}\ngpg={verdicts.signature.name}\n" ++
          s!"merge_conflict={verdicts.conflict.name}\n")
  | unchecked (failure : Failure) :
      Entry .commit (.error failure) "dco=failure\ngpg=failure\nmerge_conflict=success\n"
  | passed : Entry .signing (.ok (.passed true)) "dco_gpg_passed=success\n"
  | rejected : Entry .signing (.ok (.passed false)) "dco_gpg_passed=failure\n"
  | unverified (failure : Failure) : Entry .signing (.error failure) "dco_gpg_passed=failure\n"
  | ofComment (result : Except Failure Result) : Entry .comment result ""
  | ofReview (result : Except Failure Result) : Entry .review result ""

theorem Commit.lines_values (verdicts : Commit.Verdicts) :
    (Output.lines verdicts.values).shown =
      s!"dco={verdicts.signoff.name}\ngpg={verdicts.signature.name}\n" ++
        s!"merge_conflict={verdicts.conflict.name}\n" := by
  rw [Commit.Verdicts.values, Output.shown_lines_cons, Output.shown_lines_cons,
    Output.shown_lines_cons, ← String.toList_inj]
  simp [Output.lines, Wording.joined, Output.line, Output.valueText, Json.display, toString]

theorem Commit.entry_lines (result : Except Failure Commit.Verdicts) :
    Entry .commit (result.map .verdicts) (Output.lines (Commit.reported result).values).shown := by
  cases result with
  | ok verdicts =>
      rw [Commit.reported, Commit.lines_values]
      exact .verdicts verdicts
  | error failure => exact .unchecked failure

theorem Signing.entry_lines (result : Except Failure Bool) :
    Entry .signing (result.map .passed) (Output.lines (Signing.reported result)).shown := by
  cases result with
  | ok passed =>
      cases passed with
      | true => exact .passed
      | false => exact .rejected
  | error failure => exact .unverified failure

/-! ## Growth -/

structure Grown (path : String) (before after : Files) (text : String) : Prop where
  writable : after.IsWritable path
  content : (after.file? path).getD [] = (before.file? path).getD [] ++ Text.Utf8.encode text

section

variable {path : String} {before middle after : Files}

theorem Grown.refl (writable : before.IsWritable path) : Grown path before before "" :=
  ⟨writable, (List.append_nil _).symm⟩

theorem Grown.trans {first second : String} (grown : Grown path before middle first)
    (further : Grown path middle after second) : Grown path before after (first ++ second) := by
  refine ⟨further.writable, ?_⟩
  rw [further.content, grown.content, List.append_assoc]
  simp [Text.Utf8.encode]

theorem Grown.of_recorded {environment : Environment} {values : Output.Values}
    (named : environment.nonEmpty? "GITHUB_OUTPUT" = some path)
    (writable : before.IsWritable path) (some_ : values ≠ []) :
    Grown path before (Output.recorded environment values before)
      (Output.lines values).shown := by
  rcases Output.recorded_content named writable some_ with ⟨extended, content⟩
  exact ⟨extended, by rw [content]; rfl⟩

/-- A run that checks commits records what it reports, and nothing else. -/
theorem Commit.run_records (event : Option Event) (source : Settings.Source) (station : Station)
    (session : Session) :
    let ran := Commit.run event source.job station session
    ran.2.files = Output.recorded station.environment (reported ran.1).values session.files := by
  intro ran
  have ran_ : ran = Commit.run event source.job station session := rfl
  rcases Commit.run_eq event source.job station session with ⟨log, equal⟩
  have kept : (assess event source.job { station with bot := name } session).2.files =
      session.files := Commit.confined_assess.files_eq
  rw [ran_, equal]
  simp only [kept]

theorem Signing.run_records (event : Option Event) (source : Settings.Source) (station : Station)
    (session : Session) :
    let ran := Signing.run event source.job station session
    ran.2.files = Output.recorded station.environment (reported ran.1) session.files := by
  intro ran
  have ran_ : ran = Signing.run event source.job station session := rfl
  rcases Signing.run_eq event source.job station session with ⟨noted, log, -, files, -, equal⟩
  have kept : (assess event source.job { station with bot := name } noted).2.files =
      noted.files := Signing.confined_assess.files_eq
  rw [ran_, equal]
  simp only [kept, files]

/-- Every run adds its one entry. -/
theorem Turn.grown (turn : Turn)
    (named : turn.station.environment.nonEmpty? "GITHUB_OUTPUT" = some path)
    (writable : before.IsWritable path) :
    ∃ entry, Entry turn.bot (turn.run before).1 entry ∧
      Grown path before (turn.run before).2 entry := by
  rcases turn with ⟨bot, event, source, station, answers⟩
  cases bot with
  | comment =>
      have kept : (Comment.run event source.job station (.start answers before)).2.files = before :=
        Comment.confined_run.files_eq
      refine ⟨"", .ofComment _, ?_⟩
      simp only [Turn.run, Bot.run, Job.map_run, kept]
      exact .refl writable
  | review =>
      have kept : (Review.run event source.job station (.start answers before)).2.files = before :=
        Review.confined_run.files_eq
      refine ⟨"", .ofReview _, ?_⟩
      simp only [Turn.run, Bot.run, Job.map_run, kept]
      exact .refl writable
  | commit =>
      have records := Commit.run_records event source station (.start answers before)
      simp only [Turn.run, Bot.run, Job.map_run, records]
      exact ⟨_, Commit.entry_lines _, .of_recorded named writable (List.cons_ne_nil _ _)⟩
  | signing =>
      have records := Signing.run_records event source station (.start answers before)
      simp only [Turn.run, Bot.run, Job.map_run, records]
      exact ⟨_, Signing.entry_lines _, .of_recorded named writable (List.cons_ne_nil _ _)⟩

/-- From run to run the file grows by the entries, in order. -/
theorem runAll_grown {turns : List Turn}
    (named : ∀ turn ∈ turns, turn.station.environment.nonEmpty? "GITHUB_OUTPUT" = some path)
    (writable : before.IsWritable path) :
    ∃ entries, List.Forall₂ (fun made entry => Entry made.1 made.2 entry) (runAll turns before).1
        entries ∧ Grown path before (runAll turns before).2 (String.join entries) := by
  induction turns generalizing before with
  | nil => exact ⟨[], .nil, .refl writable⟩
  | cons turn rest induction =>
      rcases List.forall_mem_cons.mp named with ⟨first, others⟩
      rcases turn.grown first writable with ⟨entry, entered, grown⟩
      rcases induction others grown.writable with ⟨entries, listed, further⟩
      refine ⟨entry :: entries, .cons entered listed, ?_⟩
      rw [String.join_cons]
      exact grown.trans further

theorem map_bot_runAll (turns : List Turn) (files : Files) :
    (runAll turns files).1.map Prod.fst = turns.map Turn.bot := by
  induction turns generalizing files with
  | nil => rfl
  | cons turn rest induction => exact congrArg (turn.bot :: ·) (induction _)

end

/-! ## The ledger -/

/-- Over any runs the file of results is a ledger: what it held is kept, and after it come the
entries of the runs, one for each in their order, by what the run has come to. -/
theorem runAll_appends {turns : List Turn} {files : Files} {path : String}
    (named : ∀ turn ∈ turns, turn.station.environment.nonEmpty? "GITHUB_OUTPUT" = some path)
    (writable : files.IsWritable path) :
    let ran := runAll turns files
    ran.1.map Prod.fst = turns.map Turn.bot ∧
      ∃ entries, List.Forall₂ (fun made entry => Entry made.1 made.2 entry) ran.1 entries ∧
        (ran.2.file? path).getD [] =
          (files.file? path).getD [] ++ Text.Utf8.encode (String.join entries) := by
  rcases runAll_grown named writable with ⟨entries, listed, grown⟩
  exact ⟨map_bot_runAll turns files, entries, listed, grown.content⟩

def opening : Event where
  name := .text "pull_request"
  repository := .object [("owner", .text "hiero"), ("repo", .text "sdk")]
  payload := .object [("pull_request", .object [("number", .integer 8)])]

def ledgerPath : String := "out"

def ledger : Files :=
  Files.ofList [(ledgerPath, Text.Utf8.encode "dco=success\ngpg=success\nmerge_conflict=success\n")]

theorem ledger_isWritable : ledger.IsWritable ledgerPath where
  appends := by
    have appends : (ledger.append ledgerPath []).toOption.isSome = true := by decide +kernel
    rcases Option.isSome_iff_exists.mp appends with ⟨after, appended⟩
    exact ⟨[], after, Except.toOption_eq_some_iff.mp appended⟩
  keeps := by decide +kernel

def recorder : Station where
  bot := "on-commit"
  service := "https://api.github.com"
  token := "token"
  environment := [("GITHUB_OUTPUT", ledgerPath)]
  now := "12:00:00"

def sampleTurns : List Turn :=
  [⟨.commit, some opening, .given .standard, recorder, []⟩,
    ⟨.comment, some Assignment.asking, .given .standard, recorder,
      [.standard, Assignment.nothingFound]⟩,
    ⟨.signing, some opening, .given .standard, recorder, []⟩,
    ⟨.commit, none, .found, recorder, [.refusal "Connection refused"]⟩]

theorem runAll_appends_sampleTurns :
    (∀ turn ∈ sampleTurns,
        turn.station.environment.nonEmpty? "GITHUB_OUTPUT" = some ledgerPath) ∧
      ledger.IsWritable ledgerPath ∧
      let ran := runAll sampleTurns ledger
      ran.1.map Prod.fst = [.commit, .comment, .signing, .commit] ∧
        ∃ entries, List.Forall₂ (fun made entry => Entry made.1 made.2 entry) ran.1 entries ∧
          (ran.2.file? ledgerPath).getD [] =
            (ledger.file? ledgerPath).getD [] ++
              Text.Utf8.encode (String.join entries) := by
  have named : ∀ turn ∈ sampleTurns,
      turn.station.environment.nonEmpty? "GITHUB_OUTPUT" = some ledgerPath := by
    intro turn member
    simp only [sampleTurns, List.mem_cons, List.not_mem_nil, or_false] at member
    rcases member with rfl | rfl | rfl | rfl <;> rfl
  exact ⟨named, ledger_isWritable, runAll_appends named ledger_isWritable⟩

end Steward.Bot
