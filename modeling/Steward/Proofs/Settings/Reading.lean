import Mathlib.Control.Monad.Basic
import Steward.Proofs.Settings
import Steward.Proofs.Text.Blank
import Steward.Proofs.Yaml.Load

/-! Settings of a text. Each is what the text sets its key to, and a standard one otherwise; a text
with a part that stands for no value has none. -/

namespace Steward.Settings

/-! ## Fields -/

inductive Field where
  | maintainerTeam
  | supportTeam
  | projectName
  | signingGuide
  | conflictGuide
deriving DecidableEq, Repr

def Field.key : Field → String
  | .maintainerTeam => "maintainer_team"
  | .supportTeam => "good_first_issue_support_team"
  | .projectName => "project_name"
  | .signingGuide => "signing_guide_url"
  | .conflictGuide => "merge_conflicts_guide_url"

def field (settings : Settings) : Field → Wording
  | .maintainerTeam => settings.maintainerTeam
  | .supportTeam => settings.supportTeam
  | .projectName => settings.projectName
  | .signingGuide => settings.signingGuide
  | .conflictGuide => settings.conflictGuide

theorem ext_field {settings others : Settings}
    (same : ∀ which, settings.field which = others.field which) : settings = others := by
  have maintainerTeam := same .maintainerTeam
  have supportTeam := same .supportTeam
  have projectName := same .projectName
  have signingGuide := same .signingGuide
  have conflictGuide := same .conflictGuide
  cases settings
  cases others
  simp_all [field]

theorem field_ofFields (fields : List (Wording × Option Wording)) (which : Field) :
    (ofFields fields).field which = (override fields which.key).getD (standard.field which) := by
  cases which <;> rfl

/-! ## Keys -/

/-- Fields of a mapping bind a key to a text: no later one of them has the key. -/
def Binds (fields : List (Wording × Option Wording)) (key : String) (value : Wording) : Prop :=
  ∃ before after, fields = before ++ ((key : Wording), some value) :: after ∧
    ∀ field ∈ after, field.1 ≠ (key : Wording)

def Sets (text : Wording) (key : String) (value : Wording) : Prop :=
  ∃ fields, Yaml.load text = .ok (.mapping fields) ∧ Binds fields key value ∧
    ¬Text.AreBlank value.shown.toList

variable {fields : List (Wording × Option Wording)} {key : String} {text value : Wording}

theorem lookup_reverse_eq_some_iff :
    fields.reverse.lookup (key : Wording) = some (some value) ↔ Binds fields key value := by
  rw [List.lookup_eq_some_iff]
  constructor
  · rintro ⟨after, before, turned, other⟩
    refine ⟨before.reverse, after.reverse, ?_, fun field among => ?_⟩
    · rw [← List.reverse_reverse fields, turned]
      simp
    · exact Ne.symm (bne_iff_ne.mp (other field (List.mem_reverse.mp among)))
  · rintro ⟨before, after, rfl, other⟩
    refine ⟨after.reverse, before.reverse, by simp, fun field among => ?_⟩
    exact bne_iff_ne.mpr (other field (List.mem_reverse.mp among)).symm

theorem override_eq_some_iff :
    override fields key = some value ↔ Binds fields key value ∧
      ¬Text.AreBlank value.shown.toList := by
  rw [override, Option.filter_eq_some_iff, Option.join_eq_some_iff, lookup_reverse_eq_some_iff]
  simp [Text.isAllBlank]

/-! ## Texts -/

/-- Settings as a text sets them: a field that it does not set is a standard one. -/
structure AreFrom (text : Wording) (settings : Settings) : Prop where
  set : ∀ which value, Sets text which.key value → settings.field which = value
  unset : ∀ which, (∀ value, ¬Sets text which.key value) →
    settings.field which = standard.field which

theorem areFrom_ofFields (loaded : Yaml.load text = .ok (.mapping fields)) :
    AreFrom text (ofFields fields) := by
  have sets (key : String) (value : Wording) :
      Sets text key value ↔ override fields key = some value := by
    rw [override_eq_some_iff]
    constructor
    · rintro ⟨others, loadedToo, binds⟩
      cases loaded.symm.trans loadedToo
      exact binds
    · exact fun binds => ⟨fields, loaded, binds⟩
  constructor
  · intro which value isSet
    rw [field_ofFields, (sets _ _).mp isSet]
    rfl
  · intro which isUnset
    rw [field_ofFields]
    cases found : override fields which.key with
    | none => rfl
    | some value => exact absurd ((sets _ _).mpr found) (isUnset value)

theorem areFrom_standard (other : ∀ fields, Yaml.load text ≠ .ok (.mapping fields)) :
    AreFrom text standard where
  set := fun _ _ sets => absurd sets.choose_spec.1 (other _)
  unset := fun _ _ => rfl

/-- A text settles all settings: those of texts that set the same are the same. -/
theorem AreFrom.unique {other : Wording} {settings others : Settings}
    (areFrom : AreFrom text settings) (areFromOther : AreFrom other others)
    (same : ∀ which value, Sets text (Field.key which) value ↔ Sets other which.key value) :
    settings = others := by
  refine ext_field fun which => ?_
  by_cases isSet : ∃ value, Sets text which.key value
  · rcases isSet with ⟨value, isSet⟩
    rw [areFrom.set which value isSet, areFromOther.set which value ((same which value).mp isSet)]
  · rw [not_exists] at isSet
    rw [areFrom.unset which isSet]
    exact (areFromOther.unset which fun value setToo =>
      isSet value ((same which value).mpr setToo)).symm

/-! ## Runs -/

def warnings : Except Yaml.Fault Yaml.Loaded → List Notice
  | .ok .absent => []
  | .ok (.mapping _) => []
  | .ok .other => [.settingsNotMapping]
  | .error .malformed => [.settingsMalformed]
  | .error (.value _) => []

variable {station : Station} {session : Session}

theorem accept_of_error {fault : Yaml.ValueFault} (parsed : parse text = .error fault) :
    accept text station session = (.error (.settings fault), session) := by
  unfold accept
  rw [parsed]
  rfl

theorem accept_of_ok {reading : Reading} (parsed : parse text = .ok reading) :
    accept text station session = (.ok reading.settings,
      { session with
        notices := session.notices ++ reading.complaint.toList.map Complaint.notice }) := by
  unfold accept
  rw [parsed]
  rcases reading with ⟨settings, none | complaint⟩
  · rw [Option.toList_none, List.map_nil, List.append_nil]
    rfl
  · rfl

/-- A text is accepted with a warning or without, unless a part of it stands for no value. -/
theorem accept_cases (text : Wording) (station : Station) (session : Session) :
    (∃ fault, Yaml.load text = .error (.value fault) ∧
      accept text station session = (.error (.settings fault), session)) ∨
    ∃ settings, AreFrom text settings ∧ accept text station session =
      (.ok settings, { session with notices := session.notices ++ warnings (Yaml.load text) }) := by
  cases loaded : Yaml.load text with
  | error fault =>
      cases fault with
      | malformed =>
          refine .inr ⟨standard, areFrom_standard (by simp [loaded]), ?_⟩
          exact accept_of_ok (by rw [parse, loaded])
      | value fault => exact .inl ⟨fault, rfl, accept_of_error (by rw [parse, loaded])⟩
  | ok value =>
      cases value with
      | absent =>
          refine .inr ⟨standard, areFrom_standard (by simp [loaded]), ?_⟩
          exact accept_of_ok (by rw [parse, loaded])
      | mapping fields =>
          refine .inr ⟨ofFields fields, areFrom_ofFields loaded, ?_⟩
          exact accept_of_ok (by rw [parse, loaded])
      | other =>
          refine .inr ⟨standard, areFrom_standard (by simp [loaded]), ?_⟩
          exact accept_of_ok (by rw [parse, loaded])

/-- A run fails for its settings only if a part of their text stands for no value, and then
something in the text is to blame. Every other text gives settings, with a warning if it is
malformed or no mapping; they are those that it sets and otherwise standard ones, so that texts
which set the same give the same. -/
theorem accept_keeps_standard_unless_blamed (text : Wording) (station : Station)
    (session : Session) :
    (∃ fault, Yaml.Blames text.shown.toList fault ∧ Yaml.load text = .error (.value fault) ∧
      accept text station session = (.error (.settings fault), session)) ∨
    ∃ settings, AreFrom text settings ∧ accept text station session =
        (.ok settings, { session with notices := session.notices ++ warnings (Yaml.load text) }) ∧
      ∀ other others, (accept other station session).1 = .ok others →
        (∀ which value, Sets text (Field.key which) value ↔ Sets other which.key value) →
          others = settings := by
  rcases accept_cases text station session with
    ⟨fault, loaded, fails⟩ | ⟨settings, areFrom, accepted⟩
  · have blames := Yaml.meets_load text
    rw [loaded] at blames
    exact .inl ⟨fault, blames, loaded, fails⟩
  · refine .inr ⟨settings, areFrom, accepted, fun other others taken same => ?_⟩
    rcases accept_cases other station session with
      ⟨fault, -, fails⟩ | ⟨found, areFromOther, accepted⟩
    · rw [fails] at taken
      cases taken
    · rw [accepted] at taken
      cases taken
      exact (areFrom.unique areFromOther same).symm

/-- A date without such a month, written where a name is expected, is no warning but a failure. -/
theorem parse_fails_by_month :
    parse "project_name: 2024-13-45" = .error .month := by decide +kernel

end Steward.Settings
