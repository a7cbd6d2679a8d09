import Steward.Event

/-! Members of JSON values along paths of names. Where a walk takes an absent value for an empty
object it finds what is at the path, or nothing. -/

namespace Steward

/-! ## Results -/

namespace Except

variable {ε ε' α β : Type}

@[simp] theorem ok_bind (value : α) (next : α → Except ε β) :
    (Except.ok value >>= next) = next value := rfl

@[simp] theorem error_bind (failure : ε) (next : α → Except ε β) :
    (Except.error failure >>= next) = .error failure := rfl

@[simp] theorem pure_eq_ok (value : α) : (pure value : Except ε α) = .ok value := rfl

theorem bind_eq_ok_iff {result : Except ε α} {next : α → Except ε β} {value : β} :
    (result >>= next) = .ok value ↔ ∃ found, result = .ok found ∧ next found = .ok value := by
  cases result <;> simp

theorem map_eq_ok_iff {result : Except ε α} {change : α → β} {value : β} :
    result.map change = .ok value ↔ ∃ found, result = .ok found ∧ change found = value := by
  cases result <;> simp [Except.map]

theorem map_eq_error_iff {result : Except ε α} {change : α → β} {failure : ε} :
    result.map change = .error failure ↔ result = .error failure := by
  cases result <;> simp [Except.map]

theorem mapError_eq_ok_iff {result : Except ε α} {change : ε → ε'} {value : α} :
    result.mapError change = .ok value ↔ result = .ok value := by
  cases result with
  | ok found => exact ⟨fun equal => by cases equal; rfl, fun equal => by cases equal; rfl⟩
  | error failure => exact ⟨nofun, nofun⟩

theorem mapError_bind {result : Except ε α} {next : α → Except ε β} {change : ε → ε'} :
    (result >>= next).mapError change =
      result.mapError change >>= fun value => (next value).mapError change := by
  cases result <;> rfl

theorem toOption_eq_some_iff {result : Except ε α} {value : α} :
    result.toOption = some value ↔ result = .ok value := by
  cases result <;> simp [Except.toOption]

theorem mapM_eq_ok {step : α → Except ε β} {image : α → β} {items : List α}
    (steps : ∀ item ∈ items, step item = .ok (image item)) :
    items.mapM step = .ok (items.map image) := by
  induction items with
  | nil => rfl
  | cons item rest induction =>
      rcases List.forall_mem_cons.mp steps with ⟨first, others⟩
      rw [List.mapM_cons, first, ok_bind, induction others]
      rfl

end Except

/-! ## Members -/

namespace Json

theorem lookup_eq_getD (members : List (Wording × Json)) (name : String) :
    lookup members name = (members.lookup (name : Wording)).getD .null := by
  induction members with
  | nil => rfl
  | cons member rest induction =>
      rcases member with ⟨other, value⟩
      by_cases equal : other = (name : Wording)
      · simp [lookup, equal]
      · have different : ((name : Wording) == other) = false := by simpa using Ne.symm equal
        rw [lookup, if_neg equal, induction, List.lookup_cons, different]

theorem member_eq_ok {members : List (Wording × Json)} {name : String} {value : Json}
    (found : lookup members name = value) (present : value ≠ .null) :
    (object members).member name = .ok value := by
  rw [lookup_eq_getD] at found
  cases known : members.lookup (name : Wording) with
  | none => simp [known] at found; exact absurd found.symm present
  | some other => simp [member, known] at found ⊢; exact found

@[simp] theorem isTruthy_eq_true {value : Json} :
    value.isTruthy = true ↔ value.isFalsy = false := by
  simp [isTruthy]

theorem eq_of_text {first second : String} (same : Json.text first = .text second) :
    first = second := congrArg Wording.text (text.inj same)

theorem text?_eq_some_iff {value : Json} {content : Wording} :
    value.text? = some content ↔ value = .text content := by
  cases value <;> simp [text?]

theorem orElse_of_falsy {value replacement : Json} (absent : value.isFalsy = true) :
    value.orElse replacement = replacement := by
  simp [orElse, absent]

theorem orElse_of_truthy {value replacement : Json} (present : value.isFalsy = false) :
    value.orElse replacement = value := by
  simp [orElse, present]

theorem orElse_text (content : Wording) : (text content).orElse (.text "") = .text content := by
  by_cases empty : content = ("" : Wording)
  · rw [empty]
    rfl
  · exact orElse_of_truthy (by simpa [isFalsy] using empty)

theorem orElse_list (items : List Json) : (list items).orElse (.list []) = .list items := by
  cases items <;> rfl

theorem isTrue_iff {value : Json} : value.isTrue = true ↔ value = .bool true := by
  cases value with
  | bool truth => cases truth <;> simp [isTrue]
  | _ => simp [isTrue]

theorem orEmpty_object (members : List (Wording × Json)) :
    (object members).orEmpty = .object members := by
  cases members <;> rfl

end Json

namespace Event

theorem valueAt_append (value : Json) (first second : List String) :
    valueAt value (first ++ second) = valueAt (valueAt value first) second := by
  induction first generalizing value with
  | nil => rfl
  | cons name rest induction =>
      cases value with
      | object members => exact induction (Json.lookup members name)
      | _ => cases second <;> rfl

theorem valueAt_cons (value : Json) (name : String) (rest : List String) :
    valueAt value (name :: rest) = valueAt (valueAt value [name]) rest :=
  valueAt_append value [name] rest

@[simp] theorem valueAt_null (path : List String) : valueAt .null path = .null := by
  cases path <;> rfl

theorem payloadValue_append (event : Option Event) (first second : List String) :
    payloadValue event (first ++ second) = valueAt (payloadValue event first) second := by
  cases event with
  | none => exact (valueAt_null second).symm
  | some event => exact valueAt_append event.payload first second

theorem valueAt_object (members : List (Wording × Json)) (name : String) :
    valueAt (.object members) [name] = Json.lookup members name := rfl

def textAt (value : Json) (path : List String) : Wording := (valueAt value path).text?.getD ""

theorem textAt_eq {value : Json} {path : List String} {content : Wording}
    (found : valueAt value path = .text content) : textAt value path = content := by
  rw [textAt, found]
  rfl

/-- The login of the user that a part of a payload has. -/
theorem valueAt_login {payload : Json} {part : String} {login : Wording}
    {members user : List (Wording × Json)}
    (partIs : valueAt payload [part] = .object members)
    (userIs : Json.lookup members "user" = .object user)
    (loginIs : Json.lookup user "login" = .text login) :
    valueAt payload [part, "user", "login"] = .text login := by
  rw [valueAt_cons, partIs, valueAt_cons, valueAt_object, userIs, valueAt_object, loginIs]

end Event

namespace Json

/-- An absent value has nothing at any name, like the empty object in its place. -/
theorem valueAt_orEmpty (value : Json) (name : String) (rest : List String) :
    Event.valueAt value.orEmpty (name :: rest) = Event.valueAt value (name :: rest) := by
  by_cases absent : value.isFalsy = true
  · rw [orEmpty, orElse_of_falsy absent]
    cases value with
    | object members =>
        have none_ : members = [] := by simpa [isFalsy] using absent
        rw [none_]
    | _ => simp [Event.valueAt, lookup]
  · rw [orEmpty, orElse_of_truthy (by simpa using absent)]

/-- A walk that takes an absent value for an empty object finds what is at the path. -/
theorem walk_eq_iff {value found : Json} {name : String} {path : List String}
    (present : found ≠ .null) :
    (∃ middle, value.orEmpty.field name = .ok middle ∧ Event.valueAt middle path = found) ↔
      Event.valueAt value (name :: path) = found := by
  rw [← valueAt_orEmpty]
  cases value.orEmpty with
  | object members => simp [field, Event.valueAt]
  | _ => simp [field, Event.valueAt, present.symm]

theorem field_orEmpty_eq_ok_iff {value found : Json} {name : String} (present : found ≠ .null) :
    value.orEmpty.field name = .ok found ↔ Event.valueAt value [name] = found := by
  rw [← walk_eq_iff present]
  simp [Event.valueAt]

/-- A member can be asked for where there is an object, or where the value counts as absent. -/
theorem exists_field_orEmpty_iff {value : Json} {name : String} :
    (∃ found, value.orEmpty.field name = .ok found) ↔
      value.isFalsy = true ∨ ∃ members, value = .object members := by
  cases absent : value.isFalsy with
  | true =>
      rw [orEmpty, orElse_of_falsy absent]
      exact iff_of_true ⟨_, rfl⟩ (.inl rfl)
  | false =>
      rw [orEmpty, orElse_of_truthy absent]
      cases value with
      | object members => exact iff_of_true ⟨_, rfl⟩ (.inr ⟨members, rfl⟩)
      | _ => simp [field]

/-! ## Checks -/

theorem requireObject_eq_ok_iff {value : Json} {label : String} {nothing : Unit} :
    value.requireObject label = .ok nothing ↔ ∃ members, value = .object members := by
  cases value <;> simp [requireObject]

theorem requireNonBlank_eq_ok_iff {value : Json} {label : String} {content : Wording} :
    value.requireNonBlank label = .ok content ↔
      value = .text content ∧ Text.isAllBlank content.shown = false := by
  cases value with
  | text other =>
      cases blank : Text.isAllBlank other.shown with
      | true =>
          simp only [requireNonBlank, blank, if_true, text.injEq, reduceCtorEq, false_iff]
          intro both
          rcases both with ⟨rfl, spoken⟩
          cases blank.symm.trans spoken
      | false =>
          simp only [requireNonBlank, blank, Bool.false_eq_true, if_false, Except.ok.injEq,
            text.injEq]
          constructor
          · intro equal
            exact ⟨equal, equal ▸ blank⟩
          · exact And.left
  | _ => simp [requireNonBlank]

theorem isFalsy_text (content : Wording) (spoken : Text.isAllBlank content.shown = false) :
    (text content).isFalsy = false := by
  have nonempty : content ≠ ("" : Wording) := by
    intro empty
    rw [empty] at spoken
    exact absurd spoken (by decide)
  simp [isFalsy, nonempty]

theorem requirePositive_eq_ok_iff {value : Json} {label : String} {number : Int} :
    value.requirePositive label = .ok number ↔ value = .integer number ∧ 1 ≤ number := by
  cases value with
  | integer other =>
      by_cases positive : 1 ≤ other
      · simp only [requirePositive, positive, if_true, Except.ok.injEq, integer.injEq]
        omega
      · simp only [requirePositive, positive, if_false, integer.injEq, reduceCtorEq, false_iff]
        omega
  | _ => simp [requirePositive]

/-- A search word has no surrogates. -/
theorem eq_shown_of_isSearchWord {word : Wording} (safe : (text word).isSearchWord = true) :
    word = (word.shown : Wording) := by
  refine Wording.eq_coe_of_not_mem fun replaced => ?_
  have all := (Bool.and_eq_true_iff.mp safe).2
  exact absurd (List.all_eq_true.mp all _ replaced) (by decide)

theorem requireSearchWord_eq_ok_iff {value : Json} {label field word : String} :
    value.requireSearchWord label field = .ok word ↔
      value = .text word ∧ Text.isAllBlank word = false ∧ value.isSearchWord = true := by
  simp only [requireSearchWord, Except.bind_eq_ok_iff, requireNonBlank_eq_ok_iff]
  by_cases safe : value.isSearchWord = true
  · simp only [safe, if_true, Except.pure_eq_ok, Except.ok.injEq, and_true]
    constructor
    · rintro ⟨content, ⟨rfl, spoken⟩, rfl⟩
      exact ⟨congrArg text (eq_shown_of_isSearchWord safe), spoken⟩
    · rintro ⟨rfl, spoken⟩
      exact ⟨_, ⟨rfl, spoken⟩, rfl⟩
  · simp [safe]

end Json

end Steward
