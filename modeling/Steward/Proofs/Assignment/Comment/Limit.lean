import Steward.Proofs.Assignment.Gate
import Steward.Proofs.Text.Number
import Steward.Proofs.Text.Percent

/-! The comment on a limit that is reached. It shows a number, and its links ask for the issues that
are counted for the limit. -/

namespace Steward.Assignment

/-! ## Links in comments -/

def linkedQuery? (title line : String) : Option (List UInt8) :=
  if s!"[{title}](".toList.isPrefixOf line.toList then
    match line.toList.dropWhile (· ≠ '?') with
    | '?' :: 'q' :: '=' :: rest => some (Text.Percent.decode rest.dropLast)
    | _ => none
  else none

example : linkedQuery? "Issues" "[Issues](https://example.org/?q=is%3Aopen)" =
    some (Text.Utf8.encode "is:open") := by decide +kernel

def linked (title comment : String) : List (List UInt8) :=
  (Text.lines comment).filterMap (linkedQuery? title)

def Begins (mark : Char) (line : String) : Prop := line.toList.head? = some mark

instance (mark : Char) : DecidablePred (Begins mark) := fun line =>
  inferInstanceAs (Decidable (line.toList.head? = some mark))

theorem Begins.append {mark : Char} {first : String} (begins : Begins mark first) (rest : String) :
    Begins mark (first ++ rest) := by
  have some_ : first.toList ≠ [] := by
    intro empty
    rw [Begins, empty] at begins
    cases begins
  rw [Begins, String.toList_append, List.head?_append_of_ne_nil _ some_]
  exact begins

theorem Begins.unique {mark other : Char} {line : String} (begins : Begins mark line)
    (beginsToo : Begins other line) : mark = other :=
  Option.some.inj (begins.symm.trans beginsToo)

/-- Lines that do not begin with a bracket hold no link. -/
theorem filterMap_linkedQuery? {lines : List String} (prose : ∀ line ∈ lines, ¬Begins '[' line)
    (title : String) : lines.filterMap (linkedQuery? title) = [] := by
  refine List.filterMap_eq_nil_iff.mpr fun line member => ?_
  rw [linkedQuery?, if_neg]
  intro begun
  rcases List.isPrefixOf_iff_prefix.mp begun with ⟨rest, whole⟩
  have begins : Begins '[' line := by
    rw [Begins, ← whole]
    simp [toString]
  exact prose line member begins

section

variable {title : String} {repository : Repository}

/-- A link to a search carries its query. -/
theorem linkedQuery?_searchLink (plainTitle : '?' ∉ title.toList)
    (plainOwner : '?' ∉ repository.owner.toList) (plainName : '?' ∉ repository.name.toList)
    (query : String) :
    linkedQuery? title (s!"[{title}]" ++ s!"({Comment.searchLink repository query})") =
      some (Text.Utf8.encode query) := by
  have whole : (s!"[{title}]" ++ s!"({Comment.searchLink repository query})").toList =
      ("[".toList ++ title.toList ++ "](".toList ++ "https://github.com/".toList ++
        repository.owner.toList ++ "/".toList ++ repository.name.toList ++ "/issues".toList) ++
      '?' :: 'q' :: '=' ::
        ((Text.Percent.encode Comment.plainMarks query).toList ++ [')']) := by
    unfold Comment.searchLink
    generalize Text.Percent.encode Comment.plainMarks query = encoded
    simp [toString]
  have unasked : ∀ character ∈ "[".toList ++ title.toList ++ "](".toList ++
      "https://github.com/".toList ++ repository.owner.toList ++ "/".toList ++
      repository.name.toList ++ "/issues".toList, Decidable.decide (character ≠ '?') = true := by
    intro character member
    rw [decide_eq_true_eq]
    intro mark
    subst mark
    simp [plainTitle, plainOwner, plainName] at member
  have begins : s!"[{title}](".toList.isPrefixOf
      (s!"[{title}]" ++ s!"({Comment.searchLink repository query})").toList = true := by
    rw [List.isPrefixOf_iff_prefix]
    exact ⟨(Comment.searchLink repository query).toList ++ [')'], by simp [toString]⟩
  rw [linkedQuery?, if_pos begins, whole, List.dropWhile_append_of_pos unasked]
  simp [Text.Percent.decode_encode (show '%' ∉ Comment.plainMarks by decide)]

end

/-! ## The comment -/

section

variable {context : Context} {login : String}

def openQuery (login : String) : String := Comment.assignedQuery login Comment.unblockedClause

def blockedQuery (login : String) : String := Comment.assignedQuery login Comment.blockedClause

theorem query_searchOf {label : Wording} {clause : String}
    (labels : (searchOf context login Search.openState label).labelClauses = [(clause : Wording)]) :
    (searchOf context login Search.openState label).query =
      (s!"repo:{context.repository.owner}/{context.repository.name} " ++
        Comment.assignedQuery login clause : String) := by
  rw [Search.query_of_clause labels]
  refine congrArg (Wording.mk · []) ?_
  simp [← String.toList_inj, Comment.assignedQuery, searchOf, toString]

theorem query_openSearch (context : Context) (login : String) :
    (searchOf context login Search.openState "").query =
      (s!"repo:{context.repository.owner}/{context.repository.name} " ++
        openQuery login : String) :=
  query_searchOf rfl

theorem query_blockedSearch (context : Context) (login : String) :
    (searchOf context login Search.openState Label.blocked).query =
      (s!"repo:{context.repository.owner}/{context.repository.name} " ++ blockedQuery login :
        String) :=
  query_searchOf rfl

def heldLine (held : Int) : String :=
  s!"📊 **Your Current Assignments:** You're currently assigned to **{held}** open issues."

def linesBefore (login : String) (held : Int) : List String :=
  [s!"👋 Hi @{login}! Thanks for your enthusiasm to contribute!",
   "",
   "To help contributors stay focused and ensure issues remain available for others, we limit " ++
     s!"assignments to **{maximumOpen} open issues** at a time. Issues labeled " ++
     s!"`{Label.blocked}` are not counted toward this limit.",
   "",
   heldLine held,
   "",
   "👉 **View your assigned issues:**"]

def openLink (login : String) (repository : Repository) : String :=
  "[Your open assignments]" ++ s!"({Comment.searchLink repository (openQuery login)})"

def blockedLink (login : String) (repository : Repository) : String :=
  "[Your blocked issues]" ++ s!"({Comment.searchLink repository (blockedQuery login)})"

def linesAfter : List String :=
  ["",
   "Once you complete or unassign from one of your current issues, come back and we'll be " ++
     "happy to assign this to you! 🎯"]

def linesOnBlocked (login : String) (repository : Repository) (hasBlocked : Bool) : List String :=
  if hasBlocked then ["", "👉 **View your blocked issues:**", blockedLink login repository] else []

theorem limitExceeded_eq (login : String) (held : Int) (repository : Repository)
    (hasBlocked : Bool) :
    Comment.limitExceeded login (toString held) repository hasBlocked =
      Text.ofLines (linesBefore login held ++ [openLink login repository] ++
        linesOnBlocked login repository hasBlocked ++ linesAfter) := rfl

theorem begins_heldLine (held : Int) : Begins '📊' (heldLine held) := by
  have shown : Begins '📊' "📊 **Your Current Assignments:** You're currently assigned to **" := by
    decide +kernel
  exact (shown.append _).append _

theorem begins_linesBefore {login line : String} {held : Int} {mark : Char}
    (member : line ∈ linesBefore login held) (begins : Begins mark line) :
    mark ∈ ['👋', 'T', '👉'] ∨ mark = '📊' ∧ line = heldLine held := by
  have greeting : Begins '👋' "👋 Hi @" := by decide
  have limit : Begins 'T'
      ("To help contributors stay focused and ensure issues remain available " ++
      "for others, we limit ") := by decide +kernel
  have heading : Begins '👉' "👉 **View your assigned issues:**" := by decide
  simp only [linesBefore, List.mem_cons, List.not_mem_nil, or_false] at member
  rcases member with rfl | rfl | rfl | rfl | rfl | rfl | rfl
  · exact .inl (by simp [begins.unique ((greeting.append _).append _)])
  · cases begins
  · exact .inl (by simp [begins.unique ((limit.append _).append _)])
  · cases begins
  · exact .inr ⟨begins.unique (begins_heldLine held), rfl⟩
  · cases begins
  · exact .inl (by simp [begins.unique heading])

theorem begins_openLink (login : String) (repository : Repository) :
    Begins '[' (openLink login repository) := by
  have title : Begins '[' "[Your open assignments]" := by decide
  exact title.append _

theorem begins_linesOnBlocked {login line : String} {repository : Repository} {hasBlocked : Bool}
    {mark : Char} (member : line ∈ linesOnBlocked login repository hasBlocked)
    (begins : Begins mark line) : mark ∈ ['👉', '['] := by
  have heading : Begins '👉' "👉 **View your blocked issues:**" := by decide
  have title : Begins '[' "[Your blocked issues]" := by decide
  cases hasBlocked with
  | false => cases member
  | true =>
      simp only [linesOnBlocked, if_true, List.mem_cons, List.not_mem_nil, or_false] at member
      rcases member with rfl | rfl | rfl
      · cases begins
      · simp [begins.unique heading]
      · simp [begins.unique (title.append _)]

theorem begins_linesAfter {line : String} {mark : Char} (member : line ∈ linesAfter)
    (begins : Begins mark line) : mark = 'O' := by
  have farewell : Begins 'O' ("Once you complete or unassign from one of your current issues, " ++
      "come back and we'll be happy to assign this to you! 🎯") := by decide +kernel
  simp only [linesAfter, List.mem_cons, List.not_mem_nil, or_false] at member
  rcases member with rfl | rfl
  · cases begins
  · exact begins.unique farewell

/-! ## Unbroken lines -/

theorem AreWords.unbroken (words : AreWords context login) {character : Char}
    (other : Json.isSearchCharacter character = false) :
    character ∉ context.repository.owner.toList ∧ character ∉ context.repository.name.toList ∧
      character ∉ login.toList :=
  ⟨(IsWord.iff_isSearchWord.mpr words.owner).not_mem other,
    (IsWord.iff_isSearchWord.mpr words.repository).not_mem other,
    (IsWord.iff_isSearchWord.mpr words.login).not_mem other⟩

theorem linesBefore_unbroken (plain : '\n' ∉ login.toList) (held : Int) :
    ∀ line ∈ linesBefore login held, '\n' ∉ line.toList := by
  have greeting : '\n' ∉ s!"👋 Hi @{login}! Thanks for your enthusiasm to contribute!".toList := by
    simp [toString, plain]
  have shown : '\n' ∉ (heldLine held).toList := by
    have digits : '\n' ∉ (toString held).toList := Text.not_mem_toString held rfl (by decide)
    unfold heldLine
    generalize toString held = shown at digits
    simp [toString, digits]
  simp only [linesBefore, List.forall_mem_cons]
  exact ⟨greeting, by decide, by decide +kernel, by decide, shown, by decide, by decide +kernel,
    nofun⟩

theorem searchLink_unbroken (words : AreWords context login) (query : String) :
    '\n' ∉ (Comment.searchLink context.repository query).toList := by
  rcases words.unbroken (show Json.isSearchCharacter '\n' = false by decide) with ⟨owner, name, -⟩
  have encoded := Text.Percent.not_mem_encode rfl (show '\n' ∉ Comment.plainMarks by decide)
    (by decide) query
  unfold Comment.searchLink
  generalize Text.Percent.encode Comment.plainMarks query = shown at encoded
  simp [toString, owner, name, encoded]

theorem link_unbroken {title : String} (plain : '\n' ∉ title.toList)
    (words : AreWords context login) (query : String) :
    '\n' ∉ (title ++ s!"({Comment.searchLink context.repository query})").toList := by
  have target := searchLink_unbroken words query
  generalize Comment.searchLink context.repository query = shown at target
  simp [toString, plain, target]

theorem linesOnBlocked_unbroken (words : AreWords context login) (hasBlocked : Bool) :
    ∀ line ∈ linesOnBlocked login context.repository hasBlocked, '\n' ∉ line.toList := by
  have link : '\n' ∉ (blockedLink login context.repository).toList :=
    link_unbroken (by decide) words _
  cases hasBlocked with
  | false => exact nofun
  | true =>
      simp only [linesOnBlocked, if_true, List.forall_mem_cons]
      exact ⟨by decide, by decide, link, nofun⟩

theorem lines_limitExceeded (words : AreWords context login) (held : Int) (hasBlocked : Bool) :
    Text.lines (Comment.limitExceeded login (toString held) context.repository hasBlocked) =
      linesBefore login held ++ [openLink login context.repository] ++
        linesOnBlocked login context.repository hasBlocked ++ linesAfter := by
  have plain := words.unbroken (show Json.isSearchCharacter '\n' = false by decide)
  have before := linesBefore_unbroken plain.2.2 held
  have link : '\n' ∉ (openLink login context.repository).toList := link_unbroken (by decide) words _
  have after : ∀ line ∈ linesAfter, '\n' ∉ line.toList := by decide +kernel
  rw [limitExceeded_eq, Text.lines_ofLines (by simp [linesAfter])]
  intro line member
  simp only [List.mem_append, List.mem_singleton] at member
  rcases member with ((member | rfl) | member) | member
  · exact before line member
  · exact link
  · exact linesOnBlocked_unbroken words hasBlocked line member
  · exact after line member

/-! ## What the comment tells -/

theorem heldLine_injective {first second : Int} (same : heldLine first = heldLine second) :
    first = second := by
  have characters := congrArg String.toList same
  unfold heldLine at characters
  simp only [String.toList_append, List.append_assoc, List.append_cancel_left_eq] at characters
  have ends : (toString first).toList ++ '*' :: "* open issues.".toList =
      (toString second).toList ++ '*' :: "* open issues.".toList := characters
  exact Text.eq_of_append_eq rfl (by decide) ends

/-- The number is shown in one line, which no other one is like. -/
theorem heldLine_mem_iff (words : AreWords context login) {held shown : Int} {hasBlocked : Bool} :
    heldLine shown ∈ Text.lines
        (Comment.limitExceeded login (toString held) context.repository hasBlocked) ↔
      shown = held := by
  have begins := begins_heldLine shown
  rw [lines_limitExceeded words]
  constructor
  · intro member
    simp only [List.mem_append, List.mem_singleton] at member
    rcases member with ((member | same) | member) | member
    · rcases begins_linesBefore member begins with mark | ⟨-, same⟩
      · exact absurd mark (by decide)
      · exact heldLine_injective same
    · rw [same] at begins
      exact absurd (begins.unique (begins_openLink _ _)) (by decide)
    · exact absurd (begins_linesOnBlocked member begins) (by decide)
    · exact absurd (begins_linesAfter member begins) (by decide)
  · intro same
    rw [same]
    simp [linesBefore]

theorem linked_limitExceeded (words : AreWords context login) (held : Int) (hasBlocked : Bool)
    (title : String) :
    linked title (Comment.limitExceeded login (toString held) context.repository hasBlocked) =
      (openLink login context.repository ::
        linesOnBlocked login context.repository hasBlocked).filterMap (linkedQuery? title) := by
  have before : ∀ line ∈ linesBefore login held, ¬Begins '[' line := by
    intro line member begins
    rcases begins_linesBefore member begins with mark | ⟨mark, -⟩
    · exact absurd mark (by decide)
    · exact absurd mark (by decide)
  have after : ∀ line ∈ linesAfter, ¬Begins '[' line := by
    intro line member begins
    exact absurd (begins_linesAfter member begins) (by decide)
  rw [linked, lines_limitExceeded words, List.filterMap_append, List.append_assoc,
    List.filterMap_append, filterMap_linkedQuery? before, filterMap_linkedQuery? after,
    List.nil_append, List.append_nil, List.singleton_append]

theorem linkedQuery?_of_other {title opening : String}
    (other : ∀ rest, s!"[{title}](".toList.isPrefixOf (opening.toList ++ rest) = false)
    (tail : String) : linkedQuery? title (opening ++ tail) = none := by
  have mismatched := other tail.toList
  rw [← String.toList_append] at mismatched
  rw [linkedQuery?, mismatched]
  rfl

/-- The link to the open issues asks for what was counted first. -/
theorem linked_open (words : AreWords context login) (held : Int) (hasBlocked : Bool) :
    linked "Your open assignments"
        (Comment.limitExceeded login (toString held) context.repository hasBlocked) =
      [Text.Utf8.encode (openQuery login)] := by
  rcases words.unbroken (show Json.isSearchCharacter '?' = false by decide) with ⟨owner, name, -⟩
  have link : linkedQuery? "Your open assignments" (openLink login context.repository) =
      some (Text.Utf8.encode (openQuery login)) :=
    linkedQuery?_searchLink (by decide) owner name _
  have other : linkedQuery? "Your open assignments" (blockedLink login context.repository) = none :=
    linkedQuery?_of_other (fun _ => rfl) _
  have heading : linkedQuery? "Your open assignments" "👉 **View your blocked issues:**" = none := by
    decide +kernel
  have empty : linkedQuery? "Your open assignments" "" = none := by decide +kernel
  rw [linked_limitExceeded words, List.filterMap_cons_some link]
  cases hasBlocked with
  | false => rfl
  | true => simp [linesOnBlocked, other, heading, empty]

/-- The link to the blocked issues, if there are any, asks for what was counted next. -/
theorem linked_blocked (words : AreWords context login) (held : Int) (hasBlocked : Bool) :
    linked "Your blocked issues"
        (Comment.limitExceeded login (toString held) context.repository hasBlocked) =
      if hasBlocked then [Text.Utf8.encode (blockedQuery login)] else [] := by
  rcases words.unbroken (show Json.isSearchCharacter '?' = false by decide) with ⟨owner, name, -⟩
  have link : linkedQuery? "Your blocked issues" (blockedLink login context.repository) =
      some (Text.Utf8.encode (blockedQuery login)) :=
    linkedQuery?_searchLink (by decide) owner name _
  have other : linkedQuery? "Your blocked issues" (openLink login context.repository) = none :=
    linkedQuery?_of_other (fun _ => rfl) _
  have heading : linkedQuery? "Your blocked issues" "👉 **View your blocked issues:**" = none := by
    decide +kernel
  have empty : linkedQuery? "Your blocked issues" "" = none := by decide +kernel
  rw [linked_limitExceeded words, List.filterMap_cons_none other]
  cases hasBlocked with
  | false => rfl
  | true => simp [linesOnBlocked, link, heading, empty]

end

/-- A comment on the limit tells the truth: it shows the number that was counted and no other, and
its links ask for what was counted. The link to blocked issues is there exactly if there are any. -/
structure TellsLimit (held : Int) (hasBlocked : Prop) (opens blocks comment : String) : Prop where
  shows (shown : Int) : heldLine shown ∈ Text.lines comment ↔ shown = held
  opensLinked : linked "Your open assignments" comment = [Text.Utf8.encode opens]
  blocksLinked (some_ : hasBlocked) :
    linked "Your blocked issues" comment = [Text.Utf8.encode blocks]
  unlinked (none_ : ¬hasBlocked) : linked "Your blocked issues" comment = []

theorem tellsLimit {context : Context} {login : String} (words : AreWords context login)
    (held : Int) {hasBlocked : Prop} {flag : Bool} (same : flag = true ↔ hasBlocked) :
    TellsLimit held hasBlocked (openQuery login) (blockedQuery login)
      (Comment.limitExceeded login (toString held) context.repository flag) where
  shows shown := heldLine_mem_iff words
  opensLinked := linked_open words held flag
  blocksLinked some_ := by rw [linked_blocked words, if_pos (same.mpr some_)]
  unlinked none_ := by rw [linked_blocked words, if_neg (none_ ∘ same.mp)]

end Steward.Assignment
