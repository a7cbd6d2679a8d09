import Mathlib.Data.List.TakeWhile
import Steward.Proofs.Yaml.Cursor

/-! Reading directives, anchors and tags. Each ends in the text that it starts in; a version of too
many digits is the only fault besides malformed ones. -/

namespace Steward.Yaml.Token

open Cursor

variable {text : List Char} {cursor : Cursor}

/-! ## Names and tags -/

theorem reads_escapedBytes (bound : Nat) (bytes : List UInt8) (inText : cursor.IsIn text) :
    Reads text (escapedBytes bound bytes cursor) := by
  induction bound generalizing bytes cursor with
  | zero => exact inText
  | succ bound induction =>
      rw [escapedBytes]
      split
      · exact inText
      · split
        · exact induction _ (inText.skip 3)
        · exact trivial

theorem reads_tagText (bound : Nat) (before : List Char) (inText : cursor.IsIn text) :
    Reads text (tagText bound before cursor) := by
  induction bound generalizing before cursor with
  | zero => exact inText
  | succ bound induction =>
      rw [tagText]
      split
      · exact induction _ inText.advance
      · split
        · refine (reads_escapedBytes _ [] inText).bind fun bytes after inText => ?_
          dsimp only
          split
          · exact induction _ inText
          · exact trivial
        · exact inText

theorem reads_requireTagText (inText : cursor.IsIn text) : Reads text (requireTagText cursor) := by
  unfold requireTagText
  split
  · exact reads_tagText _ [] inText
  · exact trivial

theorem reads_tagHandle (inText : cursor.IsIn text) : Reads text (tagHandle cursor) := by
  unfold tagHandle
  refine .ite (fun _ => trivial) fun _ => .ite (fun _ => inText.advance) fun _ => ?_
  exact .ite (fun _ => (inText.advance.span _).advance) fun _ => trivial

theorem reads_ofTag (inText : cursor.IsIn text) : Reads text (ofTag cursor) := by
  have finish (token : Token) {after : Cursor} (inText : after.IsIn text) :
      Reads text (if isGap after.peek then return (token, after) else .error .malformed) :=
    .ite (fun _ => inText) fun _ => trivial
  unfold ofTag
  refine .ite (fun _ => ?_) fun _ => .ite (fun _ => finish _ inText.advance) fun _ => ?_
  · refine (reads_requireTagText (inText.skip 2)).bind fun suffix after inText => ?_
    exact .ite (fun _ => finish _ inText.advance) fun _ => trivial
  · have named (name : List Char) {after : Cursor} (inText : after.IsIn text) :
        Reads text (do
          let read ← requireTagText after
          let token := tag (some (String.ofList name)) (String.ofList read.1)
          if isGap read.2.peek then return (token, read.2) else .error .malformed) :=
      (reads_requireTagText inText).bind fun suffix after inText => finish _ inText
    refine .ite (fun _ => ?_) fun _ => named _ inText.advance
    exact (reads_tagHandle inText).bind fun name after inText => named name inText

theorem reads_ofAnchor (make : String → Token) (inText : cursor.IsIn text) :
    Reads text (ofAnchor make cursor) :=
  .ite (fun _ => trivial) fun _ => inText.advance.span _

/-! ## Directives -/

theorem reads_digits (inText : cursor.IsIn text) : Reads text (digits cursor) := by
  unfold digits
  refine .ite (fun _ => trivial) fun _ => .ite (fun long => ?_) fun _ => inText.span _
  refine .version ?_ (fun character among => ?_) long
  · exact (List.takeWhile_prefix _).isInfix.trans inText.isInfix
  · exact List.mem_takeWhile_imp among

theorem reads_versionDirective (inText : cursor.IsIn text) :
    Reads text (versionDirective cursor) := by
  refine (reads_digits inText.skipSpaces).bind fun major after inText => ?_
  refine .ite (fun _ => trivial) fun _ => ?_
  refine (reads_digits inText.advance).bind fun minor after inText => ?_
  exact .ite (fun _ => inText) fun _ => trivial

theorem reads_handleDirective (inText : cursor.IsIn text) :
    Reads text (handleDirective cursor) := by
  refine (reads_tagHandle inText.skipSpaces).bind fun name after inText => ?_
  refine .ite (fun _ => trivial) fun _ => ?_
  refine (reads_requireTagText inText.skipSpaces).bind fun start after inText => ?_
  exact .ite (fun _ => inText) fun _ => trivial

theorem reads_ofDirective (inText : cursor.IsIn text) : Reads text (ofDirective cursor) := by
  unfold ofDirective
  split
  rename_i name afterName read
  have inText : afterName.IsIn text := by
    rw [show afterName = (cursor.advance.span isNameCharacter).2 by rw [read]]
    exact inText.advance.span _
  refine .ite (fun _ => trivial) fun _ => .ite (fun _ => ?_) fun _ => .ite (fun _ => ?_) fun _ => ?_
  · refine (reads_versionDirective inText).bind fun token after inText => ?_
    dsimp only
    split
    · exact inText.finishLine ‹_›
    · exact trivial
  · refine (reads_handleDirective inText).bind fun token after inText => ?_
    dsimp only
    split
    · exact inText.finishLine ‹_›
    · exact trivial
  · simp only [pure_bind]
    split
    · exact (inText.skipWhile _).finishLine ‹_›
    · exact trivial

end Steward.Yaml.Token
