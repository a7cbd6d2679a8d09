import Steward.Label

/-! Skill levels of issues, and what each asks of those who want to be assigned. -/

namespace Steward

inductive SkillLevel where
  | goodFirstIssue
  | beginner
  | intermediate
  | advanced
deriving DecidableEq, Repr

namespace SkillLevel

def all : List SkillLevel := [.goodFirstIssue, .beginner, .intermediate, .advanced]

def label : SkillLevel → String
  | .goodFirstIssue => "skill: good first issue"
  | .beginner => "skill: beginner"
  | .intermediate => "skill: intermediate"
  | .advanced => "skill: advanced"

def ofLabel? (label : String) : Option SkillLevel := all.find? (·.label = label)

def displayName : SkillLevel → String
  | .goodFirstIssue => "Good First Issue"
  | .beginner => "Beginner"
  | .intermediate => "Intermediate"
  | .advanced => "Advanced"

structure Prerequisite where
  level : SkillLevel
  count : Nat
  plural : String
deriving DecidableEq, Repr

def prerequisite? : SkillLevel → Option Prerequisite
  | .goodFirstIssue => none
  | .beginner => some ⟨.goodFirstIssue, 2, "Good First Issues"⟩
  | .intermediate => some ⟨.beginner, 3, "Beginner Issues"⟩
  | .advanced => some ⟨.intermediate, 3, "Intermediate Issues"⟩

def firstOf (issue : Json) : List SkillLevel → Except Failure (Option SkillLevel)
  | [] => return none
  | level :: rest => do
      if ← Label.has issue level.label then return some level else firstOf issue rest

def ofIssue (issue : Json) : Except Failure (Option SkillLevel) := firstOf issue all

end SkillLevel

end Steward
