import Steward.Proofs.Outcome
import Steward.Yaml.Load

/-! What is to blame where a YAML text has a part without a value. There are few causes: a scalar
whose text does not fit its tag, a tag of scalars on a mapping, too many collections within each
other, an escape beyond all characters, and a version of too many digits. -/

namespace Steward.Yaml

/-! ## Properties -/

def Token.isProperty : Token → Bool
  | .anchor _ => true
  | .tag _ _ => true
  | _ => false

/-- A place among tokens where a node may begin: no property of a node stands right before it. -/
structure IsPlace (tokens place : List Token) : Prop where
  ends : place <:+ tokens
  begins : ∀ token, token :: place <:+ tokens → token.isProperty = false

inductive StandsFor (tokens : List Token) : Option String → String → Prop
  | verbatim : StandsFor tokens none ""
  | standard {handle start : String} (listed : (handle, start) ∈ Compose.standardHandles) :
      StandsFor tokens (some handle) start
  | directive {handle start : String} (written : Token.handle handle start ∈ tokens) :
      StandsFor tokens (some handle) start

inductive IsFullName (tokens : List Token) : Option (Option String × String) → Option String → Prop
  | untagged : IsFullName tokens none none
  | tagged {handle : Option String} {suffix start : String}
      (stands : StandsFor tokens handle start) :
      IsFullName tokens (some (handle, suffix)) (some (start ++ suffix))

def splitAnchor : List Token → Option String × List Token
  | .anchor name :: rest => (some name, rest)
  | tokens => (none, tokens)

def splitTag : List Token → Option (Option String × String) × List Token
  | .tag handle suffix :: rest => (some (handle, suffix), rest)
  | tokens => (none, tokens)

/-- The tag among the properties of a node, and the tokens after them. An anchor stands on either
side of the tag. -/
def splitProperties (place : List Token) : Option (Option String × String) × List Token :=
  let tagged := splitTag (splitAnchor place).2
  if (splitAnchor place).1.isNone && tagged.1.isSome then (tagged.1, (splitAnchor tagged.2).2)
  else tagged

def IsTagged (tokens : List Token) (name : Option String) (rest : List Token) : Prop :=
  ∃ place found, IsPlace tokens place ∧ splitProperties place = (found, rest) ∧
    IsFullName tokens found name

/-! ## Tokens -/

def Token.isContent : Token → Bool
  | .scalar _ _ => true
  | .flowSequenceStart => true
  | .flowMappingStart => true
  | _ => false

def Token.opens : Token → Bool
  | .blockSequenceStart => true
  | .blockMappingStart => true
  | .flowSequenceStart => true
  | .flowMappingStart => true
  | .blockEntry => true
  | .key => true
  | _ => false

def IsContent (tokens : List Token) (text : Wording) : Prop :=
  text = "" ∨ ∃ isPlain, Token.scalar isPlain text ∈ tokens

/-- A scalar as some tokens write it, with the tag before it or that of its look. Properties with
nothing behind them write an empty one. -/
inductive IsWritten (tokens : List Token) : Tag → Wording → Prop
  | scalar {name : Option String} {isPlain : Bool} {text : Wording} {rest : List Token}
      (tagged : IsTagged tokens name (.scalar isPlain text :: rest)) :
      IsWritten tokens (Compose.scalarTag name isPlain text) text
  | empty {name : Option String} {rest : List Token} (tagged : IsTagged tokens name rest)
      (bare : (rest.headD .streamEnd).isContent = false) :
      IsWritten tokens (Compose.scalarTag name true "") ""

def TagsMapping (tokens : List Token) (name : String) : Prop :=
  ∃ rest, IsTagged tokens (some name) (.flowMappingStart :: rest) ∨
    IsTagged tokens (some name) (.blockMappingStart :: rest)

/-- Tokens that bring about a fault. A mapping with a tag of scalars has the text that it gives to
the value key, and none if it is that value itself. -/
inductive IsBlamed (tokens : List Token) : ValueFault → Prop
  | scalar {tag : Tag} {text : Wording} {fault : ValueFault} (written : IsWritten tokens tag text)
      (valueless : Datum.ofScalar tag text = .error (.value fault)) : IsBlamed tokens fault
  | mapping {name : String} {text : Wording} {fault : ValueFault}
      (tags : TagsMapping tokens name) (content : IsContent tokens text)
      (valueless : Datum.ofScalar (.ofName name) text = .error (.value fault)) :
      IsBlamed tokens fault
  | timestampMapping {name : String} (tags : TagsMapping tokens name)
      (isTimestamp : Tag.ofName name = .timestamp) : IsBlamed tokens .timestampMapping
  | ownValue {name : String} (tags : TagsMapping tokens name)
      (isScalar : (Tag.ofName name).isScalar = true ∨ Tag.ofName name = .value) :
      IsBlamed tokens .nesting
  | depth (many : Compose.greatestDepth ≤ tokens.countP Token.opens) : IsBlamed tokens .nesting

/-- A text that brings about a fault, by what its tokens say or by what cannot become one. -/
inductive Blames (text : List Char) : ValueFault → Prop
  | escape {digits : List Char} {code : Nat} (written : '\\' :: 'U' :: digits <:+: text)
      (eight : digits.length = 8) (codeIs : Text.hexNumber? 8 0 digits = some code)
      (beyond : 0x110000 ≤ code) : Blames text (.character code)
  | version {digits : List Char} (written : digits <:+: text)
      (areDigits : ∀ character ∈ digits, character.isDigit = true)
      (long : Decimal.greatestLength < digits.length) : Blames text (.digitCount digits.length)
  | tokens {fault : ValueFault} (blamed : IsBlamed (TokenStream.ofText text).tokens fault) :
      Blames text fault

/-- A malformed text needs no excuse, and a part without a value needs something to blame. -/
def Excuses (blames : ValueFault → Prop) : Fault → Prop
  | .malformed => True
  | .value fault => blames fault

variable {tokens place rest : List Token} {tag : Tag} {text : Wording} {name : Option String}

/-! ## Places -/

theorem isPlace_self (tokens : List Token) : IsPlace tokens tokens where
  ends := List.suffix_rfl
  begins := fun token longer => absurd longer.length_le (by simp)

/-- A node may begin behind any token that is no property. -/
theorem isPlace_of_cons {token : Token} (ends : token :: place <:+ tokens)
    (other : token.isProperty = false) : IsPlace tokens place where
  ends := (List.suffix_cons token place).trans ends
  begins := fun before longer => by
    have same := List.suffix_of_suffix_length_le longer ends (Nat.le_refl _)
    cases same.eq_of_length rfl
    exact other

theorem splitAnchor_suffix (place : List Token) : (splitAnchor place).2 <:+ place := by
  unfold splitAnchor
  split
  · exact List.suffix_cons _ _
  · exact List.suffix_rfl

theorem splitTag_suffix (place : List Token) : (splitTag place).2 <:+ place := by
  unfold splitTag
  split
  · exact List.suffix_cons _ _
  · exact List.suffix_rfl

theorem splitProperties_suffix (place : List Token) : (splitProperties place).2 <:+ place := by
  have fewer := (splitTag_suffix (splitAnchor place).2).trans (splitAnchor_suffix place)
  unfold splitProperties
  dsimp only
  split
  · exact (splitAnchor_suffix _).trans fewer
  · exact fewer

theorem IsTagged.suffix (tagged : IsTagged tokens name rest) : rest <:+ tokens := by
  rcases tagged with ⟨place, found, isPlace, split, -⟩
  have fewer := splitProperties_suffix place
  rw [split] at fewer
  exact fewer.trans isPlace.ends

theorem IsWritten.content (written : IsWritten tokens tag text) : IsContent tokens text := by
  cases written with
  | scalar tagged => exact .inr ⟨_, tagged.suffix.mem List.mem_cons_self⟩
  | empty _ _ => exact .inl rfl

end Steward.Yaml
