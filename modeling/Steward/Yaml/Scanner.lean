import Steward.Yaml.Token

/-! The tokens of a whole YAML text. A mapping key written without a question mark is known as a key
only by the colon after it, so each place where such a key may have started is remembered until the
colon comes or can come no more. -/

namespace Steward.Yaml

/-- A place where a key may have started: the number of tokens before it, and whether a key must
stand there. -/
structure KeyPlace where
  tokens : Nat
  required : Bool
  index : Nat
  line : Nat
  column : Nat

/-- The state between two tokens. `indent` is the indentation of the innermost block collection and
`outer` those of the collections around it; `keyPlaces` holds at most one place for each depth of
flow collections. -/
structure Scanner where
  cursor : Cursor
  tokens : Array Token
  flow : Nat
  indent : Int
  outer : List Int
  keyAllowed : Bool
  keyPlaces : List (Nat × KeyPlace)

namespace Scanner

def start (text : List Char) : Scanner := ⟨.start text, #[], 0, -1, [], true, []⟩

def inFlow (scanner : Scanner) : Bool := scanner.flow ≠ 0

def push (scanner : Scanner) (token : Token) : Scanner :=
  { scanner with tokens := scanner.tokens.push token }

def take (scanner : Scanner) (width : Nat) (token : Token) : Scanner :=
  { scanner with cursor := scanner.cursor.skip width, tokens := scanner.tokens.push token }

/-! ## Keys -/

/-- A key stands on one line and has at most 1024 characters. -/
def isStale (scanner : Scanner) (place : KeyPlace) : Bool :=
  place.line ≠ scanner.cursor.line || place.index + 1024 < scanner.cursor.index

def dropStaleKeys (scanner : Scanner) : Except Fault Scanner :=
  if scanner.keyPlaces.any fun place => place.2.required && scanner.isStale place.2 then
    .error .malformed
  else
    .ok { scanner with keyPlaces := scanner.keyPlaces.filter (!scanner.isStale ·.2) }

def keyPlace? (scanner : Scanner) : Option KeyPlace := scanner.keyPlaces.lookup scanner.flow

def eraseKey (scanner : Scanner) : Scanner :=
  { scanner with keyPlaces := scanner.keyPlaces.filter (·.1 ≠ scanner.flow) }

def dropKey (scanner : Scanner) : Except Fault Scanner :=
  if (scanner.keyPlace?.map KeyPlace.required).getD false then .error .malformed
  else .ok scanner.eraseKey

def noteKey (scanner : Scanner) : Except Fault Scanner :=
  if !scanner.keyAllowed then .ok scanner
  else do
    let scanner ← scanner.dropKey
    let required := !scanner.inFlow && scanner.indent = scanner.cursor.column
    let place : KeyPlace :=
      ⟨scanner.tokens.size, required, scanner.cursor.index, scanner.cursor.line,
        scanner.cursor.column⟩
    return { scanner with keyPlaces := (scanner.flow, place) :: scanner.keyPlaces }

def allowKeys (scanner : Scanner) (allowed : Bool) : Scanner :=
  { scanner with keyAllowed := allowed }

/-! ## Indentation -/

def closeBlocks (column : Int) (indent : Int) (tokens : Array Token) :
    List Int → Int × List Int × Array Token
  | [] => (indent, [], tokens)
  | outer :: rest =>
      if column < indent then closeBlocks column outer (tokens.push .blockEnd) rest
      else (indent, outer :: rest, tokens)

def unwind (scanner : Scanner) (column : Int) : Scanner :=
  if scanner.inFlow then scanner
  else
    let (indent, outer, tokens) := closeBlocks column scanner.indent scanner.tokens scanner.outer
    { scanner with indent, outer, tokens }

/-- Opens a block collection at a column, unless one is open there; its first token goes in front of
the token numbered `position`. -/
def openBlock (scanner : Scanner) (column position : Nat) (token : Token) : Scanner :=
  if scanner.indent < column then
    { scanner with
      outer := scanner.indent :: scanner.outer
      indent := column
      tokens := scanner.tokens.insertIdxIfInBounds position token }
  else scanner

def openBlockHere (scanner : Scanner) (token : Token) : Except Fault Scanner :=
  if scanner.inFlow then .ok scanner
  else if !scanner.keyAllowed then .error .malformed
  else .ok (scanner.openBlock scanner.cursor.column scanner.tokens.size token)

/-! ## One token -/

def skipBetween : (bound : Nat) → (crossed : Bool) → Cursor → Cursor × Bool
  | 0, crossed, cursor => (cursor, crossed)
  | bound + 1, crossed, cursor =>
      let cursor := cursor.skipSpaces
      let cursor := if cursor.peek = '#' then cursor.skipWhile (!isLineEnd ·) else cursor
      match cursor.lineBreak with
      | ([], _) => (cursor, crossed)
      | (_, after) => skipBetween bound true after

def toNextToken (scanner : Scanner) : Scanner :=
  let cursor := scanner.cursor
  let cursor := if cursor.index = 0 && cursor.peek = '\ufeff' then cursor.advance else cursor
  let (after, crossed) := skipBetween (cursor.rest.length + 1) false cursor
  { scanner with
    cursor := after
    keyAllowed := scanner.keyAllowed || (crossed && !scanner.inFlow) }

def takeWith (scanner : Scanner) (read : Cursor → Except Fault (Token × Cursor)) :
    Except Fault Scanner := do
  let (token, after) ← read scanner.cursor
  return { scanner with cursor := after, tokens := scanner.tokens.push token }

/-- A token with which no key can start or go on, and which ends every block. -/
def takeBoundary (scanner : Scanner) : Except Fault Scanner := do
  let scanner ← (scanner.unwind (-1)).dropKey
  return scanner.allowKeys false

def takeFlowStart (scanner : Scanner) (token : Token) : Except Fault Scanner := do
  let scanner ← scanner.noteKey
  return { (scanner.take 1 token) with flow := scanner.flow + 1, keyAllowed := true }

def takeFlowEnd (scanner : Scanner) (token : Token) : Except Fault Scanner := do
  let scanner ← scanner.dropKey
  if scanner.inFlow then
    return { (scanner.take 1 token) with flow := scanner.flow - 1, keyAllowed := false }
  else .error .malformed

def takeFlowEntry (scanner : Scanner) : Except Fault Scanner := do
  let scanner ← (scanner.allowKeys true).dropKey
  return scanner.take 1 .flowEntry

def takeBlockEntry (scanner : Scanner) : Except Fault Scanner := do
  let scanner ← scanner.openBlockHere .blockSequenceStart
  let scanner ← (scanner.allowKeys true).dropKey
  return scanner.take 1 .blockEntry

def takeKey (scanner : Scanner) : Except Fault Scanner := do
  let scanner ← scanner.openBlockHere .blockMappingStart
  let scanner ← (scanner.allowKeys !scanner.inFlow).dropKey
  return scanner.take 1 .key

def takeValue (scanner : Scanner) : Except Fault Scanner := do
  match scanner.keyPlace? with
  | some place =>
      let scanner := scanner.eraseKey
      let scanner :=
        { scanner with tokens := scanner.tokens.insertIdxIfInBounds place.tokens .key }
      let scanner :=
        if scanner.inFlow then scanner
        else scanner.openBlock place.column place.tokens .blockMappingStart
      return (scanner.allowKeys false).take 1 .value
  | none =>
      let scanner ← scanner.openBlockHere .blockMappingStart
      let scanner ← (scanner.allowKeys !scanner.inFlow).dropKey
      return scanner.take 1 .value

def takeNamed (scanner : Scanner) (read : Cursor → Except Fault (Token × Cursor)) :
    Except Fault Scanner := do
  let scanner ← scanner.noteKey
  (scanner.allowKeys false).takeWith read

def takeBlockScalar (scanner : Scanner) (folded : Bool) : Except Fault Scanner := do
  let scanner ← (scanner.allowKeys true).dropKey
  let (text, after) ← block folded scanner.indent scanner.cursor
  return { scanner with
    cursor := after
    tokens := scanner.tokens.push (.scalar false (String.ofList text)) }

def takeQuoted (scanner : Scanner) (double : Bool) : Except Fault Scanner :=
  scanner.takeNamed fun cursor => do
    let (text, after) ← quoted double cursor
    return (.scalar false text, after)

def takePlain (scanner : Scanner) : Except Fault Scanner := do
  let scanner ← scanner.noteKey
  let read := plain scanner.inFlow (scanner.indent + 1) scanner.cursor
  return { scanner with
    cursor := read.cursor
    tokens := scanner.tokens.push (.scalar true (String.ofList read.text))
    keyAllowed := read.crossed }

def indicators : List Char :=
  ['-', '?', ':', ',', '[', ']', '\x7b', '\x7d', '#', '&', '*', '!', '|', '>', '\'', '"', '%',
    '@', '\x60']

def startsPlain (scanner : Scanner) : Bool :=
  let mark := scanner.cursor.peek
  if isSeparator mark then false
  else if indicators.contains mark then
    !isSeparator (scanner.cursor.peekAt 1) &&
      (mark = '-' || (!scanner.inFlow && (mark = '?' || mark = ':')))
  else true

def step (scanner : Scanner) : Except Fault Scanner := do
  let scanner ← scanner.toNextToken.dropStaleKeys
  let scanner := scanner.unwind scanner.cursor.column
  let cursor := scanner.cursor
  let mark := cursor.peek
  let spaced := scanner.inFlow || isSeparator (cursor.peekAt 1)
  let inFirstColumn := cursor.column = 0
  if cursor.rest.isEmpty then
    let scanner ← scanner.takeBoundary
    return { scanner.push .streamEnd with keyPlaces := [] }
  else if mark = '%' && inFirstColumn then
    let scanner ← scanner.takeBoundary
    scanner.takeWith Token.ofDirective
  else if inFirstColumn && cursor.atMark '-' then
    return (← scanner.takeBoundary).take 3 .documentStart
  else if inFirstColumn && cursor.atMark '.' then
    return (← scanner.takeBoundary).take 3 .documentEnd
  else if mark = '[' then scanner.takeFlowStart .flowSequenceStart
  else if mark = '\x7b' then scanner.takeFlowStart .flowMappingStart
  else if mark = ']' then scanner.takeFlowEnd .flowSequenceEnd
  else if mark = '\x7d' then scanner.takeFlowEnd .flowMappingEnd
  else if mark = ',' then scanner.takeFlowEntry
  else if mark = '-' && isSeparator (cursor.peekAt 1) then scanner.takeBlockEntry
  else if mark = '?' && spaced then scanner.takeKey
  else if mark = ':' && spaced then scanner.takeValue
  else if mark = '*' then scanner.takeNamed (Token.ofAnchor .alias)
  else if mark = '&' then scanner.takeNamed (Token.ofAnchor .anchor)
  else if mark = '!' then scanner.takeNamed Token.ofTag
  else if mark = '|' && !scanner.inFlow then scanner.takeBlockScalar false
  else if mark = '>' && !scanner.inFlow then scanner.takeBlockScalar true
  else if mark = '\'' then scanner.takeQuoted false
  else if mark = '"' then scanner.takeQuoted true
  else if scanner.startsPlain then scanner.takePlain
  else .error .malformed

/-! ## The whole text -/

def isDone (scanner : Scanner) : Bool := scanner.tokens.back? == some .streamEnd

/-- The tokens that stay as they are, whatever follows: those in front of every place where a key
may still turn out to have started. -/
def settled (scanner : Scanner) : List Token :=
  let live := scanner.keyPlaces.filter (!scanner.isStale ·.2)
  let count := live.foldl (fun least place => min least place.2.tokens) scanner.tokens.size
  scanner.tokens.toList.take count

/-- Reads to the end of the stream, or as far as it can be read. Every step but the last takes at
least one character. -/
def run : (bound : Nat) → Scanner → TokenStream
  | 0, scanner => ⟨scanner.settled, some .malformed⟩
  | bound + 1, scanner =>
      match scanner.step with
      | .error fault => ⟨scanner.settled, some fault⟩
      | .ok next => if next.isDone then ⟨next.tokens.toList, none⟩ else run bound next

end Scanner

def TokenStream.ofText (text : List Char) : TokenStream :=
  if text.all isPrintable then Scanner.run (text.length + 1) (.start text)
  else ⟨[], some .malformed⟩

end Steward.Yaml
