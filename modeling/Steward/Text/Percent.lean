/-! Percent-encoding: a byte of a text's UTF-8 form as `%` and two hexadecimal digits. -/

namespace Steward.Text.Percent

def isUnreserved (character : Char) : Bool :=
  character.isAlphanum || character = '_' || character = '.' || character = '-' || character = '~'

def digit (value : Nat) : Char :=
  if value < 10 then Char.ofNat (48 + value) else Char.ofNat (55 + value)

def encodeByte (byte : UInt8) : List Char :=
  ['%', digit (byte.toNat / 16), digit (byte.toNat % 16)]

example : encodeByte 0x2f = ['%', '2', 'F'] := rfl

/-- A character as it stands in an address, where `extra` lists the marks that are kept besides the
unreserved characters. -/
def encodeCharacter (extra : List Char) (character : Char) : List Char :=
  if isUnreserved character || extra.contains character then [character]
  else (String.utf8EncodeChar character).flatMap encodeByte

def encode (extra : List Char) (text : String) : String :=
  String.ofList (text.toList.flatMap (encodeCharacter extra))

def encodeQuery (text : String) : String :=
  String.ofList (text.toList.flatMap fun character =>
    if character = ' ' then ['+'] else encodeCharacter [] character)

end Steward.Text.Percent
