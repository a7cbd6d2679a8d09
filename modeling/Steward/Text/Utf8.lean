/-! UTF-8: texts from bytes. The first byte that rules the text out is named, together with the
start of the character that it breaks. -/

namespace Steward.Text.Utf8

inductive Reason where
  | start
  | continuation
  | truncated
deriving DecidableEq, Repr

/-- Why bytes are no text: the bytes of the broken character, by position, and the first of them. -/
structure Fault where
  byte : UInt8
  first : Nat
  last : Nat
  reason : Reason
deriving DecidableEq, Repr

def Reason.message : Reason → String
  | .start => "invalid start byte"
  | .continuation => "invalid continuation byte"
  | .truncated => "unexpected end of data"

/-- A character under way: its first byte and position, the continuation bytes still owed, the
bounds of the next one, and the bits so far. -/
structure Pending where
  byte : UInt8
  first : Nat
  owed : Nat
  least : Nat
  greatest : Nat
  bits : Nat

def announced (byte : UInt8) (position : Nat) : Option Pending :=
  let code := byte.toNat
  if 0xc2 ≤ code && code ≤ 0xdf then some ⟨byte, position, 1, 0x80, 0xbf, code - 0xc0⟩
  else if code = 0xe0 then some ⟨byte, position, 2, 0xa0, 0xbf, 0⟩
  else if code = 0xed then some ⟨byte, position, 2, 0x80, 0x9f, 0xd⟩
  else if 0xe1 ≤ code && code ≤ 0xef then some ⟨byte, position, 2, 0x80, 0xbf, code - 0xe0⟩
  else if code = 0xf0 then some ⟨byte, position, 3, 0x90, 0xbf, 0⟩
  else if 0xf1 ≤ code && code ≤ 0xf3 then some ⟨byte, position, 3, 0x80, 0xbf, code - 0xf0⟩
  else if code = 0xf4 then some ⟨byte, position, 3, 0x80, 0x8f, 4⟩
  else none

/-- Decodes the bytes from `position` on; `decoded` holds the characters before them, last first. -/
def decodeFrom (decoded : List Char) (position : Nat) :
    Option Pending → List UInt8 → Except Fault (List Char)
  | none, [] => .ok decoded.reverse
  | some pending, [] => .error ⟨pending.byte, pending.first, position - 1, .truncated⟩
  | none, byte :: rest =>
      if byte.toNat < 0x80 then
        decodeFrom (Char.ofNat byte.toNat :: decoded) (position + 1) none rest
      else
        match announced byte position with
        | some pending => decodeFrom decoded (position + 1) (some pending) rest
        | none => .error ⟨byte, position, position, .start⟩
  | some pending, byte :: rest =>
      if pending.least ≤ byte.toNat && byte.toNat ≤ pending.greatest then
        let bits := pending.bits * 64 + (byte.toNat - 0x80)
        if pending.owed ≤ 1 then
          decodeFrom (Char.ofNat bits :: decoded) (position + 1) none rest
        else
          decodeFrom decoded (position + 1)
            (some { pending with owed := pending.owed - 1, least := 0x80, greatest := 0xbf, bits })
            rest
      else .error ⟨pending.byte, pending.first, position - 1, .continuation⟩

def decode (bytes : List UInt8) : Except Fault String :=
  (decodeFrom [] 0 none bytes).map String.ofList

def encode (text : String) : List UInt8 := text.toList.flatMap String.utf8EncodeChar

end Steward.Text.Utf8
