import TagGrammar.Text.Hexadecimal

/-!
# Decoding UTF-8

Decoding is strict: a sequence that is overlong, encodes a surrogate, exceeds U+10FFFF or is cut
short is refused. A refusal names the first character that cannot be read.
-/

namespace TagGrammar.Text.Utf8

inductive Reason where
  | badStart
  | badContinuation
  | truncated

/-- The bytes at which decoding stops: their position, their number and the first of them. -/
structure Fault where
  position : Nat
  length : Nat
  lead : UInt8
  reason : Reason

/-- A character that has been read in part: its first byte, the number of bytes read and still
owed, and the interval the next byte has to lie in. -/
structure Pending where
  lead : UInt8
  read : Nat
  owed : Nat
  low : UInt8
  high : UInt8

/-- What the first byte of a character asks for, or nothing if no character starts with it. -/
def start? (b : UInt8) : Option Pending :=
  if b < 0x80 then some ⟨b, 1, 0, 0x80, 0xBF⟩
  else if b < 0xC2 then none
  else if b < 0xE0 then some ⟨b, 1, 1, 0x80, 0xBF⟩
  else if b < 0xF0 then
    some ⟨b, 1, 2, if b = 0xE0 then 0xA0 else 0x80, if b = 0xED then 0x9F else 0xBF⟩
  else if b < 0xF5 then
    some ⟨b, 1, 3, if b = 0xF0 then 0x90 else 0x80, if b = 0xF4 then 0x8F else 0xBF⟩
  else none

def Pending.next (p : Pending) : Pending :=
  ⟨p.lead, p.read + 1, p.owed - 1, 0x80, 0xBF⟩

/-- The first fault in the bytes that follow `position` bytes, the last of which may have begun a
character. Bytes without a fault count as cut short at their end. -/
def firstFault (position : Nat) : Option Pending → List UInt8 → Fault
  | none, [] => ⟨position, 0, 0, .truncated⟩
  | some p, [] => ⟨position - p.read, p.read, p.lead, .truncated⟩
  | none, b :: rest =>
    match start? b with
    | none => ⟨position, 1, b, .badStart⟩
    | some p => firstFault (position + 1) (if p.owed = 0 then none else some p) rest
  | some p, b :: rest =>
    if p.low ≤ b && b ≤ p.high then
      firstFault (position + 1) (if p.owed = 1 then none else some p.next) rest
    else ⟨position - p.read, p.read, p.lead, .badContinuation⟩

/-- Decodes bytes, or finds the first fault in them. -/
def decode (bytes : ByteArray) : Except Fault String :=
  match String.fromUTF8? bytes with
  | some text => .ok text
  | none => .error (firstFault 0 none bytes.data.toList)

theorem decode_toUTF8 (s : String) : decode s.toUTF8 = .ok s := by
  simp [decode, String.fromUTF8?, s.isValidUTF8, String.fromUTF8]

/-! ## Wording -/

def Reason.message : Reason → String
  | .badStart => "invalid start byte"
  | .badContinuation => "invalid continuation byte"
  | .truncated => "unexpected end of data"

def Fault.message (fault : Fault) : String :=
  let place :=
    if fault.length = 1 then
      let byte := String.ofList (hexPadded 2 fault.lead.toNat)
      s!"byte 0x{byte} in position {fault.position}"
    else s!"bytes in position {fault.position}-{fault.position + fault.length - 1}"
  s!"'utf-8' codec can't decode {place}: {fault.reason.message}"

end TagGrammar.Text.Utf8
