import CodeGloss.Text.Basic

/-! # UTF-8

Octets are read as UTF-8, one character at a time.  Octets that begin no character are a fault:
either they can begin none whatever follows, or the octets end in the middle of a character.  A
strict reading stops at the first fault and says where it is; a lenient reading writes a replacement
character for every fault.
-/

namespace CodeGloss
namespace Utf8

/-- What octets begin with. -/
inductive Lead
  /-- A character, with the number of its octets. -/
  | character (c : Char) (size : Nat)
  /-- As many octets as can begin no character. -/
  | invalid (size : Nat)
  /-- A character whose last octets are missing. -/
  | incomplete
  deriving DecidableEq, Repr

/-- Whether the octet continues a character. -/
def isContinuation (b : UInt8) : Bool :=
  0x80 ≤ b && b ≤ 0xBF

/-- The octets that may follow the first octet of a character, as a closed range. -/
def secondRange (b : UInt8) : UInt8 × UInt8 :=
  if b = 0xE0 then (0xA0, 0xBF)
  else if b = 0xED then (0x80, 0x9F)
  else if b = 0xF0 then (0x90, 0xBF)
  else if b = 0xF4 then (0x80, 0x8F)
  else (0x80, 0xBF)

/-- Whether `second` may follow `first`. -/
def follows (first second : UInt8) : Bool :=
  (secondRange first).1 ≤ second && second ≤ (secondRange first).2

/-- The six bits that an octet adds to a character. -/
def payload (b : UInt8) : Nat :=
  b.toNat % 64

/-- What the octets begin with, given the first of them and those behind it. -/
def lead (first : UInt8) (later : List UInt8) : Lead :=
  if first < 0x80 then .character (Char.ofNat first.toNat) 1
  else if first < 0xC2 || 0xF4 < first then .invalid 1
  else match later with
    | [] => .incomplete
    | second :: later =>
      if !follows first second then .invalid 1
      else if first < 0xE0 then
        .character (Char.ofNat (first.toNat % 32 * 64 + payload second)) 2
      else match later with
        | [] => .incomplete
        | third :: later =>
          if !isContinuation third then .invalid 2
          else if first < 0xF0 then
            .character
              (Char.ofNat ((first.toNat % 16 * 64 + payload second) * 64 + payload third)) 3
          else match later with
            | [] => .incomplete
            | fourth :: _ =>
              if !isContinuation fourth then .invalid 3
              else .character
                (Char.ofNat (((first.toNat % 8 * 64 + payload second) * 64 + payload third) * 64 +
                  payload fourth)) 4

/-- Where and why octets are not UTF-8. -/
structure Fault where
  /-- The number of octets in front of the fault. -/
  index : Nat
  /-- The number of octets that can begin no character; none if the octets end within one. -/
  size : Option Nat
  deriving DecidableEq, Repr

/-- The text that octets stand for, from the octet with the given index on; `taken` octets at the
start belong to a character already read. -/
def decodeFrom : (taken index : Nat) → List UInt8 → Except Fault Text
  | _, _, [] => .ok []
  | taken + 1, index, _ :: rest => decodeFrom taken (index + 1) rest
  | 0, index, b :: rest =>
    match lead b rest with
    | .character c size =>
      match decodeFrom (size - 1) (index + 1) rest with
      | .ok t => .ok (c :: t)
      | .error fault => .error fault
    | .invalid size => .error ⟨index, some size⟩
    | .incomplete => .error ⟨index, none⟩

/-- The text that octets stand for, or the first fault. -/
def decode (octets : List UInt8) : Except Fault Text :=
  decodeFrom 0 0 octets

/-- The replacement character. -/
def replacement : Char :=
  Char.ofNat 0xFFFD

/-- The text that octets stand for, with a replacement character for every fault; `taken` octets at
the start are accounted for. -/
def decodeLenientFrom : (taken : Nat) → List UInt8 → Text
  | _, [] => []
  | taken + 1, _ :: rest => decodeLenientFrom taken rest
  | 0, b :: rest =>
    match lead b rest with
    | .character c size => c :: decodeLenientFrom (size - 1) rest
    | .invalid size => replacement :: decodeLenientFrom (size - 1) rest
    | .incomplete => [replacement]

/-- The text that octets stand for, with a replacement character for every fault. -/
def decodeLenient (octets : List UInt8) : Text :=
  decodeLenientFrom 0 octets

/-- The octets of a text. -/
def encode (t : Text) : List UInt8 :=
  t.flatMap String.utf8EncodeChar

end Utf8
end CodeGloss
