import Phrasebook.Text.Basic

/-!
# Strict UTF-8

Bytes are read by the table of well-formed sequences: the first byte fixes the length and
the range of the second byte, and every later byte lies between 80 and BF. A failure names
the first byte of the bad sequence, its position, and how many bytes of it were
well formed before the fault.
-/

namespace Phrasebook.Text.Utf8

/-- Why a sequence is not well formed. -/
inductive Fault
  /-- No sequence starts with this byte. -/
  | invalidStart
  /-- A byte that cannot continue the sequence follows. -/
  | invalidContinuation
  /-- The bytes end inside the sequence. -/
  | truncated
deriving DecidableEq

/-- A failure to decode: the fault, where the bad sequence starts, its first byte, and the
number of bytes that belong to it. -/
structure Failure where
  fault : Fault
  position : Nat
  first : UInt8
  size : Nat
deriving DecidableEq

/-- The words for a fault. -/
def Fault.reason : Fault → Text
  | .invalidStart => "invalid start byte".toList
  | .invalidContinuation => "invalid continuation byte".toList
  | .truncated => "unexpected end of data".toList

/-- The message of a failure: one byte is shown by its value, several by their positions. -/
def Failure.message (f : Failure) : Text :=
  let place :=
    if f.size = 1 then
      "byte 0x".toList ++ hex 2 f.first.toNat ++ " in position ".toList ++ ofNat f.position
    else
      "bytes in position ".toList ++ ofNat f.position ++ "-".toList ++
        ofNat (f.position + f.size - 1)
  "'utf-8' codec can't decode ".toList ++ place ++ ": ".toList ++ f.fault.reason

/-- A byte that may stand third or fourth in a sequence. -/
def isContinuation (b : UInt8) : Bool :=
  0x80 ≤ b && b ≤ 0xBF

/-- Whether `b` may stand second after `first`: the overlong forms, the surrogates and
everything past U+10FFFF are ruled out here. -/
def isSecond (first b : UInt8) : Bool :=
  if first = 0xE0 then 0xA0 ≤ b && b ≤ 0xBF
  else if first = 0xED then 0x80 ≤ b && b ≤ 0x9F
  else if first = 0xF0 then 0x90 ≤ b && b ≤ 0xBF
  else if first = 0xF4 then 0x80 ≤ b && b ≤ 0x8F
  else isContinuation b

/-- The number of bytes in a sequence with this first byte. -/
def width? (first : UInt8) : Option Nat :=
  if first < 0x80 then some 1
  else if first < 0xC2 then none
  else if first < 0xE0 then some 2
  else if first < 0xF0 then some 3
  else if first < 0xF5 then some 4
  else none

/-- The six value bits of a continuation byte. -/
def low (b : UInt8) : Nat :=
  b.toNat % 64

/-- The text that bytes encode, with `position` bytes before them. -/
def decodeFrom (position : Nat) : List UInt8 → Except Failure Text
  | [] => .ok []
  | a :: rest =>
    let fail (fault : Fault) (size : Nat) : Except Failure Text :=
      .error ⟨fault, position, a, size⟩
    match width? a with
    | none => fail .invalidStart 1
    | some 1 => (decodeFrom (position + 1) rest).map (Char.ofNat a.toNat :: ·)
    | some 2 =>
      match rest with
      | [] => fail .truncated 1
      | b :: rest =>
        if !isSecond a b then fail .invalidContinuation 1
        else
          (decodeFrom (position + 2) rest).map (Char.ofNat (a.toNat % 32 * 64 + low b) :: ·)
    | some 3 =>
      match rest with
      | [] => fail .truncated 1
      | b :: rest =>
        if !isSecond a b then fail .invalidContinuation 1
        else match rest with
          | [] => fail .truncated 2
          | c :: rest =>
            if !isContinuation c then fail .invalidContinuation 2
            else
              (decodeFrom (position + 3) rest).map
                (Char.ofNat (a.toNat % 16 * 4096 + low b * 64 + low c) :: ·)
    | some _ =>
      match rest with
      | [] => fail .truncated 1
      | b :: rest =>
        if !isSecond a b then fail .invalidContinuation 1
        else match rest with
          | [] => fail .truncated 2
          | c :: rest =>
            if !isContinuation c then fail .invalidContinuation 2
            else match rest with
              | [] => fail .truncated 3
              | d :: rest =>
                if !isContinuation d then fail .invalidContinuation 3
                else
                  (decodeFrom (position + 4) rest).map
                    (Char.ofNat (a.toNat % 8 * 262144 + low b * 4096 + low c * 64 + low d) :: ·)

/-- The text that bytes encode. -/
def decode (bytes : List UInt8) : Except Failure Text :=
  decodeFrom 0 bytes

/-- The bytes of one character. -/
def encodeChar (c : Char) : List UInt8 :=
  let n := c.toNat
  let tail (shift : Nat) : UInt8 := UInt8.ofNat (0x80 + (n >>> shift) % 64)
  if n < 0x80 then [UInt8.ofNat n]
  else if n < 0x800 then [UInt8.ofNat (0xC0 + n / 64), tail 0]
  else if n < 0x10000 then [UInt8.ofNat (0xE0 + n / 4096), tail 6, tail 0]
  else [UInt8.ofNat (0xF0 + n / 262144), tail 12, tail 6, tail 0]

/-- The bytes of a text. -/
def encode (s : Text) : List UInt8 :=
  s.flatMap encodeChar

end Phrasebook.Text.Utf8
