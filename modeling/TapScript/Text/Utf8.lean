import TapScript.Text.Quoted

/-! # UTF-8

Reading bytes as text stops at the first byte that begins no character and says which bytes
are wrong and why.
-/

namespace TapScript.Text

/-- Why some bytes are no character. -/
inductive BadBytes
  | start
  | continuation
  | unfinished
  deriving DecidableEq, Repr

/-- Bytes that are no character, with the position of the first. -/
structure DecodeError where
  position : Nat
  bytes : List UInt8
  reason : BadBytes
  deriving DecidableEq, Repr

namespace BadBytes

def message : BadBytes → String
  | start => "invalid start byte"
  | continuation => "invalid continuation byte"
  | unfinished => "unexpected end of data"

end BadBytes

namespace DecodeError

def message (e : DecodeError) : String :=
  let which :=
    match e.bytes with
    | [b] => s!"byte 0x{String.ofList (hex 2 b.toNat)} in position {e.position}"
    | bs => s!"bytes in position {e.position}-{e.position + bs.length - 1}"
  s!"'utf-8' codec can't decode {which}: {e.reason.message}"

end DecodeError

/-- The number of bytes of the character that a first byte begins. -/
def byteCount? (b : UInt8) : Option Nat :=
  if b < 0x80 then some 1
  else if b < 0xc2 then none
  else if b < 0xe0 then some 2
  else if b < 0xf0 then some 3
  else if b < 0xf5 then some 4
  else none

/-- Whether a second byte may follow a first one. -/
def isSecond (b c : UInt8) : Bool :=
  let low := if b = 0xe0 then 0xa0 else if b = 0xf0 then 0x90 else 0x80
  let high := if b = 0xed then 0x9f else if b = 0xf4 then 0x8f else 0xbf
  low ≤ c && c ≤ high

/-- A byte that may stand third or fourth. -/
def isLater (c : UInt8) : Bool :=
  0x80 ≤ c && c ≤ 0xbf

/-- The bits of a character in a byte after the first. -/
def lowBits (c : UInt8) : Nat :=
  c.toNat % 64

/-- The character at the front of some bytes, and the number of its bytes. -/
def decodeChar (bs : List UInt8) (position : Nat) : Except DecodeError (Char × Nat) :=
  let fail {α : Type} (n : Nat) (r : BadBytes) : Except DecodeError α :=
    .error ⟨position, bs.take n, r⟩
  match bs with
  | [] => fail 0 .unfinished
  | b :: rest =>
    match byteCount? b, rest with
    | none, _ => fail 1 .start
    | some 1, _ => .ok (Char.ofNat b.toNat, 1)
    | some _, [] => fail 1 .unfinished
    | some n, c :: rest =>
      if !isSecond b c then fail 1 .continuation
      else if n = 2 then .ok (Char.ofNat (b.toNat % 32 * 64 + lowBits c), 2)
      else
        match rest with
        | [] => fail 2 .unfinished
        | d :: rest =>
          if !isLater d then fail 2 .continuation
          else if n = 3 then
            .ok (Char.ofNat ((b.toNat % 16 * 64 + lowBits c) * 64 + lowBits d), 3)
          else
            match rest with
            | [] => fail 3 .unfinished
            | e :: _ =>
              if !isLater e then fail 3 .continuation
              else
                .ok (Char.ofNat
                  (((b.toNat % 8 * 64 + lowBits c) * 64 + lowBits d) * 64 + lowBits e), 4)

/-- The characters of some bytes, reading at most `fuel` of them. -/
def decodeChars : (fuel : Nat) → List UInt8 → Nat → Except DecodeError (List Char)
  | 0, _, _ => .ok []
  | fuel + 1, bs, position =>
    if bs.isEmpty then .ok []
    else do
      let (c, n) ← decodeChar bs position
      return c :: (← decodeChars fuel (bs.drop n) (position + n))

/-- The text that some bytes write. -/
def decode (bs : List UInt8) : Except DecodeError (List Char) :=
  decodeChars bs.length bs 0

/-- The bytes that write a text. -/
def encode (s : String) : List UInt8 :=
  s.toUTF8.toList

end TapScript.Text
