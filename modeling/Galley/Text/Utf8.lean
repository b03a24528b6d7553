/-!
Text in bytes. A character takes one to four bytes; bytes that are not the shortest form of a
character are not text.
-/

set_option autoImplicit false
set_option relaxedAutoImplicit false

namespace Galley.Text

/-- The bytes of a text. -/
def encodeUtf8 (s : List Char) : List UInt8 := s.flatMap String.utf8EncodeChar

/-- The payload of a byte that continues a character. -/
def continuation? (byte : UInt8) : Option Nat :=
  let n := byte.toNat
  if n / 0x40 = 2 then some (n % 0x40) else none

/-- A character with a code that is not less than `least`. -/
def characterFrom? (least code : Nat) : Option Char :=
  if least ≤ code && code.isValidChar then some (Char.ofNat code) else none

/-- How many bytes continue a character after its first one, the payload of that, and the least
code that takes as many bytes. -/
def leading? (byte : UInt8) : Option (Nat × Nat × Nat) :=
  let n := byte.toNat
  if n < 0x80 then some (0, n, 0)
  else if n / 0x20 = 6 then some (1, n % 0x20, 0x80)
  else if n / 0x10 = 14 then some (2, n % 0x10, 0x800)
  else if n / 0x08 = 30 then some (3, n % 0x08, 0x10000)
  else none

/-- The text in bytes, if they are text. A character is under way when `left` bytes of it are still
to come; its code up to there is `code`, and may not be less than `least`. -/
def decodeFrom (left code least : Nat) : List UInt8 → Option (List Char)
  | [] => if left = 0 then some [] else none
  | byte :: rest =>
    match left with
    | 0 =>
      match leading? byte with
      | none => none
      | some (0, code, _) => (decodeFrom 0 0 0 rest).map (Char.ofNat code :: ·)
      | some (left + 1, code, least) => decodeFrom (left + 1) code least rest
    | left + 1 =>
      match continuation? byte with
      | none => none
      | some payload =>
        let code := code * 0x40 + payload
        match left with
        | 0 =>
          match characterFrom? least code, decodeFrom 0 0 0 rest with
          | some c, some s => some (c :: s)
          | _, _ => none
        | left + 1 => decodeFrom (left + 1) code least rest

/-- The text in bytes, if they are text. -/
def decodeUtf8? (bytes : List UInt8) : Option (List Char) := decodeFrom 0 0 0 bytes

end Galley.Text
