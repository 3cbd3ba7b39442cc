import DocReport.Text.Basic

/-!
Text as octets and back. Reading says which octets cannot be read and why.
-/
namespace DocReport.Text

/-- Octets of a file. -/
abbrev Octets := List UInt8

/-- The octets of a text. -/
def toOctets (t : Text) : Octets :=
  t.flatMap String.utf8EncodeChar

namespace Utf8

/-- Why octets are no text. -/
inductive Cause where
  | start | continuation | ending
  deriving DecidableEq, Repr

/-- The wording of a cause. -/
def Cause.message : Cause → Text
  | .start => "invalid start byte".toList
  | .continuation => "invalid continuation byte".toList
  | .ending => "unexpected end of data".toList

/-- Octets that cannot be read: the first of them, its position, and how many they are. -/
structure Fault where
  octet : UInt8
  position : Nat
  count : Nat
  cause : Cause
  deriving DecidableEq, Repr

/-- A fault in words. -/
def Fault.message (fault : Fault) : Text :=
  let place :=
    if fault.count = 1 then
      "byte 0x".toList ++ (if fault.octet.toNat < 16 then ['0'] else []) ++
        Nat.toDigits 16 fault.octet.toNat ++ " in position ".toList ++ ofNat fault.position
    else
      "bytes in position ".toList ++ ofNat fault.position ++ ['-'] ++
        ofNat (fault.position + fault.count - 1)
  "'utf-8' codec can't decode ".toList ++ place ++ ": ".toList ++ fault.cause.message

/-- Octets that may follow the first of a character. -/
def isContinuation (b : UInt8) : Bool :=
  0x80 ≤ b && b < 0xC0

/-- Octets that may follow a first octet directly: shortest forms only, no surrogates, nothing
beyond the last code point. -/
def isSecond (first b : UInt8) : Bool :=
  isContinuation b && !(first == 0xE0 && b < 0xA0) && !(first == 0xED && 0xA0 ≤ b) &&
    !(first == 0xF0 && b < 0x90) && !(first == 0xF4 && 0x90 ≤ b)

/-- The six low bits of an octet. -/
def low (b : UInt8) : Nat :=
  b.toNat % 64

/-- Reads octets, the first of which is at the given position. -/
def decodeFrom (position : Nat) : Octets → Except Fault Text
  | [] => .ok []
  | a :: rest =>
    let fault (count : Nat) (cause : Cause) : Except Fault Text :=
      .error ⟨a, position, count, cause⟩
    if a < 0x80 then do
      let t ← decodeFrom (position + 1) rest
      .ok (Char.ofNat a.toNat :: t)
    else if a < 0xC2 ∨ 0xF5 ≤ a then fault 1 .start
    else
      match rest with
      | [] => fault 1 .ending
      | b :: rest =>
        if !isSecond a b then fault 1 .continuation
        else if a < 0xE0 then do
          let t ← decodeFrom (position + 2) rest
          .ok (Char.ofNat (a.toNat % 32 * 64 + low b) :: t)
        else
          match rest with
          | [] => fault 2 .ending
          | c :: rest =>
            if !isContinuation c then fault 2 .continuation
            else if a < 0xF0 then do
              let t ← decodeFrom (position + 3) rest
              .ok (Char.ofNat ((a.toNat % 16 * 64 + low b) * 64 + low c) :: t)
            else
              match rest with
              | [] => fault 3 .ending
              | d :: rest =>
                if !isContinuation d then fault 3 .continuation
                else do
                  let t ← decodeFrom (position + 4) rest
                  .ok (Char.ofNat (((a.toNat % 8 * 64 + low b) * 64 + low c) * 64 + low d) :: t)

/-- Reads octets. -/
def decode (octets : Octets) : Except Fault Text :=
  decodeFrom 0 octets

/-- Reads octets that may begin with a byte order mark, which does not count. A mark that is not
finished reads as nothing. -/
def decodeMarked (octets : Octets) : Except Fault Text :=
  match octets with
  | 0xEF :: 0xBB :: 0xBF :: rest => decode rest
  | [0xEF] => .ok []
  | [0xEF, 0xBB] => .ok []
  | _ => decode octets

end Utf8

/-- All line ends as line feeds. -/
def unifyLineEnds : Text → Text
  | [] => []
  | '\r' :: '\n' :: r => '\n' :: unifyLineEnds r
  | c :: r => (if c = '\r' then '\n' else c) :: unifyLineEnds r

end DocReport.Text
