import LicenseNotices.Encoding.Fault

/-!
UTF-16 and UTF-32 in either order of bytes. Characters beyond the first plane
take two units of sixteen bits, a high and a low surrogate. Without a stated
order a file has to start with a mark that tells it, and files are written with
the low byte first behind such a mark.
-/
namespace LicenseNotices.Encoding

inductive ByteOrder
  | lowFirst
  | highFirst
  deriving DecidableEq, Repr

namespace ByteOrder

/-- The end of the name of a code with that order. -/
def suffix : ByteOrder → String
  | lowFirst => "-le"
  | highFirst => "-be"

end ByteOrder

namespace Utf16

/-- A unit of sixteen bits as two bytes. -/
def unitBytes (order : ByteOrder) (n : Nat) : Bytes :=
  match order with
  | .lowFirst => [UInt8.ofNat (n % 256), UInt8.ofNat (n / 256)]
  | .highFirst => [UInt8.ofNat (n / 256), UInt8.ofNat (n % 256)]

def unitOf (order : ByteOrder) (b c : UInt8) : Nat :=
  match order with
  | .lowFirst => b.toNat + 256 * c.toNat
  | .highFirst => 256 * b.toNat + c.toNat

def encodeChar (order : ByteOrder) (c : Char) : Bytes :=
  let n := c.toNat
  if n < 0x10000 then unitBytes order n
  else
    unitBytes order (0xd800 + (n - 0x10000) / 0x400) ++
      unitBytes order (0xdc00 + (n - 0x10000) % 0x400)

def encode (order : ByteOrder) (t : Text) : Bytes := t.flatMap (encodeChar order)

def isHigh (n : Nat) : Bool := 0xd800 ≤ n && n < 0xdc00

def isLow (n : Nat) : Bool := 0xdc00 ≤ n && n < 0xe000

def fault (order : ByteOrder) (position : Nat) (bytes : Bytes) (reason : DecodeReason) :
    Except DecodeFault Text :=
  .error { code := "utf-16" ++ order.suffix, position, bytes, reason }

/-- Reads bytes that stand at `position` of a file. -/
def decodeFrom (order : ByteOrder) (position : Nat) : Bytes → Except DecodeFault Text
  | [] => .ok []
  | [b] => fault order position [b] .truncated
  | b :: c :: rest =>
      let n := unitOf order b c
      if isLow n then fault order position [b, c] .unpairedSurrogate
      else if !isHigh n then
        (decodeFrom order (position + 2) rest).map (Char.ofNat n :: ·)
      else
        match rest with
        | [] => fault order position [b, c] .unexpectedEnd
        | [d] => fault order position [b, c, d] .unexpectedEnd
        | d :: e :: rest =>
            let m := unitOf order d e
            if isLow m then
              (decodeFrom order (position + 4) rest).map
                (Char.ofNat (0x10000 + (n - 0xd800) * 0x400 + (m - 0xdc00)) :: ·)
            else fault order position [b, c] .illegalSurrogate

def decode (order : ByteOrder) (bytes : Bytes) : Except DecodeFault Text :=
  decodeFrom order 0 bytes

def mark (order : ByteOrder) : Bytes := unitBytes order 0xfeff

/-- Reads a file whose order is told by its mark; only an empty file needs none. -/
def decodeMarked (bytes : Bytes) : Except DecodeError Text :=
  if (mark .lowFirst).isPrefixOf bytes then
    (decodeFrom .lowFirst 2 (bytes.drop 2)).mapError .undecodable
  else if (mark .highFirst).isPrefixOf bytes then
    (decodeFrom .highFirst 2 (bytes.drop 2)).mapError .undecodable
  else
    match decode .lowFirst bytes with
    | .error f => .error (.undecodable f)
    | .ok t => if bytes.isEmpty then .ok t else .error (.missingMark "UTF-16")

end Utf16

namespace Utf32

def unitBytes (order : ByteOrder) (n : Nat) : Bytes :=
  let bytes := [n % 256, n / 0x100 % 256, n / 0x10000 % 256, n / 0x1000000].map UInt8.ofNat
  match order with
  | .lowFirst => bytes
  | .highFirst => bytes.reverse

def unitOf (order : ByteOrder) (b c d e : UInt8) : Nat :=
  match order with
  | .lowFirst => b.toNat + 0x100 * c.toNat + 0x10000 * d.toNat + 0x1000000 * e.toNat
  | .highFirst => e.toNat + 0x100 * d.toNat + 0x10000 * c.toNat + 0x1000000 * b.toNat

def encode (order : ByteOrder) (t : Text) : Bytes := t.flatMap fun c => unitBytes order c.toNat

def fault (order : ByteOrder) (position : Nat) (bytes : Bytes) (reason : DecodeReason) :
    Except DecodeFault Text :=
  .error { code := "utf-32" ++ order.suffix, position, bytes, reason }

/-- Reads bytes that stand at `position` of a file. -/
def decodeFrom (order : ByteOrder) (position : Nat) : Bytes → Except DecodeFault Text
  | [] => .ok []
  | b :: c :: d :: e :: rest =>
      let n := unitOf order b c d e
      if 0x110000 ≤ n then fault order position [b, c, d, e] .beyondUnicode
      else if 0xd800 ≤ n ∧ n < 0xe000 then fault order position [b, c, d, e] .surrogate
      else (decodeFrom order (position + 4) rest).map (Char.ofNat n :: ·)
  | bytes => fault order position bytes .truncated

def decode (order : ByteOrder) (bytes : Bytes) : Except DecodeFault Text :=
  decodeFrom order 0 bytes

def mark (order : ByteOrder) : Bytes := unitBytes order 0xfeff

/-- Reads a file whose order is told by its mark; only an empty file needs none. -/
def decodeMarked (bytes : Bytes) : Except DecodeError Text :=
  if (mark .lowFirst).isPrefixOf bytes then
    (decodeFrom .lowFirst 4 (bytes.drop 4)).mapError .undecodable
  else if (mark .highFirst).isPrefixOf bytes then
    (decodeFrom .highFirst 4 (bytes.drop 4)).mapError .undecodable
  else
    match decode .lowFirst bytes with
    | .error f => .error (.undecodable f)
    | .ok t => if bytes.isEmpty then .ok t else .error (.missingMark "UTF-32")

end Utf32

end LicenseNotices.Encoding
