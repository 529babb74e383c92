import LicenseNotices.Encoding.Fault

/-!
UTF-8. A character takes one to four bytes: a start byte, which tells their
number, and continuation bytes with six bits each. Only the shortest form is
accepted, and no surrogates.
-/
namespace LicenseNotices.Encoding.Utf8

def byte (n : Nat) : UInt8 := UInt8.ofNat n

def encodeChar (c : Char) : Bytes :=
  let n := c.toNat
  if n < 0x80 then [byte n]
  else if n < 0x800 then [byte (0xc0 + n / 0x40), byte (0x80 + n % 0x40)]
  else if n < 0x10000 then
    [byte (0xe0 + n / 0x1000), byte (0x80 + n / 0x40 % 0x40), byte (0x80 + n % 0x40)]
  else
    [byte (0xf0 + n / 0x40000), byte (0x80 + n / 0x1000 % 0x40), byte (0x80 + n / 0x40 % 0x40),
      byte (0x80 + n % 0x40)]

def encode (t : Text) : Bytes := t.flatMap encodeChar

def isContinuation (b : UInt8) : Bool := 0x80 ≤ b && b < 0xc0

/-- The six bits of a continuation byte. -/
def low (b : UInt8) : Nat := b.toNat - 0x80

/-- Whether the second byte keeps a sequence in its shortest form and within Unicode. -/
def isSecond (start second : UInt8) : Bool :=
  isContinuation second &&
    (if start = 0xe0 then 0xa0 ≤ second
    else if start = 0xed then second < 0xa0
    else if start = 0xf0 then 0x90 ≤ second
    else if start = 0xf4 then second < 0x90
    else true)

def fault (position : Nat) (bytes : Bytes) (reason : DecodeReason) : Except DecodeFault Text :=
  .error { code := "utf-8", position, bytes, reason }

/-- Reads bytes that stand at `position` of a file. -/
def decodeFrom (position : Nat) : Bytes → Except DecodeFault Text
  | [] => .ok []
  | b :: rest =>
      if b < 0x80 then (decodeFrom (position + 1) rest).map (Char.ofNat b.toNat :: ·)
      else if b < 0xc2 ∨ 0xf5 ≤ b then fault position [b] .invalidStart
      else
        match rest with
        | [] => fault position [b] .unexpectedEnd
        | c :: rest =>
            if !isSecond b c then fault position [b] .invalidContinuation
            else if b < 0xe0 then
              (decodeFrom (position + 2) rest).map
                (Char.ofNat ((b.toNat - 0xc0) * 0x40 + low c) :: ·)
            else
              match rest with
              | [] => fault position [b, c] .unexpectedEnd
              | d :: rest =>
                  if !isContinuation d then fault position [b, c] .invalidContinuation
                  else if b < 0xf0 then
                    (decodeFrom (position + 3) rest).map
                      (Char.ofNat ((b.toNat - 0xe0) * 0x1000 + low c * 0x40 + low d) :: ·)
                  else
                    match rest with
                    | [] => fault position [b, c, d] .unexpectedEnd
                    | e :: rest =>
                        if !isContinuation e then fault position [b, c, d] .invalidContinuation
                        else
                          (decodeFrom (position + 4) rest).map
                            (Char.ofNat ((b.toNat - 0xf0) * 0x40000 + low c * 0x1000 +
                              low d * 0x40 + low e) :: ·)

def decode (bytes : Bytes) : Except DecodeFault Text := decodeFrom 0 bytes

/-- The mark that may stand before a text. -/
def mark : Bytes := [0xef, 0xbb, 0xbf]

/-- Reads a text behind an optional mark. A file that breaks off inside the mark is empty. -/
def decodeMarked (bytes : Bytes) : Except DecodeFault Text :=
  if mark.isPrefixOf bytes then decode (bytes.drop 3)
  else if bytes.length < 3 ∧ bytes.isPrefixOf mark then .ok []
  else decode bytes

end LicenseNotices.Encoding.Utf8
