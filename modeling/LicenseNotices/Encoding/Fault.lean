import LicenseNotices.Text.Quoted

/-!
Why bytes are not read as text, and why a text is not written as bytes. Both
faults name the code, the place and the bytes or characters at fault. A text is
a list of characters and a file is a list of bytes; places are counted from zero.
-/
namespace LicenseNotices

abbrev Bytes := List UInt8

namespace Encoding

inductive DecodeReason
  | invalidStart
  | invalidContinuation
  | unexpectedEnd
  | truncated
  | unpairedSurrogate
  | illegalSurrogate
  | beyondUnicode
  | surrogate
  | unassigned
  | notBelow (limit : Nat)
  | other (text : String)
  deriving DecidableEq, Repr

namespace DecodeReason

def text : DecodeReason → String
  | invalidStart => "invalid start byte"
  | invalidContinuation => "invalid continuation byte"
  | unexpectedEnd => "unexpected end of data"
  | truncated => "truncated data"
  | unpairedSurrogate => "illegal encoding"
  | illegalSurrogate => "illegal UTF-16 surrogate"
  | beyondUnicode => "code point not in range(0x110000)"
  | surrogate => "code point in surrogate code point range(0xd800, 0xe000)"
  | unassigned => "character maps to <undefined>"
  | notBelow limit => s!"ordinal not in range({limit})"
  | other text => text

end DecodeReason

structure DecodeFault where
  code : String
  position : Nat
  bytes : Bytes
  reason : DecodeReason
  deriving DecidableEq, Repr

namespace DecodeFault

def message (f : DecodeFault) : String :=
  let place := match f.bytes with
    | [b] => s!"byte 0x{String.ofList (Text.hexDigits 2 b.toNat)} in position {f.position}"
    | bytes => s!"bytes in position {f.position}-{f.position + bytes.length - 1}"
  s!"'{f.code}' codec can't decode {place}: {f.reason.text}"

end DecodeFault

/-- What stands in the way of reading bytes: bytes at fault, a missing mark of the byte
order, a code in which nothing can be read, or a code that does not tell where it fails.
The bytes of a few codes may also stand for surrogates, which are no characters; the
message is then that of an attempt to write them in UTF-8. -/
inductive DecodeError
  | undecodable (fault : DecodeFault)
  | missingMark (code : String)
  | undefinedCode
  | unlocated (message : String)
  | surrogates (message : String)
  deriving DecidableEq, Repr

namespace DecodeError

def message : DecodeError → String
  | undecodable fault => fault.message
  | missingMark code => s!"{code} stream does not start with BOM"
  | undefinedCode => "undefined encoding"
  | unlocated message => message
  | surrogates message => message

end DecodeError

/-- Characters that have no representation in a code. -/
structure EncodeFault where
  code : String
  position : Nat
  characters : Text
  reason : DecodeReason
  deriving DecidableEq, Repr

/-- A character by its code point. -/
def codePointText (c : Char) : String :=
  if c.toNat < 0x100 then "\\x" ++ String.ofList (Text.hexDigits 2 c.toNat)
  else if c.toNat < 0x10000 then "\\u" ++ String.ofList (Text.hexDigits 4 c.toNat)
  else "\\U" ++ String.ofList (Text.hexDigits 8 c.toNat)

namespace EncodeFault

def message (f : EncodeFault) : String :=
  let place := match f.characters with
    | [c] => s!"character '{codePointText c}' in position {f.position}"
    | cs => s!"characters in position {f.position}-{f.position + cs.length - 1}"
  s!"'{f.code}' codec can't encode {place}: {f.reason.text}"

end EncodeFault

/-- What stands in the way of writing a text: a character at fault, a code in which nothing
can be written, or a code that does not tell where it fails. -/
inductive EncodeError
  | unencodable (fault : EncodeFault)
  | undefinedCode
  | unlocated (message : String)
  deriving DecidableEq, Repr

namespace EncodeError

def message : EncodeError → String
  | unencodable fault => fault.message
  | undefinedCode => "undefined encoding"
  | unlocated message => message

end EncodeError

end Encoding

end LicenseNotices
