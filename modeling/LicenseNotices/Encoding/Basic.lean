import LicenseNotices.Encoding.CodePages
import LicenseNotices.Encoding.Codecs
import LicenseNotices.Encoding.Names
import LicenseNotices.Encoding.Utf16
import LicenseNotices.Encoding.Utf8

/-!
The encodings of text files. An encoding is found by its name; some names are
those of transformations that are no encodings of text. What the encodings that are
kept here write they also read, and reading fails at the first bytes that they do
not write; the others are left to the surroundings of a run.
-/
namespace LicenseNotices

inductive Encoding
  | utf8 (marked : Bool)
  | utf16 (order : Option Encoding.ByteOrder)
  | utf32 (order : Option Encoding.ByteOrder)
  | plain (code : Encoding.Plain.Code)
  | page (name : String)
  /-- A code whose tables are not kept here. -/
  | foreign (name : String)
  | undefinedCode
  deriving DecidableEq, Repr

namespace Encoding

/-- Names of transformations between bytes, or between texts. -/
def transformations : List String :=
  ["base64_codec", "bz2_codec", "hex_codec", "quopri_codec", "rot_13", "uu_codec", "zlib_codec"]

/-- The encoding with that full name, unless it is the name of a transformation. -/
def ofFullName? (name : String) : Option Encoding :=
  match name with
  | "utf_8" => some (utf8 false)
  | "utf_8_sig" => some (utf8 true)
  | "utf_16" => some (utf16 none)
  | "utf_16_le" => some (utf16 (some .lowFirst))
  | "utf_16_be" => some (utf16 (some .highFirst))
  | "utf_32" => some (utf32 none)
  | "utf_32_le" => some (utf32 (some .lowFirst))
  | "utf_32_be" => some (utf32 (some .highFirst))
  | "latin_1" | "iso8859_1" | "charmap" => some (plain .latin1)
  | "ascii" => some (plain .ascii)
  | "undefined" => some undefinedCode
  | name =>
      if transformations.contains name then none
      else if codePageRows.any (·.1 = name) then some (page name)
      else some (foreign name)

/-- Whether a name is that of an encoding or of a transformation. -/
def isName (name : Text) : Bool := (codeNamed? name).isSome

def named? (name : Text) : Option Encoding := (codeNamed? name).bind ofFullName?

/-- The message about the name of a transformation. -/
def notTextMessage (name : Text) : String :=
  "'" ++ String.ofList name ++
    "' is not a text encoding; use codecs.open() to handle arbitrary codecs"

variable [Codecs]

def decode (e : Encoding) (bytes : Bytes) : Except DecodeError Text :=
  match e with
  | utf8 false => (Utf8.decode bytes).mapError .undecodable
  | utf8 true => (Utf8.decodeMarked bytes).mapError .undecodable
  | utf16 none => Utf16.decodeMarked bytes
  | utf16 (some order) => (Utf16.decode order bytes).mapError .undecodable
  | utf32 none => Utf32.decodeMarked bytes
  | utf32 (some order) => (Utf32.decode order bytes).mapError .undecodable
  | plain code => (Plain.decode code bytes).mapError .undecodable
  | foreign name => Codecs.decode name bytes
  | page name =>
      match codePageNamed? name with
      | some p => (p.decode bytes).mapError .undecodable
      | none => .error .undefinedCode
  | undefinedCode => .error .undefinedCode

def encode (e : Encoding) (t : Text) : Except EncodeError Bytes :=
  match e with
  | utf8 false => .ok (Utf8.encode t)
  | utf8 true => .ok (Utf8.mark ++ Utf8.encode t)
  | utf16 none => .ok (Utf16.mark .lowFirst ++ Utf16.encode .lowFirst t)
  | utf16 (some order) => .ok (Utf16.encode order t)
  | utf32 none => .ok (Utf32.mark .lowFirst ++ Utf32.encode .lowFirst t)
  | utf32 (some order) => .ok (Utf32.encode order t)
  | plain code => Plain.encode code t
  | foreign name => Codecs.encode name t
  | page name =>
      match codePageNamed? name with
      | some p => p.encode t
      | none => .error .undefinedCode
  | undefinedCode => .error .undefinedCode

end Encoding

end LicenseNotices
