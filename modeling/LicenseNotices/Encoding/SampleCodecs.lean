import LicenseNotices.Encoding.Codecs

/-!
Codes by what they share with ASCII. Of one code a character beyond ASCII is known, which is read
from three bytes and not written.
-/
namespace LicenseNotices.Encoding

namespace SampleCodecs

def illegal : DecodeReason := .other "illegal multibyte sequence"

def decodeFrom (code : String) (position : Nat) : Bytes → Except DecodeFault Text
  | [] => .ok []
  | 0x8f :: 0xcd :: 0xf7 :: rest =>
      if code = "euc_jisx0213" then (decodeFrom code (position + 3) rest).map ('瘦' :: ·)
      else .error { code, position, bytes := [0x8f], reason := illegal }
  | b :: rest =>
      if b.toNat < 128 then (decodeFrom code (position + 1) rest).map (Char.ofNat b.toNat :: ·)
      else .error { code, position, bytes := [b], reason := illegal }

def encodeFrom (code : String) (position : Nat) : Text → Except EncodeError Bytes
  | [] => .ok []
  | c :: rest =>
      if c.toNat < 128 then (encodeFrom code (position + 1) rest).map (UInt8.ofNat c.toNat :: ·)
      else .error (.unencodable { code, position, characters := [c], reason := illegal })

end SampleCodecs

@[reducible] def sampleCodecs : Codecs where
  decode code bytes := (SampleCodecs.decodeFrom code 0 bytes).mapError .undecodable
  encode code t := SampleCodecs.encodeFrom code 0 t

end LicenseNotices.Encoding
