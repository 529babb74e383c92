import LicenseNotices.Encoding.Fault

/-!
Codes with one byte for a character. In the two plain ones a byte is the code
point itself, below a limit. A code page assigns characters to bytes by a table;
a character that several bytes stand for is written as the last of them.
-/
namespace LicenseNotices.Encoding

/-- Splits off the characters at the front that a code cannot represent. -/
def unencodable (code : String) (reason : DecodeReason) (isKnown : Char → Bool) (position : Nat)
    (t : Text) : EncodeError :=
  .unencodable { code, position, characters := t.takeWhile (!isKnown ·), reason }

namespace Plain

/-- The code points below the limit, each as its own byte. -/
structure Code where
  name : String
  limit : Nat
  deriving DecidableEq, Repr

def Code.latin1 : Code := ⟨"latin-1", 256⟩

def Code.ascii : Code := ⟨"ascii", 128⟩

def encodeFrom (code : Code) (position : Nat) : Text → Except EncodeError Bytes
  | [] => .ok []
  | c :: rest =>
      if c.toNat < code.limit then
        (encodeFrom code (position + 1) rest).map (UInt8.ofNat c.toNat :: ·)
      else
        .error (Encoding.unencodable code.name (.notBelow code.limit) (·.toNat < code.limit)
          position (c :: rest))

def encode (code : Code) (t : Text) : Except EncodeError Bytes := encodeFrom code 0 t

def decodeFrom (code : Code) (position : Nat) : Bytes → Except DecodeFault Text
  | [] => .ok []
  | b :: rest =>
      if b.toNat < code.limit then
        (decodeFrom code (position + 1) rest).map (Char.ofNat b.toNat :: ·)
      else
        .error { code := code.name, position, bytes := [b], reason := .notBelow code.limit }

def decode (code : Code) (bytes : Bytes) : Except DecodeFault Text := decodeFrom code 0 bytes

end Plain

/-- A table of characters, one for each byte that is assigned. -/
structure CodePage where
  characters : Array (Option Char)

namespace CodePage

def character? (p : CodePage) (b : UInt8) : Option Char := (p.characters[b.toNat]?).join

/-- The last byte that stands for a character. -/
def byte? (p : CodePage) (c : Char) : Option UInt8 :=
  ((List.range 256).reverse.find? fun n => p.character? (UInt8.ofNat n) = some c).map UInt8.ofNat

def encodeFrom (p : CodePage) (position : Nat) : Text → Except EncodeError Bytes
  | [] => .ok []
  | c :: rest =>
      match p.byte? c with
      | some b => (encodeFrom p (position + 1) rest).map (b :: ·)
      | none =>
          .error (unencodable "charmap" .unassigned (fun c => (p.byte? c).isSome) position
            (c :: rest))

def encode (p : CodePage) (t : Text) : Except EncodeError Bytes := p.encodeFrom 0 t

def decodeFrom (p : CodePage) (position : Nat) : Bytes → Except DecodeFault Text
  | [] => .ok []
  | b :: rest =>
      match p.character? b with
      | some c => (decodeFrom p (position + 1) rest).map (c :: ·)
      | none => .error { code := "charmap", position, bytes := [b], reason := .unassigned }

def decode (p : CodePage) (bytes : Bytes) : Except DecodeFault Text := p.decodeFrom 0 bytes

end CodePage

end LicenseNotices.Encoding
