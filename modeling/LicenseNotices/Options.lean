import LicenseNotices.Encoding.Basic
import LicenseNotices.Grammar
import LicenseNotices.NoticeMatcher

/-!
The options of one run: the patterns of a notice, the encoding of all files and
the grammar of the sources. An encoding is kept under the name that was given for
it, which is known to be a name, so that it is shown the way it was spelled.
-/
namespace LicenseNotices

/-- A spelling of the name of an encoding, or of a transformation of bytes. -/
structure EncodingName where
  spelling : Text
  isKnown : Encoding.isName spelling = true

namespace EncodingName

def ofText? (t : Text) : Option EncodingName :=
  if h : Encoding.isName t = true then some ⟨t, h⟩ else none

theorem spelling_of_ofText? {t : Text} {n : EncodingName} (h : ofText? t = some n) :
    n.spelling = t := by
  unfold ofText? at h
  split at h
  · rw [← Option.some.inj h]
  · cases h

/-- The encoding of that name; the name of a transformation has none. -/
def encoding? (n : EncodingName) : Option Encoding := Encoding.named? n.spelling

/-- The failure for a name that no encoding has. -/
def unknown (t : Text) : Failure :=
  .configuration ("Unknown text encoding '" ++ String.ofList t ++ "'")
    (some "Use a codec name such as utf-8, latin-1 or cp1252")

/-- Reads the name of an encoding; it cannot hold the null character. -/
def ofText (t : Text) : Except Failure EncodingName :=
  if t.contains '\x00' then .error (.fault ⟨.value, "embedded null character"⟩)
  else match ofText? t with
    | some name => .ok name
    | none => .error (unknown t)

def utf8 : EncodingName where
  spelling := "utf-8".toList
  isKnown := Encoding.isSome_codeNamed?
    ("utf_8", ["u8", "utf", "utf8", "utf8_ucs2", "utf8_ucs4", "cp65001"])
    (by simp [Encoding.codeNames]) (by decide)

end EncodingName

structure Options where
  patterns : List Pattern := defaultPatterns
  encoding : EncodingName := .utf8
  grammar : Grammar := .default

namespace Options

def default : Options := {}

/-- The matcher of the patterns. -/
def matcher (o : Options) : NoticeMatcher := .ofPatterns o.patterns

end Options

end LicenseNotices
