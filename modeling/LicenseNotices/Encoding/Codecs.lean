import LicenseNotices.Encoding.Fault

/-!
Codes that are read and written by others. Besides the encodings whose tables are kept here there
are codes of several bytes for a character, codes that shift between tables, and codes of escapes.
What a text file in one of them holds is not decided here: it is part of the surroundings of a run.
-/
namespace LicenseNotices.Encoding

/-- What text files hold in the codes that are not kept here, by the full names of the codes. -/
class Codecs where
  /-- The text of a file with these bytes, read to its end. -/
  decode : String → Bytes → Except DecodeError Text
  /-- The bytes of a file to which this text has been written. -/
  encode : String → Text → Except EncodeError Bytes

end LicenseNotices.Encoding
