import LicenseNotices.Encoding.Codecs
import LicenseNotices.JavaScript.SyntaxTree
import LicenseNotices.NestingLimits
import LicenseNotices.Pattern.Escape
import LicenseNotices.Report.Console

/-!
The surroundings of a call: all that the program uses and does not make itself, but for its files.
-/
namespace LicenseNotices

class Surroundings extends
  Encoding.Codecs, JavaScript.Parser, CharacterNames, NestingLimits, Console

end LicenseNotices
