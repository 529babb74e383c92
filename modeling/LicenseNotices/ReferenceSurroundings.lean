import LicenseNotices.Encoding.SampleCodecs
import LicenseNotices.JavaScript.Reader
import LicenseNotices.Report.CellConsole
import LicenseNotices.Surroundings
import LicenseNotices.Text.CharacterName

/-!
Surroundings in which calls can be carried out: comments are read by readers, characters have the
names of a table, and of the codes that are not kept here only the ASCII part is known.
-/
namespace LicenseNotices

/-- The limits of a program that is called from the outermost level. -/
@[reducible] def outermostLimits : NestingLimits where
  groups := 491
  levels := 985
  json := 988
  toml := 986
  scalarCalls _ := 1
  shown := 991

@[reducible] def referenceSurroundings : Surroundings :=
  { Encoding.sampleCodecs, JavaScript.readerParser, cellConsole, outermostLimits with
    named? := Text.characterNamed? }

end LicenseNotices
