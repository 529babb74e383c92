import LicenseNotices.CommandLine.Flag
import LicenseNotices.Text.Quoted

/-!
The texts about the use of the command: how it is called, what its flags mean, and
what is wrong with arguments that it does not take.
-/
namespace LicenseNotices.CommandLine

def programName : String := "save-license"

def versionNumber : String := "1.0.0"

def usage : String := "\n".intercalate [
  "usage: save-license [-h] -o OUT [-p REGEX] [-e ENCODING]",
  "                    [-g \x7bc-style,javascript\x7d] [--config CONFIG]",
  "                    [--log-level \x7bdebug,error,info,warn,warning\x7d] [-v]",
  "                    [--version]",
  "                    [FILE ...]",
  ""]

def help : String := usage ++ "\n".intercalate [
  "",
  "Collect unique license comments from source files into one file.",
  "",
  "positional arguments:",
  "  FILE                  Source files to scan, in order",
  "",
  "options:",
  "  -h, --help            show this help message and exit",
  "  -o OUT, --out OUT     Output file for the unique licenses",
  "  -p REGEX, --pattern REGEX",
  "                        License detection pattern (repeatable; replaces the",
  "                        default set)",
  "  -e ENCODING, --encoding ENCODING",
  "                        Text encoding for input and output (default: utf-8)",
  "  -g \x7bc-style,javascript\x7d, --grammar \x7bc-style,javascript\x7d",
  "                        Comment grammar of the input files (default:",
  "                        javascript)",
  "  --config CONFIG       Path to a save-license.toml or .savelicenserc file",
  "  --log-level \x7bdebug,error,info,warn,warning\x7d",
  "                        Logging level (default: SAVE_LICENSE_LOG_LEVEL or",
  "                        warning)",
  "  -v, --verbose         Show tracebacks on errors",
  "  --version             show program's version number and exit",
  ""]

def version : String := s!"{programName} {versionNumber}\n"

/-- What is wrong with the arguments of a call. -/
inductive UsageFault
  | ambiguous (spelled : Text) (flags : List Flag)
  | missingValue (flag : Flag)
  | needlessValue (flag : Flag) (value : Text)
  | invalidChoice (flag : Flag) (value : Text) (choices : List String)
  | missingOutput
  | unrecognized (arguments : List Text)
  deriving DecidableEq, Repr

namespace UsageFault

def quoted (t : Text) : String := String.ofList (Text.quoted t)

def message : UsageFault → String
  | ambiguous spelled flags =>
      s!"ambiguous option: {String.ofList spelled} could match " ++
        ", ".intercalate (flags.map Flag.longName)
  | missingValue flag => s!"argument {flag.shown}: expected one argument"
  | needlessValue flag value =>
      s!"argument {flag.shown}: ignored explicit argument {quoted value}"
  | invalidChoice flag value choices =>
      s!"argument {flag.shown}: invalid choice: {quoted value} (choose from " ++
        ", ".intercalate (choices.map fun choice => quoted choice.toList) ++ ")"
  | missingOutput => s!"the following arguments are required: {Flag.out.shown}"
  | unrecognized arguments =>
      "unrecognized arguments: " ++ " ".intercalate (arguments.map String.ofList)

/-- The message behind a reminder of the use. -/
def text (f : UsageFault) : String := usage ++ s!"{programName}: error: {f.message}\n"

end UsageFault

end LicenseNotices.CommandLine
