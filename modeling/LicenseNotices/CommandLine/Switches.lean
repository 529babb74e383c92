import LicenseNotices.Text.Blank
import LicenseNotices.Text.LetterCase

/-!
Switches of the command that are set by variables: whether failures are shown with
all their details, and whether they are passed on instead of being shown. A variable
sets a switch when it holds one of four words, in any case and between any blanks.
-/
namespace LicenseNotices.CommandLine

/-- The variables that the command is started with. -/
abbrev Variables := List (Text × Text)

namespace Variables

def value? (v : Variables) (name : String) : Option Text :=
  (v.find? (·.1 = name.toList)).map (·.2)

end Variables

/-- The words that set a switch. -/
def settingWords : List String := ["1", "true", "yes", "on"]

def lowerText (t : Text) : Text := t.map fun c => Char.ofNat (Text.lower c.toNat)

def isSetting (t : Text) : Bool :=
  settingWords.any fun word => word.toList = lowerText (Text.trim t)

def isSet (v : Variables) (name : String) : Bool := (v.value? name).any isSetting

structure Switches where
  isVerbose : Bool := false
  isReraising : Bool := false
  deriving DecidableEq, Repr

namespace Switches

/-- The switches that variables set; one of the variables sets both. -/
def ofVariables (v : Variables) (isVerbose : Bool := false) : Switches where
  isVerbose :=
    isVerbose || isSet v "SAVE_LICENSE_VERBOSE" || isSet v "SAVE_LICENSE_DEBUG"
  isReraising := isSet v "SAVE_LICENSE_RERAISE" || isSet v "SAVE_LICENSE_DEBUG"

end Switches

end LicenseNotices.CommandLine
