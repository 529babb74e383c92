import LicenseNotices.Grammar
import LicenseNotices.Log

/-!
The flags of the command. Each has one or two names, a long one behind two dashes
and perhaps a short one behind one dash. Some take a value, and of some of these
the value has to be one of a few.
-/
namespace LicenseNotices.CommandLine

inductive Flag
  | help
  | out
  | pattern
  | encoding
  | grammar
  | config
  | logLevel
  | verbose
  | version
  deriving DecidableEq, Repr

namespace Flag

/-- All flags, in the order in which they are shown. -/
def all : List Flag :=
  [help, out, pattern, encoding, grammar, config, logLevel, verbose, version]

/-- The letter of the short name. -/
def letter? : Flag → Option Char
  | help => some 'h'
  | out => some 'o'
  | pattern => some 'p'
  | encoding => some 'e'
  | grammar => some 'g'
  | verbose => some 'v'
  | config | logLevel | version => none

def longName : Flag → String
  | help => "--help"
  | out => "--out"
  | pattern => "--pattern"
  | encoding => "--encoding"
  | grammar => "--grammar"
  | config => "--config"
  | logLevel => "--log-level"
  | verbose => "--verbose"
  | version => "--version"

def takesValue : Flag → Bool
  | help | verbose | version => false
  | _ => true

/-- The values among which one has to be chosen. -/
def choices? : Flag → Option (List String)
  | grammar => some (Grammar.all.map Grammar.name)
  | logLevel => some (LogLevel.choices.map (·.1))
  | _ => none

/-- Both names, as they are shown in messages. -/
def shown (f : Flag) : String :=
  match f.letter? with
  | some c => s!"-{c}/{f.longName}"
  | none => f.longName

/-- The flag with that letter. -/
def ofLetter? (c : Char) : Option Flag := all.find? fun f => f.letter? = some c

/-- The flag with that long name. -/
def ofLongName? (t : Text) : Option Flag := all.find? fun f => f.longName.toList = t

/-- The flags whose long name starts with a text. -/
def startingWith (t : Text) : List Flag := all.filter fun f => t.isPrefixOf f.longName.toList

end Flag

end LicenseNotices.CommandLine
