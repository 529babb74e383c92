import LicenseNotices.Text.Integer
import LicenseNotices.Text.Quoted

/-!
Why a text is not a pattern. A malformed pattern has a cause and, mostly, an
offset at which it shows; in a pattern of several lines the place is given by
line and column as well. The other faults are limits that a pattern exceeds.
-/
namespace LicenseNotices.Pattern

/-- What is wrong with a malformed pattern. -/
inductive Cause
  | danglingBackslash
  | badEscape (escape : Text)
  | incompleteEscape (escape : Text)
  | octalTooLarge (escape : Text)
  | unknownCharacter (name : Text)
  | missing (what : String)
  | unterminatedName (terminator : Char)
  | unterminatedSet
  | unterminatedGroup
  | unterminatedComment
  | unexpectedEnd
  | unknownExtension (text : Text)
  | badRange (first last : Text)
  | nothingToRepeat
  | multipleRepeat
  | repeatBoundsReversed
  | badGroupName (name : Text)
  | groupNameTaken (name : Text) (group previous : Nat)
  | unknownGroupName (name : Text)
  | badGroupNumber
  | invalidReference (group : Nat)
  | openGroupReference
  | lookbehindGroupReference
  | tooManyBranches
  | lateGlobalFlags
  | unknownFlag
  | localeFlag
  | conflictingFlags
  | globalFlagOn
  | globalFlagOff
  | alphabetFlagOff
  | flagOnAndOff
  | unbalancedParenthesis
  | lookbehindWidth
  | lookbehindTooFar
  | templateRepeat (operator : String)
  deriving DecidableEq, Repr

namespace Cause

def message : Cause → String
  | danglingBackslash => "bad escape (end of pattern)"
  | badEscape escape => "bad escape " ++ String.ofList escape
  | incompleteEscape escape => "incomplete escape " ++ String.ofList escape
  | octalTooLarge escape =>
      "octal escape value " ++ String.ofList escape ++ " outside of range 0-0o377"
  | unknownCharacter name => "undefined character name " ++ String.ofList (Text.quoted name)
  | missing what => "missing " ++ what
  | unterminatedName terminator => "missing " ++ terminator.toString ++ ", unterminated name"
  | unterminatedSet => "unterminated character set"
  | unterminatedGroup => "missing ), unterminated subpattern"
  | unterminatedComment => "missing ), unterminated comment"
  | unexpectedEnd => "unexpected end of pattern"
  | unknownExtension text => "unknown extension ?" ++ String.ofList text
  | badRange first last =>
      "bad character range " ++ String.ofList first ++ "-" ++ String.ofList last
  | nothingToRepeat => "nothing to repeat"
  | multipleRepeat => "multiple repeat"
  | repeatBoundsReversed => "min repeat greater than max repeat"
  | badGroupName name => "bad character in group name " ++ String.ofList (Text.quoted name)
  | groupNameTaken name group previous =>
      "redefinition of group name " ++ String.ofList (Text.quoted name) ++ " as group " ++
        toString group ++ "; was group " ++ toString previous
  | unknownGroupName name => "unknown group name " ++ String.ofList (Text.quoted name)
  | badGroupNumber => "bad group number"
  | invalidReference group => "invalid group reference " ++ toString group
  | openGroupReference => "cannot refer to an open group"
  | lookbehindGroupReference =>
      "cannot refer to group defined in the same lookbehind subpattern"
  | tooManyBranches => "conditional backref with more than two branches"
  | lateGlobalFlags => "global flags not at the start of the expression"
  | unknownFlag => "unknown flag"
  | localeFlag => "bad inline flags: cannot use 'L' flag with a str pattern"
  | conflictingFlags => "bad inline flags: flags 'a', 'u' and 'L' are incompatible"
  | globalFlagOn => "bad inline flags: cannot turn on global flag"
  | globalFlagOff => "bad inline flags: cannot turn off global flag"
  | alphabetFlagOff => "bad inline flags: cannot turn off flags 'a', 'u' and 'L'"
  | flagOnAndOff => "bad inline flags: flag turned on and off"
  | unbalancedParenthesis => "unbalanced parenthesis"
  | lookbehindWidth => "look-behind requires fixed-width pattern"
  | lookbehindTooFar => "looks too much behind"
  | templateRepeat operator => "internal: unsupported template operator " ++ operator

end Cause

inductive Fault
  | malformed (cause : Cause) (offset : Option Nat)
  | repetitionTooLarge
  | codePointTooLarge
  | asciiAndUnicode
  | tooManyDigits (count : Nat)
  | nestedTooDeep
  deriving DecidableEq, Repr

/-- The place of an offset in words; line and column are given if there are several lines. -/
def place (pattern : Text) (offset : Nat) : String :=
  let line := (pattern.take offset).count '\n' + 1
  let column := ((pattern.take offset).reverse.takeWhile (· ≠ '\n')).length + 1
  s!" at position {offset}" ++
    if pattern.contains '\n' then s!" (line {line}, column {column})" else ""

namespace Fault

def message (pattern : Text) : Fault → String
  | malformed cause none => cause.message
  | malformed cause (some offset) => cause.message ++ place pattern offset
  | repetitionTooLarge => "the repetition number is too large"
  | codePointTooLarge => "Python int too large to convert to C int"
  | asciiAndUnicode => "ASCII and UNICODE flags are incompatible"
  | tooManyDigits count => Text.tooManyDigitsMessage count
  | nestedTooDeep => "maximum recursion depth exceeded while calling a Python object"

end Fault

end LicenseNotices.Pattern
