import LicenseNotices.Comment.Basic
import LicenseNotices.Failure
import LicenseNotices.Pattern.Basic

/-!
Which texts count as notices. A matcher decides on one text; most are made of
patterns and accept a text in which at least one of them is found. A group of
comments is kept when the body of any single comment in it is accepted.
-/
namespace LicenseNotices

/-- What may be given as a pattern: a text to read, a pattern that is complete, or a value
that is neither, by the name of its kind. Containers are told apart from other values. -/
inductive PatternSource
  | text (t : Text)
  | pattern (p : Pattern)
  | atom (name : String)
  | container (name : String)
  deriving Repr

namespace PatternSource

/-- The flags of patterns that are given as texts. -/
def flags : Pattern.Flags := { ignoreCase := true, multiline := true }

/-- The failure for a text that is no pattern. Only a malformed one is anticipated. -/
def unusable (t : Text) (fault : Pattern.Fault) : Failure :=
  let message := fault.message t
  match fault with
  | .malformed _ _ =>
      .configuration
        ("Invalid license pattern " ++ String.ofList (Text.quoted t) ++ ": " ++ message)
        (some "Patterns use Python regular expression syntax")
  | .asciiAndUnicode | .tooManyDigits _ => .fault ⟨.value, message⟩
  | .repetitionTooLarge | .codePointTooLarge => .fault ⟨.overflow, message⟩
  | .nestedTooDeep => .fault ⟨.recursion, message⟩

section

variable [CharacterNames] [NestingLimits]

def compile : PatternSource → Except Failure Pattern
  | pattern p => .ok p
  | text t => (Pattern.parse flags t).mapError (unusable t)
  | atom _ => .error (.fault ⟨.type, "first argument must be string or compiled pattern"⟩)
  | container name => .error (.fault ⟨.type, s!"unhashable type: '{name}'"⟩)

/-- Makes patterns of all sources; there has to be at least one. -/
def compileAll (sources : List PatternSource) : Except Failure (List Pattern) := do
  let patterns ← sources.mapM compile
  if patterns.isEmpty then throw (.configuration "At least one license pattern is required")
  else return patterns

end

/-- The name of the kind of what is given. -/
def kindName : PatternSource → String
  | text _ => "str"
  | pattern _ => "re.Pattern"
  | atom name | container name => name

end PatternSource

/-- The sources of patterns, one after the other. -/
def describePatterns (ps : List Pattern) : Text := Text.join [',', ' '] (ps.map Pattern.source)

/-- How a matcher of patterns presents itself. -/
def describeMatcher (ps : List Pattern) : Text :=
  "RegexMatcher(".toList ++ Text.quoted (describePatterns ps) ++ [')']

/-- A line that starts with an exclamation mark, marks that ask to be preserved, the
names of common licenses, and the signs of a copyright. -/
def defaultPatternSource : Text :=
  "^!|^@(preserve|cc_on)\\b|\\b(MIT|MPL|GPL|License|Copyright)\\b|\\W\\(c\\)|©".toList

/-- The pattern of a text that is known to be one and names no characters; a text that is none
matches nowhere. -/
def knownPattern (source : Text) : Pattern :=
  match @Pattern.parse ⟨fun _ => none⟩ (.ofLength source.length) PatternSource.flags source with
  | .ok p => p
  | .error _ => { source, flags := PatternSource.flags, node := .set false [] }

def defaultPatterns : List Pattern := [knownPattern defaultPatternSource]

/-- Decides whether a text is accepted, unless it cannot be asked. -/
abbrev NoticeMatcher := Text → Except Fault Bool

/-- Whether a matcher accepts at least one of the texts, asked in order. -/
def acceptsAny (accepts : NoticeMatcher) : List Text → Except Fault Bool
  | [] => .ok false
  | t :: rest => do if ← accepts t then return true else acceptsAny accepts rest

namespace NoticeMatcher

/-- The matcher of a predicate. -/
def ofPredicate (p : Text → Bool) : NoticeMatcher := fun t => .ok (p t)

def ofPatterns (ps : List Pattern) : NoticeMatcher :=
  ofPredicate fun t => ps.any (·.isFoundIn t)

/-- The matcher of sources that are used as they are; only patterns can be searched for. -/
def ofSources : List PatternSource → NoticeMatcher
  | [], _ => .ok false
  | .pattern p :: rest, t => if p.isFoundIn t then .ok true else ofSources rest t
  | source :: _, _ =>
      .error ⟨.attribute, s!"'{source.kindName}' object has no attribute 'search'"⟩

def default : NoticeMatcher := ofPatterns defaultPatterns

def acceptsGroup (accepts : NoticeMatcher) (g : CommentGroup) : Except Fault Bool :=
  acceptsAny accepts (g.map Comment.text)

/-- The groups that are accepted, in order. -/
def filterGroups (accepts : NoticeMatcher) : List CommentGroup → Except Fault (List CommentGroup)
  | [] => .ok []
  | g :: rest => do
      let isKept ← acceptsGroup accepts g
      let kept ← filterGroups accepts rest
      return if isKept then g :: kept else kept

end NoticeMatcher

end LicenseNotices
