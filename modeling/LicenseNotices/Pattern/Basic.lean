import LicenseNotices.Pattern.Matching
import LicenseNotices.Pattern.Reader

/-!
Patterns. A pattern is made from its source text and the flags that it starts
with; flags at the head of the source are added to these. It is found in a text
when it matches somewhere in it.
-/
namespace LicenseNotices

structure Pattern where
  source : Text
  flags : Pattern.Flags
  node : Pattern.Node
  deriving DecidableEq, Repr

namespace Pattern

/-- The fault of a lookbehind that has no fixed width, or of a repetition in a template. -/
def Node.fault? (template : Bool) : Node → Option Cause
  | .seq first second | .either first second | .conditional _ first second =>
      (first.fault? template).or (second.fault? template)
  | .repeated mode _ _ body =>
      if template then
        some (.templateRepeat (match mode with
          | .greedy => "MAX_REPEAT"
          | .lazy => "MIN_REPEAT"
          | .possessive => "POSSESSIVE_REPEAT"))
      else body.fault? template
  | .group _ body | .atomic body | .ahead _ body => body.fault? template
  | .withFlags on off body => body.fault? ((template || on.template) && !off.template)
  | .behind _ least most body =>
      if Reader.repeatLimit < least then some .lookbehindTooFar
      else if most ≠ some least then some .lookbehindWidth
      else body.fault? template
  | _ => none

/-- The flags of a complete pattern, which is about all characters unless it is about
those of ASCII. -/
def settleFlags (flags : Flags) : Outcome Flags :=
  if flags.ascii then
    if flags.unicode then .error .asciiAndUnicode else .ok flags
  else .ok { flags with unicode := true }

/-- Reads a pattern that starts with the given flags. -/
def parse [CharacterNames] [NestingLimits] (flags : Flags) (source : Text) : Outcome Pattern := do
  let c ← Cursor.ofText source
  let frame : Frame := { kind := .top, start := 0, verbose := flags.verbose }
  let (r, c) ← Reader.readAll (c.tokens.length + 1) { scope := { flags }, frame } c
  if !r.enclosing.isEmpty then throw (.malformed .unterminatedGroup (some r.frame.start))
  else
    let settled ← settleFlags r.scope.flags
    if !c.tokens.isEmpty then c.fault .unbalancedParenthesis
    else
      match r.scope.conditions.find? fun (group, _) => r.scope.groups.length < group with
      | some (group, offset) => throw (.malformed (.invalidReference group) (some offset))
      | none =>
          let node := Node.ofList (joinAlternatives r.frame.allAlternatives)
          if NestingLimits.levels < node.depth then throw .nestedTooDeep
          else
            match node.fault? settled.template with
            | some cause => throw (.malformed cause none)
            | none => return { source, flags := settled, node }

/-- Whether the pattern matches somewhere in a text. -/
def isFoundIn (p : Pattern) (t : Text) : Bool := p.node.isFoundIn p.flags t

end Pattern

end LicenseNotices
