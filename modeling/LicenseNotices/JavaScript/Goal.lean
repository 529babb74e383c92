import LicenseNotices.JavaScript.Token

/-!
Goals are what a reader of JavaScript still expects; a stack of them is its
whole state. Bracketed lists are read once for two purposes: a parenthesised
list may turn out to be an expression or the parameters of an arrow function,
and a literal may turn out to be the pattern of an assignment. A cover records
which of the two readings are still open.
-/
namespace LicenseNotices.JavaScript

/-- How the operand read last may be used. -/
inductive Operand
  | name
  | reference
  | group
  | groupOrParameters
  | callOrParameters
  | parameters
  | literal
  | literalOrPattern
  | pattern
  | value
  | result
  deriving DecidableEq, Repr

namespace Operand

def isExpression : Operand → Bool
  | parameters | pattern => false
  | _ => true

/-- Operands that a template literal may follow. -/
def isPrimary (o : Operand) : Bool := o.isExpression && o ≠ .result

def isPattern : Operand → Bool
  | name | reference | literalOrPattern | pattern => true
  | _ => false

def isAssignable : Operand → Bool
  | name | reference | group | groupOrParameters | literalOrPattern | pattern => true
  | _ => false

/-- Targets of an assignment that also reads its target. -/
def isUpdatable : Operand → Bool
  | name | reference | group | groupOrParameters => true
  | _ => false

def isArrowHead : Operand → Bool
  | name | groupOrParameters | callOrParameters | parameters => true
  | _ => false

end Operand

/-- What has become of an expression: one operand, a pattern with a default, or more. -/
inductive Shape
  | single
  | assigned
  | mixed
  deriving DecidableEq, Repr

/-- An expression under way. The flag is set for the class of a `new` expression. -/
structure Slot where
  shape : Shape := .single
  isCallee : Bool := false
  deriving DecidableEq, Repr

namespace Slot

def mixed (s : Slot) : Slot :=
  match s.shape with
  | .assigned => ⟨.assigned, false⟩
  | _ => ⟨.mixed, false⟩

/-- Behind an equals sign that follows the operand `o`. -/
def assigned (s : Slot) (o : Operand) : Slot :=
  match s.shape with
  | .single => if o.isPattern then ⟨.assigned, false⟩ else ⟨.mixed, false⟩
  | _ => s.mixed

end Slot

/-- The readings that are still open. -/
structure Cover where
  expression : Bool := true
  pattern : Bool := true
  deriving DecidableEq, Repr

namespace Cover

def withoutExpression (c : Cover) : Cover := { c with expression := false }

def withoutPattern (c : Cover) : Cover := { c with pattern := false }

/-- Reads an element that ends with the operand `o`. -/
def element (c : Cover) (s : Slot) (o : Operand) : Option Cover :=
  let isPattern :=
    match s.shape with
    | .single => o.isPattern && !s.isCallee
    | .assigned => true
    | .mixed => false
  let c : Cover := ⟨c.expression && o.isExpression, c.pattern && isPattern⟩
  if c.expression || c.pattern then some c else none

/-- Reads an element behind three dots. -/
def spread (c : Cover) (s : Slot) (o : Operand) : Option Cover :=
  let isPattern := s.shape = .single && o.isPattern && !s.isCallee
  let c : Cover := ⟨c.expression && o.isExpression, c.pattern && isPattern⟩
  if c.expression || c.pattern then some c else none

end Cover

/-- Who asked for a bracketed list. -/
inductive Owner
  | expression (s : Slot)
  | asyncCall (s : Slot)
  | formals
  | binding
  | plain
  deriving DecidableEq, Repr

/-- A word that may stand before the name of a member, or be that name. -/
inductive Modifier
  | isStatic
  | isAsync
  | accessor
  | none
  deriving DecidableEq, Repr

def Modifier.ofWord (w : String) : Modifier :=
  if w = "static" then .isStatic
  else if w = "async" then .isAsync
  else if w = "get" || w = "set" then .accessor
  else .none

/-- How far a bracketed list has been read. -/
inductive ListState
  | start
  | comma
  | element
  | spread
  | behind
  deriving DecidableEq, Repr

/-- How far the members of an object literal or a class have been read. -/
inductive MemberState
  | first
  | start
  | word (modifier : Modifier) (methodOnly isName : Bool)
  | key
  | methodKey
  | method
  | element
  | spread
  | fallback
  | behind
  deriving DecidableEq, Repr

inductive Goal
  | interpreterLine
  | statements
  | statement
  | semicolon
  | blockEnd
  | loopEnd
  | mark (m : String)
  | word (w : String)
  | parenthesized
  | block
  | elsePart
  | handler
  | finalizer
  | catchParameter
  | optionalLabel
  | optionalExpression
  | moreExpressions
  | caseList
  | functionMark
  | optionalName
  | functionName
  | className
  | heritage
  | formals
  | binding
  | initializer
  | moreDeclarators
  | forOpen
  | forStart
  | forLeft
  | forTarget (isTarget isExpression : Bool)
  | forBound (isVar : Bool)
  | forDeclared (isVar : Bool)
  | operand (s : Slot)
  | operator (s : Slot) (o : Operand)
  | propertyName
  | optionalChain (s : Slot)
  | newBehind (s : Slot)
  | importBehind (s : Slot)
  | importProperty (s : Slot)
  | yieldBehind (s : Slot)
  | awaitBehind (s : Slot)
  | asyncBehind (s : Slot) (isOperand : Bool)
  | usingBehind (s : Slot)
  | arrowBody (s : Slot)
  | group (owner : Owner) (c : Cover) (state : ListState)
  | arrayBody (owner : Owner) (c : Cover) (state : ListState)
  | objectBody (owner : Owner) (c : Cover) (state : MemberState)
  | classBody
  | classMember (state : MemberState)
  | fieldEnd
  | arguments (behind : Bool)
  | decorator
  | decoratorBehind
  | decoratedClass
  | decoratedStatement
  | exportBehind
  | exportAll
  | exportFrom
  | exportDefault
  | exportDecorated
  | moduleName
  | moduleString
  | importName
  | importSecond
  | importWith
  | specifiers (isFirst : Bool)
  | specifierBehind
  | objectLiteral
  | stringBody (q : Char)
  | template
  | markupOpen
  | markupName
  | markupWord
  | markupAttributes
  | markupAttribute
  | markupValue
  | markupExpression
  | markupChildren
  | markupClose
  | finish
  deriving DecidableEq, Repr

/-- Words that are no names. -/
def reservedWords : List String :=
  ["break", "case", "catch", "class", "const", "continue", "debugger", "default", "delete", "do",
    "else", "export", "extends", "false", "finally", "for", "function", "if", "import", "in",
    "instanceof", "new", "null", "return", "super", "switch", "this", "throw", "true", "try",
    "typeof", "var", "void", "while", "with"]

def isReserved (w : String) : Bool := reservedWords.contains w

/-- How the text in front of a goal is cut into tokens. -/
inductive Mode
  | code
  | string (q : Char)
  | template
  | tag
  | children
  deriving DecidableEq, Repr

def Goal.mode : Goal → Mode
  | stringBody q => .string q
  | template => .template
  | markupChildren => .children
  | markupOpen | markupName | markupWord | markupAttributes | markupAttribute | markupValue
  | markupClose => .tag
  | mark m => if m = ">" then .tag else .code
  | _ => .code

/-- Goals that end with a closing bracket. -/
def Goal.awaitsBracket : Goal → Bool
  | mark m => m = ")" || m = "]" || m = "\x7d"
  | group .. | arrayBody .. | objectBody .. | classBody | arguments .. | caseList
  | specifiers .. | specifierBehind | forStart | forLeft | forTarget .. | forBound ..
  | forDeclared .. | template => true
  | _ => false

end LicenseNotices.JavaScript
