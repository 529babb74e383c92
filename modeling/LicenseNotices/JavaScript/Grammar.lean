import LicenseNotices.JavaScript.Goal

/-!
The grammar of JavaScript as a rewriting of goals. Reading a token replaces the
goal on top of the stack by the goals that remain of it, in every way that the
grammar allows; a goal may also be closed, and hands to the goal below what it
has found. Operator precedence plays no part, since only acceptance counts.
-/
namespace LicenseNotices.JavaScript

open Token Goal

abbrev Alternatives := List (List Goal)

def binaryMarks : List String :=
  ["&&", "||", "??", ">>", ">>>", "<<", "&", "^", "|", "+", "-", "*", "/", "%", "**", "<", "<=",
    "==", "===", "!=", "!==", ">=", ">"]

def updateMarks : List String :=
  ["+=", "-=", "*=", "/=", "%=", "^=", "&=", "|=", ">>=", ">>>=", "<<=", "**=", "&&=", "||=",
    "??="]

def unaryMarks : List String := ["+", "-", "!", "~", "++", "--"]

def classTail : List Goal := [heritage, mark "\x7b", classBody]

/-- The operand that a word starts. -/
def wordOperand (s : Slot) (w : String) : Alternatives :=
  let plain : Alternatives := if isReserved w then [] else [[operator s .name]]
  match w with
  | "function" => [[functionMark, optionalName, formals, block, operator s .value]]
  | "class" => [optionalName :: classTail ++ [operator s .value]]
  | "new" => [[newBehind s]]
  | "this" | "null" | "true" | "false" | "super" => [[operator s .value]]
  | "import" => [[importBehind s]]
  | "async" => [[asyncBehind s true]]
  | "typeof" | "void" | "delete" => if s.isCallee then [] else [[operand s.mixed]]
  | "yield" => if s.isCallee then plain else [[yieldBehind s.mixed]]
  | "await" => if s.isCallee then plain else [[awaitBehind s]]
  | "using" => if s.isCallee then plain else plain ++ [[usingBehind s]]
  | _ => plain

/-- The operand that a token starts. -/
def startOperand (s : Slot) (t : Token) : Alternatives :=
  match t with
  | name w => wordOperand s w
  | number | regex => [[operator s .value]]
  | quote q => [[stringBody q, operator s .value]]
  | backquote => [[template, operator s .value]]
  | privateName => if s.isCallee then [] else [[word "in", operand s.mixed]]
  | Token.mark m =>
      match m with
      | "(" => [[group (.expression s) {} .start]]
      | "[" => [[arrayBody (.expression s) {} .start]]
      | "\x7b" => [[objectBody (.expression s) {} .start]]
      | "@" => [[decorator, decoratedClass, operator s .value]]
      | "<" => if s.isCallee then [] else [[markupOpen, operator s.mixed .result]]
      | _ => if unaryMarks.contains m && !s.isCallee then [[operand s.mixed]] else []
  | _ => []

/-- What a token may do behind the operand `o`. -/
def continueOperand (s : Slot) (o : Operand) (t : Token) : Alternatives :=
  let called : Slot := { s with isCallee := false }
  let whenExpression (a : Alternatives) : Alternatives := if o.isExpression then a else []
  match t with
  | name w => whenExpression (if w = "in" || w = "instanceof" then [[operand s.mixed]] else [])
  | question => whenExpression [[operand {}, mark ":", operand s.mixed]]
  | backquote => if o.isPrimary then [[template, operator s .value]] else []
  | Token.mark m =>
      match m with
      | "(" => whenExpression [[arguments false, operator called .value]]
      | "[" => whenExpression [[operand {}, moreExpressions, mark "]", operator s .reference]]
      | "." => whenExpression [[propertyName, operator s .reference]]
      | "?." => whenExpression [[optionalChain s]]
      | "++" | "--" => whenExpression [[operator s.mixed .result]]
      | "=" => if o.isAssignable && !s.isCallee then [[operand (s.assigned o)]] else []
      | "=>" => if o.isArrowHead then [[arrowBody s.mixed]] else []
      | _ =>
          if binaryMarks.contains m then whenExpression [[operand s.mixed]]
          else if updateMarks.contains m && o.isUpdatable && !s.isCallee then
            [[operand s.mixed]]
          else []
  | _ => []

/-- The goals behind a closed parenthesised list. -/
def closeGroup (owner : Owner) (c : Cover) : Alternatives :=
  match owner, c.expression, c.pattern with
  | .expression s, true, true => [[operator s .groupOrParameters]]
  | .expression s, true, false => [[operator s .group]]
  | .expression s, false, true => [[operator s .parameters]]
  | .asyncCall s, true, true => [[operator s .callOrParameters]]
  | .asyncCall s, true, false => [[operator s .value]]
  | .asyncCall s, false, true => [[operator s .parameters]]
  | .formals, _, true => [[]]
  | _, _, _ => []

/-- The goals behind a closed array or object literal. -/
def closeLiteral (owner : Owner) (c : Cover) : Alternatives :=
  match owner, c.expression, c.pattern with
  | .expression s, true, true => [[operator s .literalOrPattern]]
  | .expression s, true, false => [[operator s .literal]]
  | .expression s, false, true => [[operator s .pattern]]
  | .binding, _, true => [[]]
  | .plain, true, _ => [[]]
  | _, _, _ => []

def Owner.isExpression : Owner → Bool
  | .expression _ => true
  | _ => false

def Owner.isCall : Owner → Bool
  | .asyncCall _ => true
  | _ => false

def readGroup (owner : Owner) (c : Cover) (state : ListState) (t : Token) : Alternatives :=
  let bare := if owner.isExpression then c.withoutExpression else c
  match state, t with
  | .start, Token.mark ")" | .comma, Token.mark ")" => closeGroup owner bare
  | .start, Token.mark "..." | .comma, Token.mark "..." =>
      [[operand {}, group owner bare .spread]]
  | .start, Token.mark "," | .comma, Token.mark "," =>
      if owner.isCall then [[group owner c.withoutPattern .comma]] else []
  | .start, t | .comma, t => (startOperand {} t).map (· ++ [group owner c .element])
  | .behind, Token.mark "," => [[group owner c .comma]]
  | .behind, Token.mark ")" => closeGroup owner c
  | _, _ => []

def readArray (owner : Owner) (c : Cover) (state : ListState) (t : Token) : Alternatives :=
  match state, t with
  | .start, Token.mark "]" | .comma, Token.mark "]" | .behind, Token.mark "]" =>
      closeLiteral owner c
  | .start, Token.mark "," | .comma, Token.mark "," | .behind, Token.mark "," =>
      [[arrayBody owner c .comma]]
  | .start, Token.mark "..." | .comma, Token.mark "..." =>
      [[operand {}, arrayBody owner c .spread]]
  | .start, t | .comma, t => (startOperand {} t).map (· ++ [arrayBody owner c .element])
  | _, _ => []

/-- The goals of a method behind its name, whose opening parenthesis has been read. -/
def methodTail : List Goal := [group .formals ⟨false, true⟩ .start, block]

/-- A member name that is no word; `behind` is the member list once the name is read. -/
def startKey (behind : Goal) (t : Token) : Alternatives :=
  match t with
  | quote q => [[stringBody q, behind]]
  | number | privateName => [[behind]]
  | Token.mark "[" => [[operand {}, mark "]", behind]]
  | _ => []

def readObject (owner : Owner) (c : Cover) (state : MemberState) (t : Token) : Alternatives :=
  let at' (state : MemberState) : Goal := objectBody owner c state
  let asMethod (state : MemberState) : Goal := objectBody owner c.withoutPattern state
  let method : Alternatives := if c.expression then [methodTail ++ [asMethod .behind]] else []
  match state, t with
  | .first, name w =>
      if isReserved w then [] else [[at' (.word (.ofWord w) false false)]]
  | .start, name w => [[at' (.word (.ofWord w) false (!isReserved w))]]
  | .start, Token.mark "\x7d" | .behind, Token.mark "\x7d" => closeLiteral owner c
  | .first, Token.mark "," | .start, Token.mark "," | .behind, Token.mark "," =>
      [[at' .start]]
  | .first, Token.mark "..." | .start, Token.mark "..." => [[operand {}, at' .spread]]
  | .first, Token.mark "*" | .start, Token.mark "*" => [[asMethod .methodKey]]
  | .first, Token.mark "@" | .start, Token.mark "@" => [[decorator, asMethod .first]]
  | .first, t | .start, t => startKey (at' .key) t
  | .key, Token.mark ":" => [[operand {}, at' .element]]
  | .key, Token.mark "(" | .method, Token.mark "(" => method
  | .methodKey, name _ => [[asMethod .method]]
  | .methodKey, t => startKey (asMethod .method) t
  | .word m methodOnly isName, t =>
      match t with
      | Token.mark "(" => method
      | Token.mark ":" => if methodOnly then [] else [[operand {}, at' .element]]
      | Token.mark "," => if methodOnly || !isName then [] else [[at' .start]]
      | Token.mark "\x7d" => if methodOnly || !isName then [] else closeLiteral owner c
      | Token.mark "=" =>
          if methodOnly || !isName || !c.pattern then []
          else [[operand {}, objectBody owner c.withoutExpression .fallback]]
      | Token.mark "*" =>
          match m with
          | .isStatic | .isAsync => [[asMethod .methodKey]]
          | _ => []
      | name w =>
          match m with
          | .isStatic => [[asMethod (.word (.ofWord w) true false)]]
          | .isAsync =>
              if Modifier.ofWord w = .accessor then [[asMethod (.word .accessor true false)]]
              else [[asMethod .method]]
          | .accessor => [[asMethod .method]]
          | .none => []
      | t => if m = .none then [] else startKey (asMethod .method) t
  | _, _ => []

/-- The goals above the members of a class that a token starts. -/
def startMember (t : Token) : Alternatives :=
  match t with
  | Token.mark "*" => [[classMember .methodKey]]
  | Token.mark "@" => [[decorator, classMember .first]]
  | name w =>
      [classMember (.word (.ofWord w) false true)] ::
        if w = "static" then [[blockEnd, block]] else []
  | t => startKey (classMember .key) t

def readField (t : Token) : Alternatives :=
  match t with
  | Token.mark "=" => [[operand {}, fieldEnd]]
  | Token.mark ";" | automaticSemicolon => [[]]
  | _ => []

def readMember (state : MemberState) (t : Token) : Alternatives :=
  match state, t with
  | .first, t => startMember t
  | .key, Token.mark "(" | .method, Token.mark "(" => [methodTail]
  | .key, t => readField t
  | .methodKey, name _ => [[classMember .method]]
  | .methodKey, t => startKey (classMember .method) t
  | .word m methodOnly _, t =>
      match t with
      | Token.mark "(" => [methodTail]
      | Token.mark "*" =>
          match m with
          | .isStatic | .isAsync => [[classMember .methodKey]]
          | _ => []
      | name w =>
          match m with
          | .isStatic => [[classMember (.word (.ofWord w) false true)]]
          | .isAsync =>
              if Modifier.ofWord w = .accessor then [[classMember (.word .accessor true true)]]
              else [[classMember .method]]
          | .accessor => [[classMember .method]]
          | .none => []
      | t =>
          (if methodOnly then [] else readField t) ++
            match m with
            | .isStatic => startKey (classMember .key) t
            | .none => []
            | _ => startKey (classMember .method) t
  | _, _ => []

/-- Inside the braces of a class. -/
def readClass (t : Token) : Alternatives :=
  match t with
  | Token.mark "\x7d" => [[]]
  | Token.mark ";" => [[classBody]]
  | t => (startMember t).map (· ++ [classBody])

def expressionTail : List Goal := [moreExpressions, semicolon]

def declarationTail : List Goal := [binding, initializer, moreDeclarators, semicolon]

/-- A statement that starts with a word that may also be a name. -/
def nameStatement (w : String) : Alternatives :=
  (wordOperand {} w).map (· ++ expressionTail) ++
    if isReserved w then [] else [[Goal.mark ":", statement]]

/-- The statement that a token starts. -/
def startStatement (t : Token) : Alternatives :=
  match t with
  | name w =>
      match w with
      | "var" | "const" => [declarationTail]
      | "let" => declarationTail :: nameStatement w
      | "if" => [[parenthesized, statement, elsePart]]
      | "for" => [[forOpen]]
      | "while" | "with" => [[parenthesized, statement]]
      | "do" => [[statement, word "while", parenthesized, loopEnd]]
      | "switch" => [[parenthesized, mark "\x7b", caseList]]
      | "try" => [[block, handler]]
      | "break" | "continue" => [[optionalLabel, semicolon]]
      | "return" => [[optionalExpression, semicolon]]
      | "throw" => [operand {} :: expressionTail]
      | "debugger" => [[semicolon]]
      | "function" => [[functionMark, functionName]]
      | "class" => [[className]]
      | "async" =>
          [[word "function", functionMark, functionName],
            asyncBehind {} false :: expressionTail, [mark ":", statement]]
      | "import" => [[importName], importBehind {} :: expressionTail]
      | "export" =>
          [[exportBehind], operator {} .name :: expressionTail, [mark ":", statement]]
      | _ => nameStatement w
  | Token.mark "\x7b" =>
      [[statements, mark "\x7d", blockEnd],
        objectBody (.expression {}) {} .first :: expressionTail]
  | Token.mark ";" => [[]]
  | Token.mark "@" => [[decorator, decoratedStatement]]
  | t => (startOperand {} t).map (· ++ expressionTail)

/-- The goals of a `for` statement behind its first semicolon. -/
def forTail : List Goal :=
  [optionalExpression, mark ";", optionalExpression, mark ")", statement]

/-- The goals of a `for` statement behind `in` or `of`. -/
def forEachTail : List Goal := [operand {}, moreExpressions, mark ")", statement]

def sourceTail : List Goal := [moduleString, semicolon]

def importTail : List Goal := [word "from", moduleString, importWith, semicolon]

/-- What a token leaves of a goal about module imports and exports. -/
def readModule (g : Goal) (t : Token) : Alternatives :=
  match g, t with
  | exportBehind, Token.mark "*" => [[exportAll]]
  | exportBehind, Token.mark "\x7b" => [[specifiers true, exportFrom]]
  | exportBehind, Token.mark "@" => [[decorator, exportDecorated]]
  | exportBehind, name "default" => [[exportDefault]]
  | exportBehind, name "let" => [declarationTail]
  | exportBehind, name "async" => [[word "function", functionMark, functionName]]
  | exportBehind, name w =>
      if ["var", "const", "function", "class"].contains w then startStatement t else []
  | exportAll, name "as" => [moduleName :: word "from" :: sourceTail]
  | exportAll, name "from" => [sourceTail]
  | exportFrom, name "from" => [sourceTail]
  | exportFrom, Token.mark ";" | exportFrom, automaticSemicolon => [[]]
  | exportDecorated, name "class" => [[className]]
  | exportDecorated, name "default" => [[exportDefault]]
  | exportDecorated, Token.mark "@" => [[decorator, exportDecorated]]
  | exportDefault, name "async" =>
      [[word "function", functionMark, functionName], [asyncBehind {} false, semicolon]]
  | exportDefault, name w =>
      if ["var", "const", "let", "function", "class"].contains w then startStatement t
      else (wordOperand {} w).map (· ++ [semicolon])
  | exportDefault, Token.mark "@" => [[decorator, exportDecorated]]
  | exportDefault, t => (startOperand {} t).map (· ++ [semicolon])
  | moduleName, name w => if isReserved w && w ≠ "default" then [] else [[]]
  | moduleName, quote q => [[stringBody q]]
  | moduleString, quote q => [[stringBody q]]
  | importName, quote q => [[stringBody q, importWith, semicolon]]
  | importName, name w => if isReserved w then [] else [[importSecond]]
  | importName, Token.mark "*" => [word "as" :: moduleName :: importTail]
  | importName, Token.mark "\x7b" => [specifiers true :: importTail]
  | importSecond, name "from" => [importTail.tail]
  | importSecond, Token.mark "," => [[importName]]
  | importWith, name "with" => [[objectLiteral]]
  | specifiers _, Token.mark "\x7d" => [[]]
  | specifiers true, Token.mark "," => [[mark "\x7d"]]
  | specifiers _, name w => if isReserved w && w ≠ "default" then [] else [[specifierBehind]]
  | specifiers _, quote q => [[stringBody q, specifierBehind]]
  | specifierBehind, name "as" => [[moduleName, specifierBehind]]
  | specifierBehind, Token.mark "," => [[specifiers false]]
  | specifierBehind, Token.mark "\x7d" => [[]]
  | objectLiteral, Token.mark "\x7b" => [[objectBody .plain ⟨true, false⟩ .start]]
  | _, _ => []

/-- What a token leaves of a goal about markup. -/
def readMarkup (g : Goal) (t : Token) : Alternatives :=
  match g, t with
  | markupOpen, Token.mark ">" => [[markupChildren]]
  | markupOpen, name _ => [[markupName, markupAttributes]]
  | markupName, Token.mark "." => [[markupWord, markupName]]
  | markupName, Token.mark ":" => [[markupWord]]
  | markupWord, name _ => [[]]
  | markupAttributes, name _ => [[markupAttribute, markupAttributes]]
  | markupAttributes, Token.mark "\x7b" => [[markupExpression, markupAttributes]]
  | markupAttributes, Token.mark ">" => [[markupChildren]]
  | markupAttributes, Token.mark "/>" => [[]]
  | markupAttribute, Token.mark ":" => [[markupWord, markupAttribute]]
  | markupAttribute, Token.mark "=" => [[markupValue]]
  | markupValue, markupString => [[]]
  | markupValue, Token.mark "\x7b" => [[markupExpression]]
  | markupValue, Token.mark "<" => [[markupOpen]]
  | markupExpression, Token.mark "\x7d" => [[]]
  | markupExpression, Token.mark "..." => [[operand {}, mark "\x7d"]]
  | markupExpression, t => (startOperand {} t).map (· ++ [moreExpressions, mark "\x7d"])
  | markupChildren, markupText => [[markupChildren]]
  | markupChildren, Token.mark "\x7b" => [[markupExpression, markupChildren]]
  | markupChildren, Token.mark "<" => [[markupOpen, markupChildren]]
  | markupChildren, Token.mark "</" => [[markupClose]]
  | markupClose, Token.mark ">" => [[]]
  | markupClose, name _ => [[markupName, mark ">"]]
  | _, _ => []

/-- What a token leaves of a goal about the head of a `for` statement. -/
def readFor (g : Goal) (t : Token) : Alternatives :=
  match g, t with
  | forOpen, name "await" => [[mark "(", forStart]]
  | forOpen, Token.mark "(" => [[forStart]]
  | forStart, Token.mark ";" => [forTail]
  | forStart, name "var" => [[binding, forBound true]]
  | forStart, name "const" => [[binding, forBound false]]
  | forStart, name "let" =>
      [[binding, forBound false], [operator {} .name, forLeft]]
  | forStart, t => (startOperand {} t).map (· ++ [forLeft])
  | forTarget true _, name w => if w = "in" || w = "of" then [forEachTail] else []
  | forTarget _ true, Token.mark "," => [operand {} :: moreExpressions :: mark ";" :: forTail]
  | forTarget _ true, Token.mark ";" => [forTail]
  | forBound isVar, t =>
      match t with
      | name w => if w = "in" || w = "of" then [forEachTail] else []
      | Token.mark "=" => [[operand {}, forDeclared isVar]]
      | Token.mark "," => [[binding, initializer, moreDeclarators, forDeclared false]]
      | Token.mark ";" | automaticSemicolon => [forTail]
      | _ => []
  | forDeclared isVar, t =>
      match t with
      | name w => if isVar && (w = "in" || w = "of") then [forEachTail] else []
      | Token.mark "," => [[binding, initializer, moreDeclarators, forDeclared false]]
      | Token.mark ";" | automaticSemicolon => [forTail]
      | _ => []
  | _, _ => []

/-- What a token leaves of a goal inside an expression. -/
def readExpression (g : Goal) (t : Token) : Alternatives :=
  match g with
  | operand s => startOperand s t
  | operator s o => continueOperand s o t
  | propertyName =>
      match t with
      | name _ | privateName => [[]]
      | _ => []
  | optionalChain s =>
      match t with
      | name _ | privateName => [[operator s .reference]]
      | Token.mark "(" => [[arguments false, operator { s with isCallee := false } .value]]
      | Token.mark "[" => [[operand {}, moreExpressions, mark "]", operator s .reference]]
      | _ => []
  | newBehind s =>
      match t with
      | Token.mark "." => [[word "target", operator s .value]]
      | t => startOperand { s with isCallee := true } t
  | importBehind s =>
      match t with
      | Token.mark "(" => [[arguments false, operator { s with isCallee := false } .value]]
      | Token.mark "." => [[importProperty s]]
      | _ => []
  | importProperty s =>
      match t with
      | name w => [[operator s (if w = "meta" then .value else .reference)]]
      | privateName => [[operator s .reference]]
      | _ => []
  | yieldBehind s =>
      match t with
      | Token.mark "*" => [[operand s]]
      | t =>
          let started := startOperand s t
          if started.isEmpty then continueOperand s .result t else started
  | awaitBehind s =>
      let started := startOperand s.mixed t
      if started.isEmpty then continueOperand s .name t else started
  | asyncBehind s isOperand =>
      match t with
      | name "function" =>
          if isOperand then [[functionMark, optionalName, formals, block, operator s .value]]
          else []
      | name w =>
          (if isReserved w then [] else [[Goal.mark "=>", arrowBody s.mixed]]) ++
            continueOperand s .name t
      | Token.mark "(" => [[group (.asyncCall s) {} .start]]
      | t => continueOperand s .name t
  | usingBehind s =>
      match t with
      | name w => if isReserved w then [] else [[mark "=", operand s.mixed]]
      | _ => []
  | arrowBody s =>
      match t with
      | Token.mark "\x7b" =>
          [[statements, mark "\x7d", blockEnd, operator s .value],
            [objectBody (.expression s) ⟨true, false⟩ .first]]
      | t => startOperand s t
  | group owner c state => readGroup owner c state t
  | arrayBody owner c state => readArray owner c state t
  | objectBody owner c state => readObject owner c state t
  | classBody => readClass t
  | classMember state => readMember state t
  | fieldEnd =>
      match t with
      | Token.mark ";" | automaticSemicolon => [[]]
      | _ => []
  | arguments behind =>
      match behind, t with
      | _, Token.mark ")" => [[]]
      | _, Token.mark "," => [[arguments false]]
      | false, Token.mark "..." => [[operand {}, arguments true]]
      | false, t => (startOperand {} t).map (· ++ [arguments true])
      | true, _ => []
  | stringBody q =>
      match t with
      | stringText => [[stringBody q]]
      | quote _ => [[]]
      | _ => []
  | template =>
      match t with
      | templateText => [[template]]
      | substitution => [[operand {}, moreExpressions, mark "\x7d", template]]
      | backquote => [[]]
      | _ => []
  | decorator =>
      match t with
      | name w => if isReserved w then [] else [[decoratorBehind]]
      | _ => []
  | decoratorBehind =>
      match t with
      | Token.mark "." => [[propertyName, decoratorBehind]]
      | Token.mark "(" => [[arguments false]]
      | _ => []
  | decoratedClass =>
      match t with
      | Token.mark "@" => [[decorator, decoratedClass]]
      | name "class" => [optionalName :: classTail]
      | _ => []
  | _ => []

/-- What a token leaves of a goal about statements and their parts. -/
def readStatement (g : Goal) (t : Token) : Alternatives :=
  match g, t with
  | Goal.interpreterLine, Token.interpreterLine => [[]]
  | statements, t => (startStatement t).map (· ++ [statements])
  | statement, t => startStatement t
  | semicolon, Token.mark ";" | semicolon, automaticSemicolon => [[]]
  | blockEnd, automaticSemicolon => [[]]
  | loopEnd, Token.mark ";" | loopEnd, automaticSemicolon => [[]]
  | Goal.mark m, Token.mark n => if m = n then [[]] else []
  | word v, name w => if v = w then [[]] else []
  | parenthesized, Token.mark "(" => [[operand {}, moreExpressions, mark ")"]]
  | block, Token.mark "\x7b" => [[statements, mark "\x7d", blockEnd]]
  | elsePart, name "else" => [[statement]]
  | handler, name "catch" => [[catchParameter, finalizer]]
  | handler, name "finally" => [[block]]
  | finalizer, name "finally" => [[block]]
  | catchParameter, Token.mark "(" => [[binding, mark ")", block]]
  | catchParameter, Token.mark "\x7b" => [[statements, mark "\x7d", blockEnd]]
  | optionalLabel, name w => if isReserved w then [] else [[]]
  | optionalExpression, t => (startOperand {} t).map (· ++ [moreExpressions])
  | moreExpressions, Token.mark "," => [[operand {}, moreExpressions]]
  | caseList, name "case" => [[operand {}, moreExpressions, mark ":", statements, caseList]]
  | caseList, name "default" => [[mark ":", statements, caseList]]
  | caseList, Token.mark "\x7d" => [[]]
  | functionMark, Token.mark "*" => [[]]
  | optionalName, name w => if isReserved w then [] else [[]]
  | functionName, name w => if isReserved w then [] else [[formals, block]]
  | functionName, Token.mark "(" => [methodTail ++ operator {} .value :: expressionTail]
  | className, name "extends" =>
      [[operand {}, mark "\x7b", classBody, operator {} .value] ++ expressionTail]
  | className, name w => if isReserved w then [] else [classTail ++ [blockEnd]]
  | className, Token.mark "\x7b" =>
      [[classBody, operator {} .value] ++ expressionTail]
  | heritage, name "extends" => [[operand {}]]
  | formals, Token.mark "(" => [[group .formals ⟨false, true⟩ .start]]
  | binding, name w => if isReserved w then [] else [[]]
  | binding, Token.mark "[" => [[arrayBody .binding ⟨false, true⟩ .start]]
  | binding, Token.mark "\x7b" => [[objectBody .binding ⟨false, true⟩ .start]]
  | initializer, Token.mark "=" => [[operand {}]]
  | moreDeclarators, Token.mark "," => [[binding, initializer, moreDeclarators]]
  | decoratedStatement, Token.mark "@" => [[decorator, decoratedStatement]]
  | decoratedStatement, name "class" => [[className]]
  | decoratedStatement, name "export" => [[exportDecorated]]
  | finish, endOfInput => [[]]
  | _, _ => []

/-- Every way in which the goal reads the token. -/
def Goal.read (g : Goal) (t : Token) : Alternatives :=
  match g with
  | exportBehind | exportAll | exportFrom | exportDefault | exportDecorated | moduleName
  | moduleString | importName | importSecond | importWith | specifiers _ | specifierBehind
  | objectLiteral => readModule g t
  | markupOpen | markupName | markupWord | markupAttributes | markupAttribute | markupValue
  | markupExpression | markupChildren | markupClose => readMarkup g t
  | forOpen | forStart | forLeft | forTarget .. | forBound _ | forDeclared _ =>
      readFor g t
  | operand _ | operator .. | propertyName | optionalChain _ | newBehind _ | importBehind _
  | importProperty _ | yieldBehind _ | awaitBehind _ | asyncBehind .. | usingBehind _
  | arrowBody _ | group .. | arrayBody .. | objectBody .. | classBody | classMember _ | fieldEnd
  | arguments _ | stringBody _ | template | decorator | decoratorBehind | decoratedClass =>
      readExpression g t
  | _ => readStatement g t

/-- The expression that a goal stands for when it is closed. -/
def Goal.expression? : Goal → Option (Slot × Operand)
  | operator s o => some (s, o)
  | yieldBehind s => some (s, .result)
  | awaitBehind s => some (s, .name)
  | asyncBehind s _ => some (s, .name)
  | _ => none

/-- Goals that may be closed without reading anything. -/
def Goal.isOptional : Goal → Bool
  | interpreterLine | statements | blockEnd | loopEnd | elsePart | handler | finalizer
  | optionalLabel | optionalExpression | moreExpressions | functionMark | optionalName | heritage
  | initializer | moreDeclarators | importWith | decoratorBehind | markupName
  | markupAttribute => true
  | _ => false

/-- The goal below once an expression that ends with `o` is closed above it. -/
def Goal.accept (below : Goal) (s : Slot) (o : Operand) : Option Goal :=
  match below with
  | group owner c .element => (c.element s o).map fun c => group owner c .behind
  | group owner c .spread => (c.spread s o).map fun c => group owner c .behind
  | arrayBody owner c .element => (c.element s o).map fun c => arrayBody owner c .behind
  | arrayBody owner c .spread => (c.spread s o).map fun c => arrayBody owner c .behind
  | objectBody owner c .element => (c.element s o).map fun c => objectBody owner c .behind
  | objectBody owner c .spread => (c.spread s o).map fun c => objectBody owner c .behind
  | objectBody owner c .fallback =>
      if o.isExpression then some (objectBody owner c .behind) else none
  | forLeft =>
      let isTarget := s.shape = .single && o.isAssignable && !s.isCallee
      if isTarget || o.isExpression then some (forTarget isTarget o.isExpression) else none
  | below => if o.isExpression then some below else none

/-- Closes a goal on top of another one. -/
def Goal.close (g below : Goal) : Option Goal :=
  match g.expression? with
  | some (s, o) => below.accept s o
  | none => if g.isOptional then some below else none

/-- The stacks behind a token, when `g` is on top of the stack. -/
def readAtop (t : Token) (g : Goal) : List Goal → Alternatives
  | [] => g.read t
  | below :: rest =>
      (g.read t).map (· ++ below :: rest) ++
        match g.close below with
        | some below => readAtop t below rest
        | none => []

/-- The stacks behind a token. -/
def readGoals (t : Token) : List Goal → Alternatives
  | [] => []
  | g :: rest => readAtop t g rest

end LicenseNotices.JavaScript
