import LicenseNotices.Comment.Basic
import LicenseNotices.Encoding.Utf8
import LicenseNotices.Failure

/-!
Comments from the syntax tree of a source. A parser that works on bytes leaves a tree whose nodes
tell what they cover and where they start, all counted in bytes. The comments are found by a walk
over the tree in the order of the source; the delimiters are cut off, and the columns are counted
in characters. The first node that the parser could not make sense of is where a faulty source is
at fault. The parser itself is part of the surroundings of a run.
-/
namespace LicenseNotices.JavaScript

open Encoding

/-- The bytes from one offset up to another, the row at which they start, and how many bytes of that
row come before. -/
structure Extent where
  startByte : Nat
  endByte : Nat
  row : Nat
  byteColumn : Nat
  deriving DecidableEq, Repr

structure SyntaxNode where
  type : String
  extent : Extent
  /-- Whether the parser has supplied the node because the source lacks it. -/
  isMissing : Bool := false
  deriving DecidableEq, Repr

namespace SyntaxNode

def isComment (n : SyntaxNode) : Bool := n.type = "comment" || n.type = "html_comment"

def isError (n : SyntaxNode) : Bool := n.type = "ERROR" || n.isMissing

end SyntaxNode

inductive SyntaxTree
  | node (n : SyntaxNode) (children : List SyntaxTree)

mutual

def SyntaxTree.size : SyntaxTree → Nat
  | .node _ children => forestSize children + 1

def forestSize : List SyntaxTree → Nat
  | [] => 0
  | t :: rest => t.size + forestSize rest

end

theorem forestSize_append (ts us : List SyntaxTree) :
    forestSize (ts ++ us) = forestSize ts + forestSize us := by
  induction ts with
  | nil => simp [forestSize]
  | cons t rest ih => rw [List.cons_append, forestSize, forestSize, ih, Nat.add_assoc]

/-- Visits the trees on a stack, the children of a node right behind it. -/
def walk : List SyntaxTree → List SyntaxNode
  | [] => []
  | .node n children :: rest => n :: walk (children ++ rest)
termination_by ts => forestSize ts
decreasing_by
  rw [forestSize_append, forestSize, SyntaxTree.size]
  omega

def byteSlice (bytes : Bytes) (start stop : Nat) : Bytes := (bytes.take stop).drop start

/-- The column in characters at which the extent starts. -/
def charColumn (bytes : Bytes) (x : Extent) : Except DecodeFault Nat :=
  (Utf8.decode (byteSlice bytes (x.startByte - x.byteColumn) x.startByte)).map List.length

/-- The kind and the body of a comment with its delimiters. -/
def undelimited? (raw : Text) : Option (CommentKind × Text) :=
  if ['/', '/'].isPrefixOf raw then some (.line, raw.drop 2)
  else if ['/', '*'].isPrefixOf raw && ['*', '/'].isSuffixOf raw && 4 ≤ raw.length then
    some (.block, (raw.drop 2).take (raw.length - 4))
  else if ['<', '!', '-', '-'].isPrefixOf raw then some (.line, raw.drop 4)
  else if ['-', '-', '>'].isPrefixOf raw then some (.line, raw.drop 3)
  else none

def commentAt? (bytes : Bytes) (x : Extent) : Except DecodeFault (Option Comment) := do
  let raw ← Utf8.decode (byteSlice bytes x.startByte x.endByte)
  match undelimited? raw with
  | none => return none
  | some (kind, text) =>
      return some { kind, text, line := x.row + 1, column := ← charColumn bytes x }

/-- The comments among nodes; a comment of unknown form is left out. -/
def commentsAmong (bytes : Bytes) : List SyntaxNode → Except DecodeFault (List Comment)
  | [] => .ok []
  | n :: rest =>
      if n.isComment then do
        let comment ← commentAt? bytes n.extent
        let later ← commentsAmong bytes rest
        return comment.toList ++ later
      else commentsAmong bytes rest

namespace SyntaxTree

def top : SyntaxTree → SyntaxNode
  | .node n _ => n

def comments (bytes : Bytes) (t : SyntaxTree) : Except DecodeFault (List Comment) :=
  commentsAmong bytes (walk [t])

/-- The node that is blamed for a faulty source: the first error, or else the whole. -/
def blamed (t : SyntaxTree) : SyntaxNode := ((walk [t]).find? SyntaxNode.isError).getD t.top

end SyntaxTree

/-- What a parser makes of a source. -/
structure Parse where
  hasError : Bool
  tree : SyntaxTree

/-- A parser of JavaScript sources in UTF-8. -/
class Parser where
  parse : Bytes → Parse

/-- Why a parse gives no comments: the source is at fault, or a part of it that the tree points at
is no text. -/
inductive ParseError
  | source (e : SourceError)
  | undecodable (f : DecodeFault)
  deriving DecidableEq, Repr

namespace Parse

/-- The comments of a source in the parse of its bytes. -/
def comments (bytes : Bytes) (p : Parse) : Except ParseError (List Comment) :=
  if p.hasError then
    let blamed := p.tree.blamed.extent
    match charColumn bytes blamed with
    | .ok column => .error (.source ⟨.notJavaScript, ⟨blamed.row + 1, column⟩⟩)
    | .error f => .error (.undecodable f)
  else (p.tree.comments bytes).mapError .undecodable

end Parse

/-- The comments of a JavaScript source. -/
def comments [Parser] (source : Text) : Except ParseError (List Comment) :=
  let bytes := Utf8.encode source
  (Parser.parse bytes).comments bytes

/-- The extent between two offsets of a source, which count characters. -/
def extentAt (source : Text) (start stop : Nat) : Extent where
  startByte := (Utf8.encode (source.take start)).length
  endByte := (Utf8.encode (source.take stop)).length
  row := (source.take start).count '\n'
  byteColumn := (Utf8.encode (Text.lastLine (source.take start))).length

end LicenseNotices.JavaScript
