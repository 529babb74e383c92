import LicenseNotices.CStyle.Comments
import LicenseNotices.JavaScript.SyntaxTree

/-!
The grammars by which comments are found in a source. Each has a name, and each
either gives the comments of a source or says where the source is at fault.
-/
namespace LicenseNotices

inductive Grammar
  | cStyle
  | javascript
  deriving DecidableEq, Repr

namespace Grammar

def name : Grammar → String
  | cStyle => "c-style"
  | javascript => "javascript"

/-- All grammars, in the order of their names. -/
def all : List Grammar := [cStyle, javascript]

def default : Grammar := javascript

def named? (name : Text) : Option Grammar := all.find? (·.name.toList = name)

/-- The failure for a grammar of an unknown name. -/
def unknown (name : Text) : Failure :=
  .configuration ("Unknown grammar '" ++ String.ofList name ++ "'")
    (some ("Available grammars: " ++ String.intercalate ", " (all.map Grammar.name)))

def comments [JavaScript.Parser] (g : Grammar) (source : Text) :
    Except JavaScript.ParseError (List Comment) :=
  match g with
  | cStyle => (CStyle.comments source).mapError .source
  | javascript => JavaScript.comments source

end Grammar

end LicenseNotices
