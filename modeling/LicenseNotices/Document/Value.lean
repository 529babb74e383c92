import LicenseNotices.Decimal.Shortest
import LicenseNotices.Document.Moment
import LicenseNotices.NestingLimits
import LicenseNotices.Text.Integer
import LicenseNotices.Text.Quoted

/-!
The values of documents: what a configuration file holds, and what settings are
given from outside. Tables keep the order in which their keys were first
written. Each value has a text, in which texts inside lists and tables are quoted,
unless a number in it is too long or it stands inside too many others.
-/
namespace LicenseNotices.Document

inductive Value
  | null
  | boolean (b : Bool)
  | integer (n : Int)
  | float (x : Binary64)
  | text (t : Text)
  | moment (m : Moment)
  | list (items : List Value)
  | table (entries : List (Text × Value))
  deriving Repr, Inhabited

abbrev Entries := List (Text × Value)

namespace Value

/-- The name of the kind of a value. -/
def kindName : Value → String
  | null => "NoneType"
  | boolean _ => "bool"
  | integer _ => "int"
  | float _ => "float"
  | text _ => "str"
  | moment (.date _) => "datetime.date"
  | moment (.time _) => "datetime.time"
  | moment (.both _ _ _) => "datetime.datetime"
  | list _ => "list"
  | table _ => "dict"

/-- The kind of a value that holds others. -/
def container? : Value → Option String
  | list _ => some "list"
  | table _ => some "dict"
  | _ => none

/-- Whether a value counts as given: zero, nothing and everything empty does not. -/
def isGiven : Value → Bool
  | null => false
  | boolean b => b
  | integer n => n ≠ 0
  | float x => !x.isZero
  | text t => !t.isEmpty
  | moment _ => true
  | list items => !items.isEmpty
  | table entries => !entries.isEmpty

mutual

/-- How a value inside a list or table is written. -/
def quotedText : Value → Text
  | null => "None".toList
  | boolean true => "True".toList
  | boolean false => "False".toList
  | integer n => (toString n).toList
  | float x => x.shortestText
  | text t => Text.quoted t
  | moment m => m.quotedText.toList
  | list items => '[' :: itemsText items ++ [']']
  | table entries => '\x7b' :: entriesText entries ++ ['\x7d']

def itemsText : List Value → Text
  | [] => []
  | [v] => v.quotedText
  | v :: rest => v.quotedText ++ [',', ' '] ++ itemsText rest

def entriesText : List (Text × Value) → Text
  | [] => []
  | [(k, v)] => Text.quoted k ++ [':', ' '] ++ v.quotedText
  | (k, v) :: rest => Text.quoted k ++ [':', ' '] ++ v.quotedText ++ [',', ' '] ++ entriesText rest

end

/-- The text of a value; a text stands for itself. -/
def display : Value → Text
  | text t => t
  | moment m => m.text.toList
  | v => v.quotedText

/-- Why a value has no text. -/
inductive TextFault
  | tooManyDigits
  | tooDeep
  deriving DecidableEq, Repr

section

variable [NestingLimits]

mutual

/-- The first fault that is met when the text of a value inside `depth` others is made. -/
def textFault? (depth : Nat) : Value → Option TextFault
  | integer n => if Nat.pow 10 Text.integerDigitLimit ≤ n.natAbs then some .tooManyDigits else none
  | list items => itemsFault? (depth + 1) items
  | table entries => entriesFault? (depth + 1) entries
  | _ => none

def itemsFault? (depth : Nat) : List Value → Option TextFault
  | [] => none
  | v :: rest =>
      if NestingLimits.shown < depth then some .tooDeep
      else (v.textFault? depth).or (itemsFault? depth rest)

def entriesFault? (depth : Nat) : List (Text × Value) → Option TextFault
  | [] => none
  | (_, v) :: rest =>
      if NestingLimits.shown < depth then some .tooDeep
      else (v.textFault? depth).or (entriesFault? depth rest)

end

end

/-- The value of a key. -/
def lookup? (key : Text) (entries : Entries) : Option Value :=
  (entries.find? (·.1 = key)).map (·.2)

/-- The entries with the value of one key changed, or added at the end. -/
def put (key : Text) (v : Value) : Entries → Entries
  | [] => [(key, v)]
  | (k, w) :: rest => if k = key then (k, v) :: rest else (k, w) :: put key v rest

end Value

end LicenseNotices.Document
