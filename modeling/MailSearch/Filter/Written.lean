-- How values and filters look in messages. A text inside another value stands in quotes, and a
-- text by itself stands as it is.
import MailSearch.Filter.Basic
import MailSearch.Text.Quoted

namespace MailSearch

/-! ## Spellings -/

def writtenBool (b : Bool) : String := if b then "True" else "False"

/-- Puts the parts of a value between two marks, with commas between them. -/
def enclosed (before : String) (parts : List String) (after : String) : String :=
  before ++ ", ".intercalate parts ++ after

def Number.written : Number → String
  | .int n => toString n
  | .float x => x.written

/-! ## Values and filters -/

mutual

/-- A value as it stands inside another one. -/
def Value.written : Value → String
  | .null => "None"
  | .bool b => writtenBool b
  | .int n => toString n
  | .float x => x.written
  | .text s => quoted s
  | .list items => enclosed "[" (writtenItems items) "]"
  | .record fields => enclosed "\x7b" (writtenFields fields) "\x7d"
  | .pair name v => enclosed "(" [quoted name, v.written] ")"
  | .node f => enclosed (f.kind.name ++ "(") f.writtenParts ")"
  | .foreign n => enclosed (n.name ++ "(") n.writtenParts ")"

def writtenItems : List Value → List String
  | [] => []
  | v :: rest => v.written :: writtenItems rest

def writtenFields : Fields → List String
  | [] => []
  | (key, v) :: rest => (quoted key ++ ": " ++ v.written) :: writtenFields rest

/-- The fields of a filter, each with its name. The type comes first. -/
def Filter.writtenParts : Filter → List String
  | .string v => ["type='StringLiteral'", "value=" ++ quoted v]
  | .field n => ["type='FieldReference'", "name=" ++ quoted n]
  | .phrase t => ["type='FulltextTerm'", "text=" ++ quoted t]
  | .unary op x =>
    ["type='UnaryExpr'", "operator=" ++ quoted op,
      "operand=" ++ enclosed (x.kind.name ++ "(") x.writtenParts ")"]
  | .binary op l r =>
    ["type='BinaryExpr'", "operator=" ++ quoted op,
      "left=" ++ enclosed (l.kind.name ++ "(") l.writtenParts ")",
      "right=" ++ enclosed (r.kind.name ++ "(") r.writtenParts ")"]
  | .number v => ["type='NumericLiteral'", "value=" ++ v.written]
  | .boolean b => ["type='BooleanLiteral'", "value=" ++ writtenBool b]
  | .null => ["type='NullLiteral'"]
  | .regExp p f => ["type='RegExpLiteral'", "pattern=" ++ quoted p, "flags=" ++ quoted f]
  | .moment v => ["type='MomentLiteral'", "value=" ++ quoted v]
  | .duration v => ["type='DurationLiteral'", "value=" ++ quoted v]
  | .array vs => ["type='ArrayLiteral'", "elements=" ++ enclosed "[" (writtenItems vs) "]"]
  | .object vs => ["type='ObjectLiteral'", "properties=" ++ enclosed "[" (writtenItems vs) "]"]
  | .infinity b => ["type='InfinityLiteral'", "negative=" ++ writtenBool b]
  | .nan => ["type='NaNLiteral'"]

/-- The fields of a node of an unknown kind, each with its name. -/
def Foreign.writtenParts : Foreign → List String
  | ⟨_, _, fields⟩ => writtenAssignments fields

def writtenAssignments : Fields → List String
  | [] => []
  | (key, v) :: rest => (key ++ "=" ++ v.written) :: writtenAssignments rest

end

/-- A filter as it stands inside another value. -/
def Filter.written (f : Filter) : String := (Value.node f).written

/-- A value by itself: a text as it is, a node as its fields with blanks between them. -/
def Value.shown : Value → String
  | .text s => s
  | .node f => " ".intercalate f.writtenParts
  | .foreign n => " ".intercalate n.writtenParts
  | v => v.written

end MailSearch
