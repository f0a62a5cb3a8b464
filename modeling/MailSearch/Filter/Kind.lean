-- The fifteen kinds of filter node, with their names and the names of their fields. A name
-- belongs to one kind only, so the kind can be read back from it.

namespace MailSearch

/-- The kinds of filter node. Three are terms of a search, two are expressions, and ten are
literals that a search cannot hold. -/
inductive Kind where
  | string
  | field
  | phrase
  | unary
  | binary
  | number
  | boolean
  | null
  | regExp
  | moment
  | duration
  | array
  | object
  | infinity
  | nan
deriving DecidableEq

namespace Kind

def name : Kind → String
  | string => "StringLiteral"
  | field => "FieldReference"
  | phrase => "FulltextTerm"
  | unary => "UnaryExpr"
  | binary => "BinaryExpr"
  | number => "NumericLiteral"
  | boolean => "BooleanLiteral"
  | null => "NullLiteral"
  | regExp => "RegExpLiteral"
  | moment => "MomentLiteral"
  | duration => "DurationLiteral"
  | array => "ArrayLiteral"
  | object => "ObjectLiteral"
  | infinity => "InfinityLiteral"
  | nan => "NaNLiteral"

def all : List Kind :=
  [string, field, phrase, unary, binary, number, boolean, null, regExp, moment, duration, array,
    object, infinity, nan]

def ofName? (s : String) : Option Kind := all.find? (·.name = s)

/-- The names of the fields of a kind, in the order of a written node. Every node starts with
its type. -/
def fieldNames : Kind → List String
  | string | moment | duration | number | boolean => ["type", "value"]
  | field => ["type", "name"]
  | phrase => ["type", "text"]
  | unary => ["type", "operator", "operand"]
  | binary => ["type", "operator", "left", "right"]
  | null | nan => ["type"]
  | regExp => ["type", "pattern", "flags"]
  | array => ["type", "elements"]
  | object => ["type", "properties"]
  | infinity => ["type", "negative"]

/-- The fields of an expression that hold filters, in the order of a walk. -/
def childNames : Kind → List String
  | unary => ["operand"]
  | binary => ["left", "right"]
  | _ => []

theorem mem_all (k : Kind) : k ∈ all := by cases k <;> simp [all]

theorem name_inj {a b : Kind} (h : a.name = b.name) : a = b := by
  revert h; cases a <;> cases b <;> decide

@[simp]
theorem ofName?_name (k : Kind) : ofName? k.name = some k := by cases k <;> rfl

theorem name_of_ofName? {s : String} {k : Kind} (h : ofName? s = some k) : k.name = s := by
  simpa using List.find?_some h

end Kind

end MailSearch
