-- Filter trees, and the raw values that stand around and inside them. A literal array or object
-- keeps its members raw, a raw value may hold a finished node, and a node of an unknown kind may
-- hold anything in its fields, so the types are defined together.
import MailSearch.Filter.Kind
import MailSearch.Numeral

namespace MailSearch

/-! ## The types -/

mutual

/-- A raw value: plain data, or a finished node among plain data. -/
inductive Value where
  | null
  | bool (b : Bool)
  | int (n : Int)
  | float (x : Binary64)
  | text (s : String)
  | list (items : List Value)
  /-- Fields in order. Of two fields with one name the first one counts. -/
  | record (fields : List (String × Value))
  /-- A name with its value, as one member of a list. -/
  | pair (name : String) (value : Value)
  | node (filter : Filter)
  | foreign (node : Foreign)

/-- A filter tree. Operators are plain symbols, so that a tree can hold one that no search
knows. -/
inductive Filter where
  | string (value : String)
  | field (name : String)
  | phrase (text : String)
  | unary (operator : String) (operand : Filter)
  | binary (operator : String) (left right : Filter)
  | number (value : Number)
  | boolean (value : Bool)
  | null
  | regExp (pattern flags : String)
  | moment (value : String)
  | duration (value : String)
  | array (elements : List Value)
  | object (properties : List Value)
  | infinity (negative : Bool)
  | nan

/-- A node of a kind that is none of the fifteen. The kind has a name, and a serial number that
tells it from other kinds of that name. The node has its fields in order, and one of them may be a
type, as with the nodes of a known kind. -/
structure Foreign where
  name : String
  serial : Nat
  fields : List (String × Value)

end

/-- The fields of a record, in order. -/
abbrev Fields := List (String × Value)

/-- What stands where a filter is expected: a filter, or a node of an unknown kind. -/
inductive Node where
  | known (filter : Filter)
  | foreign (node : Foreign)

/-! ## Small questions -/

def Filter.kind : Filter → Kind
  | .string _ => .string
  | .field _ => .field
  | .phrase _ => .phrase
  | .unary _ _ => .unary
  | .binary _ _ _ => .binary
  | .number _ => .number
  | .boolean _ => .boolean
  | .null => .null
  | .regExp _ _ => .regExp
  | .moment _ => .moment
  | .duration _ => .duration
  | .array _ => .array
  | .object _ => .object
  | .infinity _ => .infinity
  | .nan => .nan

/-- How many nodes a tree has. -/
def Filter.size : Filter → Nat
  | .unary _ operand => operand.size + 1
  | .binary _ left right => left.size + right.size + 1
  | _ => 1

theorem Filter.size_pos (f : Filter) : 0 < f.size := by cases f <;> simp [size]

mutual

/-- How many values a raw value has in it, itself included. A finished node counts as one. -/
def Value.size : Value → Nat
  | .list items => sizeOfItems items + 1
  | .record fields => sizeOfFields fields + 1
  | .pair _ v => v.size + 1
  | _ => 1

def sizeOfItems : List Value → Nat
  | [] => 0
  | v :: rest => v.size + sizeOfItems rest

def sizeOfFields : Fields → Nat
  | [] => 0
  | (_, v) :: rest => v.size + sizeOfFields rest

end

theorem Value.size_pos (v : Value) : 0 < v.size := by cases v <;> simp [size]

def Number.toValue : Number → Value
  | .int n => .int n
  | .float x => .float x

def Node.toValue : Node → Value
  | .known f => .node f
  | .foreign n => .foreign n

/-- The name that messages give to the type of a value. -/
def Value.typeName : Value → String
  | .null => "NoneType"
  | .bool _ => "bool"
  | .int _ => "int"
  | .float _ => "float"
  | .text _ => "str"
  | .list _ => "list"
  | .record _ => "dict"
  | .pair _ _ => "tuple"
  | .node f => f.kind.name
  | .foreign n => n.name

/-- Is a value something rather than nothing? Null, false, zero and everything empty are
nothing. -/
def Value.isTruthy : Value → Bool
  | .null => false
  | .bool b => b
  | .int n => decide (n ≠ 0)
  | .float x => !x.isZero
  | .text s => !s.isEmpty
  | .list items => !items.isEmpty
  | .record fields => !fields.isEmpty
  | .pair _ _ | .node _ | .foreign _ => true

/-! ## Serial numbers -/

/-- Gives a serial number to every literal that is not a number and has none yet, from `next` on,
and tells the number after the last one. Two literals that were read from text at different times
are then different. -/
def Filter.numbered (next : Nat) : Filter → Filter × Nat
  | .unary op operand =>
    match operand.numbered next with
    | (operand, next) => (.unary op operand, next)
  | .binary op left right =>
    match left.numbered next with
    | (left, next) =>
      match right.numbered next with
      | (right, next) => (.binary op left right, next)
  | .number (.float x) =>
    if x = .unnumbered then (.number (.float (.notANumber next)), next + 1)
    else (.number (.float x), next)
  | f => (f, next)

def Node.numbered (next : Nat) : Node → Node × Nat
  | .known f =>
    match f.numbered next with
    | (f, next) => (.known f, next)
  | .foreign n => (.foreign n, next)

/-! ## Fields -/

namespace Fields

/-- The value of the first field of a name. -/
def get? : Fields → String → Option Value
  | [], _ => none
  | (key, v) :: rest, name => if key = name then some v else get? rest name

/-- Puts a value in the place of the first field of a name, and at the end if there is none. -/
def set : Fields → String → Value → Fields
  | [], name, w => [(name, w)]
  | (key, v) :: rest, name, w =>
    if key = name then (key, w) :: rest else (key, v) :: set rest name w

theorem get?_set (fs : Fields) (name other : String) (w : Value) :
    get? (set fs name w) other = if other = name then some w else get? fs other := by
  induction fs with
  | nil => grind [get?, set]
  | cons head rest ih => obtain ⟨key, v⟩ := head; grind [get?, set]

theorem size_get? {fs : Fields} {name : String} {v : Value} (h : get? fs name = some v) :
    v.size ≤ sizeOfFields fs := by
  induction fs with
  | nil => simp [get?] at h
  | cons head rest ih =>
    obtain ⟨key, w⟩ := head
    simp only [get?] at h
    split at h
    · cases h; simp [sizeOfFields]
    · have := ih h; simp [sizeOfFields]; omega

/-- Two fields of different names are together no larger than the whole record. -/
theorem size_get?_add {fs : Fields} {a b : String} {v w : Value} (hab : a ≠ b)
    (ha : get? fs a = some v) (hb : get? fs b = some w) : v.size + w.size ≤ sizeOfFields fs := by
  induction fs with
  | nil => simp [get?] at ha
  | cons head rest ih =>
    obtain ⟨key, u⟩ := head
    simp only [get?] at ha hb
    by_cases h1 : key = a
    · rw [if_pos h1] at ha
      rw [if_neg (fun h => hab (h1.symm.trans h))] at hb
      have := size_get? hb
      cases ha; simp [sizeOfFields]; omega
    · rw [if_neg h1] at ha
      by_cases h2 : key = b
      · rw [if_pos h2] at hb
        have := size_get? ha
        cases hb; simp [sizeOfFields]; omega
      · rw [if_neg h2] at hb
        have := ih ha hb
        simp [sizeOfFields]; omega

end Fields

/-! ## Plain forms -/

mutual

/-- A raw value with every node in it written as a record. -/
def Value.plain : Value → Value
  | .list items => .list (plainItems items)
  | .record fields => .record (plainFields fields)
  | .pair name v => .pair name v.plain
  | .node f => f.toRecord
  | .foreign n => n.toRecord
  | v => v

def plainItems : List Value → List Value
  | [] => []
  | v :: rest => v.plain :: plainItems rest

def plainFields : Fields → Fields
  | [] => []
  | (key, v) :: rest => (key, v.plain) :: plainFields rest

/-- The record of a filter, with the records of its children inside. It has all fields, also
those that hold what a missing field would mean. -/
def Filter.toRecord : Filter → Value
  | .string v => .record [("type", .text "StringLiteral"), ("value", .text v)]
  | .field n => .record [("type", .text "FieldReference"), ("name", .text n)]
  | .phrase t => .record [("type", .text "FulltextTerm"), ("text", .text t)]
  | .unary op x =>
    .record [("type", .text "UnaryExpr"), ("operator", .text op), ("operand", x.toRecord)]
  | .binary op l r =>
    .record [("type", .text "BinaryExpr"), ("operator", .text op), ("left", l.toRecord),
      ("right", r.toRecord)]
  | .number v => .record [("type", .text "NumericLiteral"), ("value", v.toValue)]
  | .boolean b => .record [("type", .text "BooleanLiteral"), ("value", .bool b)]
  | .null => .record [("type", .text "NullLiteral")]
  | .regExp p f =>
    .record [("type", .text "RegExpLiteral"), ("pattern", .text p), ("flags", .text f)]
  | .moment v => .record [("type", .text "MomentLiteral"), ("value", .text v)]
  | .duration v => .record [("type", .text "DurationLiteral"), ("value", .text v)]
  | .array vs => .record [("type", .text "ArrayLiteral"), ("elements", .list (plainItems vs))]
  | .object vs =>
    .record [("type", .text "ObjectLiteral"), ("properties", .list (plainItems vs))]
  | .infinity b => .record [("type", .text "InfinityLiteral"), ("negative", .bool b)]
  | .nan => .record [("type", .text "NaNLiteral")]

def Foreign.toRecord : Foreign → Value
  | ⟨_, _, fields⟩ => .record (plainFields fields)

end

/-- The fields of a filter as pairs, with its children as nodes. -/
def Filter.pairs : Filter → List Value
  | .string v => [.pair "type" (.text "StringLiteral"), .pair "value" (.text v)]
  | .field n => [.pair "type" (.text "FieldReference"), .pair "name" (.text n)]
  | .phrase t => [.pair "type" (.text "FulltextTerm"), .pair "text" (.text t)]
  | .unary op x =>
    [.pair "type" (.text "UnaryExpr"), .pair "operator" (.text op), .pair "operand" (.node x)]
  | .binary op l r =>
    [.pair "type" (.text "BinaryExpr"), .pair "operator" (.text op), .pair "left" (.node l),
      .pair "right" (.node r)]
  | .number v => [.pair "type" (.text "NumericLiteral"), .pair "value" v.toValue]
  | .boolean b => [.pair "type" (.text "BooleanLiteral"), .pair "value" (.bool b)]
  | .null => [.pair "type" (.text "NullLiteral")]
  | .regExp p f =>
    [.pair "type" (.text "RegExpLiteral"), .pair "pattern" (.text p), .pair "flags" (.text f)]
  | .moment v => [.pair "type" (.text "MomentLiteral"), .pair "value" (.text v)]
  | .duration v => [.pair "type" (.text "DurationLiteral"), .pair "value" (.text v)]
  | .array vs => [.pair "type" (.text "ArrayLiteral"), .pair "elements" (.list vs)]
  | .object vs => [.pair "type" (.text "ObjectLiteral"), .pair "properties" (.list vs)]
  | .infinity b => [.pair "type" (.text "InfinityLiteral"), .pair "negative" (.bool b)]
  | .nan => [.pair "type" (.text "NaNLiteral")]

/-- The fields of a node of an unknown kind as pairs. -/
def Foreign.pairs (n : Foreign) : List Value := n.fields.map fun field => .pair field.1 field.2

end MailSearch
