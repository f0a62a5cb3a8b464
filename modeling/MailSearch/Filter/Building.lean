-- Building filters by hand: the three terms, the matches of a header, and the joining of filters.
-- Every part is checked as the fields of a record are.
import MailSearch.Filter.Validation

namespace MailSearch

/-- Why a filter could not be built or changed. -/
inductive BuildingFault where
  | invalid (kind : String) (faults : List Fault)
  /-- The value has no such operation. -/
  | noOperation (typeName operation : String)
  /-- The kind of a node cannot be put in place by a value. -/
  | notAKind (typeName : String)
  /-- The fields of a node as a whole have to be a record. -/
  | notFields (typeName : String)

namespace Filter

/-! ## From fields -/

/-- A filter of a kind from fields. Faults come with the name of the kind. -/
def make (k : Kind) (fs : Fields) : Except BuildingFault Filter :=
  match ofFields k fs with
  | .ok f => .ok f
  | .error faults => .error (.invalid k.name faults)

/-- A header, as one side of a match. -/
def ofHeader (name : Value) : Except BuildingFault Filter := make .field [("name", name)]

/-- A phrase to look for anywhere. -/
def ofPhrase (text : Value) : Except BuildingFault Filter := make .phrase [("text", text)]

/-- A text, as one side of a match or as a plain word. -/
def ofText (value : Value) : Except BuildingFault Filter := make .string [("value", value)]

/-! ## Joining -/

/-- Both must match. -/
def both (a b : Value) : Except BuildingFault Filter :=
  make .binary [("operator", .text "AND"), ("left", a), ("right", b)]

/-- One of the two must match. -/
def either (a b : Value) : Except BuildingFault Filter :=
  make .binary [("operator", .text "OR"), ("left", a), ("right", b)]

/-- What must not match. -/
def negated (a : Value) : Except BuildingFault Filter :=
  make .unary [("operator", .text "NOT"), ("operand", a)]

/-- The name of the header that a value is. Only headers can be matched. -/
def headerOf (operation : String) (a : Value) : Except BuildingFault String :=
  match a with
  | .node (.field name) => .ok name
  | a => .error (.noOperation a.typeName operation)

/-- A match of a header with a text. The text is checked before the match is put together. -/
def headerMatch (symbol operation : String) (a value : Value) : Except BuildingFault Filter := do
  let name ← headerOf operation a
  let text ← ofText value
  make .binary [("operator", .text symbol), ("left", .node (.field name)), ("right", .node text)]

def contains (a value : Value) : Except BuildingFault Filter := headerMatch "=~" "contains" a value

def excludes (a value : Value) : Except BuildingFault Filter := headerMatch "!~" "excludes" a value

/-! ## Changing -/

/-- What a finished node does with a value that is assigned to it: its fields cannot be changed. A
name that begins with a low line is no field, and what is assigned to it lies beside the node and
shows nowhere. Two such names take certain values only. -/
def assignTo (kind field : String) (v : Value) : Except BuildingFault Unit :=
  if field.toList.head? ≠ some '_' then .error (.invalid kind [⟨.frozen, [field]⟩])
  else if field = "__class__" then .error (.notAKind v.typeName)
  else
    match field, v with
    | "__dict__", .record _ => .ok ()
    | "__dict__", v => .error (.notFields v.typeName)
    | _, _ => .ok ()

/-- Assigns a value to a field of a value. Only nodes have fields. -/
def assign (a : Value) (field : String) (v : Value) : Except BuildingFault Unit :=
  match a with
  | .node f => assignTo f.kind.name field v
  | .foreign n => assignTo n.name field v
  | a => .error (.noOperation a.typeName field)

/-- The record of a node. Only nodes have one. -/
def recordOf (a : Value) : Except BuildingFault Value :=
  match a with
  | .node f => .ok f.toRecord
  | .foreign _ => .ok (.record [])
  | a => .error (.noOperation a.typeName "to_dict")

end Filter

end MailSearch
