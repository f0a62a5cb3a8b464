-- Which records are filters. Every kind has rules for its fields; a value that stands for a
-- filter is told apart by its type field, and the children of an expression are checked the same
-- way. All faults of a record are found, the way to each one included.
import MailSearch.Fault
import MailSearch.Filter.Basic

namespace MailSearch

/-! ## Rules for one value -/

namespace Rule

def text : Value → Checked String
  | .text s => .ok s
  | _ => Checked.fault .notText

def nonEmptyText (v : Value) : Checked String :=
  match text v with
  | .ok s => if s.isEmpty then Checked.fault .textTooShort else .ok s
  | .error faults => .error faults

/-- The members of a list. A node counts as the list of its fields. -/
def items : Value → Checked (List Value)
  | .list vs => .ok vs
  | .pair name v => .ok [.text name, v]
  | .node f => .ok f.pairs
  | .foreign n => .ok n.pairs
  | _ => Checked.fault .notAList

def trueWords : List String := ["1", "t", "true", "y", "yes", "on"]

def falseWords : List String := ["0", "f", "false", "n", "no", "off"]

/-- A number stands for a truth value if it is zero or one. Another whole number is refused as
unreadable, and one outside the range of sixty-four bits as of the wrong type. -/
def truthOfInt (n : Int) : Checked Bool :=
  if n = 0 then .ok false
  else if n = 1 then .ok true
  else if -Int.pow 2 63 ≤ n ∧ n < Int.pow 2 63 then Checked.fault .unreadableTruthValue
  else Checked.fault .notATruthValue

/-- A binary number is judged by the whole number that it is. The least number of sixty-four bits
is out of range here. -/
def truthOfFloat (x : Binary64) : Checked Bool :=
  match x.integer? with
  | some n => if n = -Int.pow 2 63 then Checked.fault .notATruthValue else truthOfInt n
  | none => Checked.fault .notATruthValue

/-- A truth value may also be a number or one of twelve words in any case. -/
def truth : Value → Checked Bool
  | .bool b => .ok b
  | .int n => truthOfInt n
  | .float x => truthOfFloat x
  | .text s =>
    if trueWords.contains s.toLower then .ok true
    else if falseWords.contains s.toLower then .ok false
    else Checked.fault .unreadableTruthValue
  | _ => Checked.fault .notATruthValue

/-- The two faults of a value that is read neither as a whole nor as a binary number. -/
def numberFaults (int float : FaultKind) : Checked Number :=
  .error [⟨int, ["int"]⟩, ⟨float, ["float"]⟩]

def number : Value → Checked Number
  | .bool b => .ok (.int (if b then 1 else 0))
  | .int n => .ok (.int n)
  | .float x => .ok (.float x)
  | .text s =>
    match Numeral.read? s with
    | some n => .ok n
    | none => numberFaults .unreadableInt .unreadableFloat
  | _ => numberFaults .notAnInt .notAFloat

end Rule

/-! ## Rules for the fields of a record -/

namespace Fields

/-- The check of a field that has to be there. -/
def required (fs : Fields) (name : String) (rule : Value → Checked α) : Checked α :=
  Checked.under [name] <|
    match get? fs name with
    | some v => rule v
    | none => Checked.fault .missing

/-- The check of a field that may be left out. -/
def optional (fs : Fields) (name : String) (default : α) (rule : Value → Checked α) : Checked α :=
  match get? fs name with
  | some v => Checked.under [name] (rule v)
  | none => .ok default

/-- A type field may be left out, and otherwise holds the name of the kind. -/
def typeIs (fs : Fields) (k : Kind) : Checked Unit :=
  optional fs "type" () fun v =>
    match v with
    | .text s => if s = k.name then .ok () else Checked.fault .wrongType
    | _ => Checked.fault .wrongType

/-- The faults of the fields that a kind does not know, in the order of the record. -/
def extraFaults (fs : Fields) (k : Kind) : List Fault :=
  (fs.filter fun field => !k.fieldNames.contains field.1).map fun field =>
    ⟨.extraField, [field.1]⟩

/-- A record of a kind: its type first, then its own fields, then what it should not have. -/
def ofKind (fs : Fields) (k : Kind) (own : Checked α) : Checked α :=
  Checked.both (fun a _ => a) (Checked.both (fun _ a => a) (typeIs fs k) own)
    (Checked.require (extraFaults fs k))

end Fields

/-! ## Filters -/

/-- A literal or a term from the fields of a record. Expressions are not handled here. -/
def Fields.toLeaf (fs : Fields) : Kind → Checked Filter
  | .string => (fs.required "value" Rule.text).map .string
  | .field => (fs.required "name" Rule.nonEmptyText).map .field
  | .phrase => (fs.required "text" Rule.text).map .phrase
  | .number => (fs.required "value" Rule.number).map .number
  | .boolean => (fs.required "value" Rule.truth).map .boolean
  | .null => .ok .null
  | .regExp =>
    Checked.both .regExp (fs.required "pattern" Rule.text) (fs.optional "flags" "" Rule.text)
  | .moment => (fs.required "value" Rule.text).map .moment
  | .duration => (fs.required "value" Rule.text).map .duration
  | .array => (fs.optional "elements" [] Rule.items).map .array
  | .object => (fs.optional "properties" [] Rule.items).map .object
  | .infinity => (fs.optional "negative" false Rule.truth).map .infinity
  | .nan => .ok .nan
  | .unary | .binary => Checked.fault .unknownTag

/-- A node of an unknown kind is no filter, also if its type is the name of a known kind. -/
def Foreign.validate (n : Foreign) : Checked Filter :=
  match Fields.get? n.fields "type" with
  | none => Checked.fault .noTag
  | some (.text s) =>
    match Kind.ofName? s with
    | some k => Checked.under [k.name] (Checked.fault .notOfKind)
    | none => Checked.fault .unknownTag
  | some _ => Checked.fault .unknownTag

theorem Foreign.validate_ne_ok (n : Foreign) (f : Filter) : n.validate ≠ .ok f := by
  unfold validate
  repeat' split
  all_goals simp [Checked.fault, Checked.under]

mutual

/-- A value that stands for a filter: a finished filter as it is, or a record whose type field
names its kind. The faults inside the record stand under that name. -/
def Filter.validate (v : Value) : Checked Filter :=
  match v with
  | .node f => .ok f
  | .foreign n => n.validate
  | .record fs =>
    match Fields.get? fs "type" with
    | none => Checked.fault .noTag
    | some (.text s) =>
      match Kind.ofName? s with
      | some k => Checked.under [k.name] (Filter.ofFields k fs)
      | none => Checked.fault .unknownTag
    | some _ => Checked.fault .unknownTag
  | _ => Checked.fault .notANode
termination_by 3 * v.size
decreasing_by simp [Value.size]; omega

/-- A filter of a kind from the fields of a record. -/
def Filter.ofFields (k : Kind) (fs : Fields) : Checked Filter :=
  Fields.ofKind fs k <|
    match k with
    | .unary =>
      Checked.both .unary (Fields.required fs "operator" Rule.text) (Filter.child fs "operand")
    | .binary =>
      Checked.both (fun op (children : Filter × Filter) => .binary op children.1 children.2)
        (Fields.required fs "operator" Rule.text)
        (Checked.both Prod.mk (Filter.child fs "left") (Filter.child fs "right"))
    | k => fs.toLeaf k
termination_by 3 * sizeOfFields fs + 2
decreasing_by all_goals omega

/-- A field of a record that holds a filter. -/
def Filter.child (fs : Fields) (name : String) : Checked Filter :=
  Checked.under [name] <|
    match h : Fields.get? fs name with
    | some v =>
      have := Fields.size_get? h
      Filter.validate v
    | none => Checked.fault .missing
termination_by 3 * sizeOfFields fs + 1
decreasing_by omega

end

end MailSearch
