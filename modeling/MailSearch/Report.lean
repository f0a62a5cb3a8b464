-- Error reports. A report has a message and named details, and belongs to a family of reports; a
-- compile report says which part of a filter the search cannot express.
import MailSearch.Expression.Basic
import MailSearch.Filter.Written

namespace MailSearch

/-! ## Kinds of refusal -/

/-- What a compile report is about. -/
inductive RefusalKind where
  | operator
  | header
  | literal
deriving DecidableEq

namespace RefusalKind

def code : RefusalKind → String
  | operator => "UNSUPPORTED_OPERATOR"
  | header => "UNSUPPORTED_HEADER"
  | literal => "UNSUPPORTED_LITERAL"

def all : List RefusalKind := [operator, header, literal]

/-- The kind with a code. Only a text can be a code. -/
def ofCode? : Value → Option RefusalKind
  | .text s => all.find? (·.code = s)
  | _ => none

/-- The name of the detail that holds the part at fault. -/
def tokenName : RefusalKind → String
  | operator => "operator"
  | header => "header"
  | literal => "node_kind"

theorem code_inj {a b : RefusalKind} (h : a.code = b.code) : a = b := by
  revert h; cases a <;> cases b <;> decide

@[simp]
theorem ofCode?_code (k : RefusalKind) : ofCode? (.text k.code) = some k := by cases k <;> rfl

end RefusalKind

def Refusal.kind : Refusal → RefusalKind
  | .operator _ => .operator
  | .header _ => .header
  | .literal _ => .literal

/-- The part of the filter that is at fault. -/
def Refusal.token : Refusal → String
  | .operator symbol => symbol
  | .header name => name
  | .literal kind => kind.name

/-! ## Reports -/

/-- The families of reports. -/
inductive Family where
  | any
  | compile
  | refusal (kind : RefusalKind)
  | configuration
  | invalidSetting
deriving DecidableEq

namespace Family

def name : Family → String
  | any => "GmailQueryError"
  | compile => "CompileError"
  | refusal .operator => "UnsupportedOperatorError"
  | refusal .header => "UnsupportedHeaderError"
  | refusal .literal => "UnsupportedLiteralError"
  | configuration => "ConfigurationError"
  | invalidSetting => "InvalidConfigError"

def all : List Family :=
  [any, compile, refusal .operator, refusal .header, refusal .literal, configuration,
    invalidSetting]

def ofName? (s : String) : Option Family := all.find? (·.name = s)

/-- The family that says how the reports of a family are made. A refusal is made from a part of a
filter, every other report from a message. -/
def maker : Family → Family
  | refusal k => refusal k
  | _ => any

/-- The name of the argument from which a report is made. -/
def leadName : Family → String
  | refusal k => k.tokenName
  | _ => "message"

/-- A family with the wider families that it is part of, the narrowest first. -/
def lineage : Family → List Family
  | any => [any]
  | compile => [compile, any]
  | refusal k => [refusal k, compile, any]
  | configuration => [configuration, any]
  | invalidSetting => [invalidSetting, configuration, any]

end Family

/-- The code that all compile reports share. -/
def compileCode : String := "FILTER-FEATURE-NOT-SUPPORTED"

/-- A report: its family, its message and its details in order. -/
structure Report where
  family : Family
  message : Value
  details : Fields

namespace Report

/-- A report about one part of a filter. It has no message, only the part as a detail. -/
def aboutToken (kind : RefusalKind) (token : Value) : Report :=
  ⟨.refusal kind, .text "", [(kind.tokenName, token)]⟩

/-- The details as they stand in the text of a report. -/
def writtenDetails (r : Report) : String :=
  ", ".intercalate (r.details.map fun detail => detail.1 ++ "=" ++ detail.2.written)

/-- The text of a report: the message, the details, or the message with the details behind it. -/
def text (r : Report) : String :=
  if r.details.isEmpty then r.message.shown
  else if r.message.isTruthy then r.message.shown ++ " (" ++ r.writtenDetails ++ ")"
  else r.writtenDetails

/-- The report with all its parts named. -/
def written (r : Report) : String :=
  r.family.name ++ "(message=" ++ r.message.written ++ ", details="
    ++ (Value.record r.details).written ++ ")"

/-- The kind of a compile report, if it has one. -/
def kind? (r : Report) : Option RefusalKind :=
  match r.family with
  | .refusal k => some k
  | _ => none

/-- The part of a filter that a report is about. -/
def token (r : Report) : Value :=
  match r.kind?, r.details with
  | some _, (_, v) :: _ => v
  | _, _ => .null

end Report

/-! ## Making reports -/

/-- Why arguments make no report. -/
inductive ArgumentFault where
  /-- An argument is given twice. -/
  | repeated (name : String)
  /-- A refusal has no room for details. -/
  | unexpected (name : String)
  /-- More than one argument is given without a name. -/
  | tooMany (count : Nat)
  | missing (name : String)
deriving DecidableEq

namespace Report

/-- The report to be made is an argument itself, and is there from the start. -/
def selfName : String := "self"

/-- Goes through the arguments that have names: the lead, unless it was given before, and the
details. The first fault ends it. -/
def bind (family : Family) (lead : Option Value) :
    Fields → Except ArgumentFault (Option Value × Fields)
  | [] => .ok (lead, [])
  | (name, v) :: rest =>
    if name = selfName then .error (.repeated name)
    else if name = family.leadName then
      if lead.isSome then .error (.repeated name) else bind family (some v) rest
    else if family.maker ≠ .any then .error (.unexpected name)
    else (bind family lead rest).map fun (lead, details) => (lead, (name, v) :: details)

/-- Makes a report from arguments without names, of which the first one is the lead, and from
arguments with names. A message may be left out, a part of a filter may not. -/
def make (family : Family) (arguments : List Value) (named : Fields) :
    Except ArgumentFault Report :=
  match bind family arguments.head? named with
  | .error fault => .error fault
  | .ok (lead, details) =>
    if 1 < arguments.length then .error (.tooMany arguments.length)
    else
      match family, lead with
      | .refusal kind, some token => .ok (.aboutToken kind token)
      | .refusal kind, none => .error (.missing kind.tokenName)
      | family, lead => .ok ⟨family, lead.getD (.text ""), details⟩

end Report

/-- A refusal as a report. -/
def Refusal.report (r : Refusal) : Report := .aboutToken r.kind (.text r.token)

end MailSearch
