-- The wording of every failure.
import MailSearch.Filter.Building
import MailSearch.Report
import MailSearch.Search.Builder

namespace MailSearch

/-- A value of a type lacks an operation. -/
def lacks (typeName operation : String) : String :=
  "'" ++ typeName ++ "' object has no attribute '" ++ operation ++ "'"

/-- A fault of a record has no wording. It is told by its faults alone. -/
def BuildingFault.message : BuildingFault → String
  | .invalid _ _ => ""
  | .noOperation typeName operation => lacks typeName operation
  | .notAKind typeName => "__class__ must be set to a class, not '" ++ typeName ++ "' object"
  | .notFields typeName => "__dict__ must be set to a dictionary, not a '" ++ typeName ++ "'"

/-- A logger that was never opened has no wording. -/
def LogFault.message : LogFault → String
  | .levelNoText typeName => lacks typeName "upper"
  | .noLogger => ""
  | .tooDeep => "maximum recursion depth exceeded while getting the repr of an object"

/-- A type that keeps a value from being a key. -/
def notAKeyMessage (typeName : String) : String := "unhashable type: '" ++ typeName ++ "'"

def ReadFault.message : ReadFault → String
  | .invalid _ _ => ""
  | .typeNotAKey typeName => notAKeyMessage typeName
  | .nothingBuilt => "pop from empty list"

def ExpressFault.message : ExpressFault → String
  | .refused refusal => refusal.report.text
  | .unknownNode name => "Unknown filter node " ++ name
  | .unfinished => ""
  | .noFragment => "pop from empty list"

def CompileFault.message : CompileFault → String
  | .notAFilter typeName => "filter must be a filter node or dict, got " ++ typeName
  | .unreadable fault => fault.message
  | .inexpressible fault => fault.message

/-- A value to which a day cannot be added. Texts, lists and pairs would be joined, all others
have no sum with a day. -/
def noDayAfterMessage (v : Value) : String :=
  let joins :=
    match v with
    | .text _ | .list _ | .pair _ _ => true
    | _ => false
  if joins then
    "can only concatenate " ++ v.typeName ++ " (not \"datetime.timedelta\") to " ++ v.typeName
  else "unsupported operand type(s) for +: '" ++ v.typeName ++ "' and 'datetime.timedelta'"

def BoundFault.message : BoundFault → String
  | .outOfCalendar => "date value out of range"
  | .notADay typeName => lacks typeName "strftime"
  | .noDayAfter v => noDayAfterMessage v

def BuildFault.message : BuildFault → String
  | .wordsNoText typeName => lacks typeName "strip"
  | .filter fault => fault.message
  | .bound fault => fault.message
  | .partNoText place typeName =>
    "sequence item " ++ toString place ++ ": expected str instance, " ++ typeName ++ " found"
  | .log fault => fault.message

/-- The report about a zone that nobody knows. -/
def unknownZoneReport (name : String) : Report :=
  ⟨.invalidSetting, .text "Unknown time zone",
    [("config_key", .text Setting.timeZone.name), ("value", .text name)]⟩

def MakingFault.message : MakingFault → String
  | .unknownZone name => (unknownZoneReport name).text
  | .log fault => fault.message

/-- Arguments that make no report of a family. The report itself counts as one of those without a
name. -/
def ArgumentFault.message (family : Family) (fault : ArgumentFault) : String :=
  family.maker.name ++ ".__init__() " ++
    match fault with
    | .repeated name => "got multiple values for argument '" ++ name ++ "'"
    | .unexpected name => "got an unexpected keyword argument '" ++ name ++ "'"
    | .tooMany count =>
      "takes " ++ (if family.maker = .any then "from 1 to 2" else "2") ++
        " positional arguments but " ++ toString (count + 1) ++ " were given"
    | .missing name => "missing 1 required positional argument: '" ++ name ++ "'"

/-- A value that is the code of no kind of refusal. -/
def notACodeMessage (v : Value) : String := v.written ++ " is not a valid ErrorKind"

end MailSearch
