-- Levels of log records. A level is set by its name; whatever names none of the five means the
-- level of plain information.
import MailSearch.Filter.Basic
import MailSearch.Text.Capital

namespace MailSearch

inductive Level where
  | debug
  | info
  | warning
  | error
  | critical
deriving DecidableEq

namespace Level

def name : Level → String
  | debug => "DEBUG"
  | info => "INFO"
  | warning => "WARNING"
  | error => "ERROR"
  | critical => "CRITICAL"

/-- The weight of a level. -/
def number : Level → Nat
  | debug => 10
  | info => 20
  | warning => 30
  | error => 40
  | critical => 50

def all : List Level := [debug, info, warning, error, critical]

/-- The level of a name in any case. -/
def ofName (s : String) : Level :=
  let capitals := String.ofList (s.toList.map capital)
  (all.find? (·.name = capitals)).getD info

/-- The level that a setting stands for. Nothing at all stands for plain information; what is
something, but no text, has no level, and its type is named instead. -/
def ofSetting (v : Value) : Except String Level :=
  match v with
  | .text s => .ok (ofName s)
  | v => if v.isTruthy then .error v.typeName else .ok info

end Level

end MailSearch
