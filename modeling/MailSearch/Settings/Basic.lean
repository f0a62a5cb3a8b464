-- The settings of a search, and where they come from. A value given at once wins over the
-- environment, the environment over the file of settings, and the file over the default.
import MailSearch.Fault
import MailSearch.Filter.Basic
import MailSearch.Settings.EnvFile

namespace MailSearch

/-- The settings, by name. -/
inductive Setting where
  | logLevel
  | timeZone
  | dateFormat
deriving DecidableEq

namespace Setting

def name : Setting → String
  | logLevel => "LOG_LEVEL"
  | timeZone => "SEARCH_TIMEZONE"
  | dateFormat => "SEARCH_DATE_FORMAT"

def default : Setting → String
  | logLevel => "INFO"
  | timeZone => "US/Pacific"
  | dateFormat => "%Y/%m/%d"

def all : List Setting := [logLevel, timeZone, dateFormat]

end Setting

/-- The settings in force. The log level may be assigned anything. -/
structure Settings where
  logLevel : Value
  timeZone : String
  dateFormat : String

def Settings.default : Settings :=
  ⟨.text Setting.logLevel.default, Setting.timeZone.default, Setting.dateFormat.default⟩

/-- A change of one setting. -/
inductive SettingChange where
  | logLevel (v : Value)
  | timeZone (name : String)
  | dateFormat (format : String)

namespace Settings

def assign (s : Settings) : SettingChange → Settings
  | .logLevel v => { s with logLevel := v }
  | .timeZone name => { s with timeZone := name }
  | .dateFormat format => { s with dateFormat := format }

/-! ## Sources -/

/-- The value of the last entry of a name in any case. Only plain letters have cases here. -/
def lastOf (entries : List (String × Option String)) (name : String) : Option String :=
  (entries.reverse.find? fun entry => entry.1.toLower = name.toLower).bind (·.2)

/-- The entries of a file of settings. -/
def entriesOfFile (file : Option String) : List (String × Option String) :=
  match file with
  | none => []
  | some text => (EnvFile.settled (EnvFile.bindings text)).map fun b => (b.name, b.value)

/-- The value that is given at once for a name: the first one under the name in any case. -/
def valueGiven? (given : Fields) (name : String) : Option Value :=
  (given.find? fun field => field.1.toLower = name.toLower).map (·.2)

/-- The text of one setting. A value given at once has to be a text. -/
def textOf (given : Fields) (environment : List (String × Option String))
    (file : List (String × Option String)) (s : Setting) : Checked String :=
  match valueGiven? given s.name with
  | some (.text value) => .ok value
  | some _ => Checked.under [s.name] (Checked.fault .notText)
  | none => .ok (((lastOf environment s.name).or (lastOf file s.name)).getD s.default)

/-- The settings from all sources. Names that are given and not known do not count. -/
def load (given : Fields) (environment : List (String × String)) (file : Option String) :
    Checked Settings :=
  let text := textOf given (environment.map fun entry => (entry.1, some entry.2))
    (entriesOfFile file)
  Checked.both (fun level (rest : String × String) => ⟨.text level, rest.1, rest.2⟩)
    (text .logLevel) (Checked.both Prod.mk (text .timeZone) (text .dateFormat))

end Settings

end MailSearch
