-- Search strings. A builder has a compiler, a time zone and a date format from its making on. It
-- puts together the plain words, the compiled filter and the two ends of a time range, and logs what
-- it does as it goes.
import MailSearch.Calendar.DateFormat
import MailSearch.Compiler
import MailSearch.Log.Operation
import MailSearch.Search.Bound
import MailSearch.Search.Part

namespace MailSearch

/-- A builder of search strings. Later changes of the settings do not reach it. -/
structure Builder where
  compiler : CompilerOf Part
  zone : NamedZone
  dateFormat : String

/-- Why a builder could not be made. -/
inductive MakingFault where
  | unknownZone (name : String)
  | log (fault : LogFault)

/-- Why a search string could not be built. -/
inductive BuildFault where
  /-- The plain words are nothing that can be trimmed. -/
  | wordsNoText (typeName : String)
  | filter (fault : CompileFault)
  | bound (fault : BoundFault)
  /-- A part that is to be joined is no text. -/
  | partNoText (place : Nat) (typeName : String)
  | log (fault : LogFault)

/-- What a search is about: plain words, a filter or null, and the ends of a time range. -/
structure Request where
  words : Part
  filter : Value
  start : Option Bound
  stop : Option Bound

namespace Builder

/-! ## The parts of a search string -/

/-- The plain words without blanks at their ends. What is nothing is left out. -/
def wordsPart (words : Part) : Except BuildFault (List Part) :=
  if words.isTruthy then
    match words.trimmed with
    | .ok trimmed => .ok [trimmed]
    | .error typeName => .error (.wordsNoText typeName)
  else .ok []

/-- An end of the range: its day behind a label. -/
def endPart (b : Builder) (label : String) (dayOf : Bound → Except BoundFault Date) :
    Option Bound → Except BuildFault (List Part)
  | none => .ok []
  | some bound =>
    match dayOf bound with
    | .ok day => .ok [.text (label ++ day.format b.dateFormat)]
    | .error fault => .error (.bound fault)

/-- The start of the range: the first day that counts. -/
def startPart (b : Builder) : Option Bound → Except BuildFault (List Part) :=
  b.endPart "after:" (·.firstDay b.zone)

/-- The end of the range: the first day that does not count any more. -/
def stopPart (b : Builder) : Option Bound → Except BuildFault (List Part) :=
  b.endPart "before:" (·.pastDay b.zone)

/-- The parts as one search string. -/
def joinParts (parts : List Part) : Except BuildFault String :=
  match Part.joinAll parts with
  | .ok search => .ok search
  | .error (place, typeName) => .error (.partNoText place typeName)

/-! ## A build -/

/-- The logger of all builders. -/
def logger : Logger := ⟨"SearchQueryBuilder"⟩

/-- Logs for the eyes of a developer what a build has come to. -/
def trace (template : String) (v : Value) : Work BuildFault Unit :=
  (Session.debug logger template [v]).mapFault .log

/-- The filter of a search, compiled. Null is no filter. -/
def filterPart (b : Builder) : Value → Work BuildFault (List Part)
  | .null => return []
  | v => do
    trace "Filter ast: %s" v
    match b.compiler.compile v with
    | .error fault => Work.fail (.filter fault)
    | .ok expression =>
      trace "Filter expression: %s" expression.toValue
      return [expression]

/-- Builds a search string: words, filter, start and end in this order. The first failure ends
the build. -/
def build (b : Builder) (request : Request) : Work BuildFault String := do
  let words ← Work.ofExcept (wordsPart request.words)
  let filter ← b.filterPart request.filter
  let start ← Work.ofExcept (b.startPart request.start)
  let stop ← Work.ofExcept (b.stopPart request.stop)
  let search ← Work.ofExcept (joinParts (words ++ filter ++ start ++ stop))
  trace "Search string: %s" (.text search)
  return search

/-! ## Making a builder -/

/-- A text that was given, or else the one of the settings. -/
def givenOr (given : Option String) (fallback : String) : String :=
  match given with
  | some text => if text.isEmpty then fallback else text
  | none => fallback

/-- The template of the announcement. -/
def announcement : String := "SearchQueryBuilder initialized: compiler=%s zone=%s date_format=%s"

/-- Announces a builder: opens its logger, and logs what the builder has. -/
def announce (b : Builder) (zoneName : String) : Work LogFault Unit := do
  let logger ← Session.openLogger (some logger.name)
  Session.message logger announcement
    [.text b.compiler.name, .text zoneName, .text b.dateFormat]

/-- Makes a builder with some list of zones, and announces it. What is not given comes from the
settings in force. The zone is looked up before logging is set up. -/
def make (zones : String → Option NamedZone) (compiler : CompilerOf Part)
    (zone dateFormat : Option String) : Work MakingFault Builder := do
  let s ← Work.session
  let zoneName := givenOr zone s.settings.timeZone
  match zones zoneName with
  | none => Work.fail (.unknownZone zoneName)
  | some found =>
    let b : Builder := ⟨compiler, found, givenOr dateFormat s.settings.dateFormat⟩
    (b.announce zoneName).mapFault .log
    return b

/-! ## The life of a builder -/

/-- What may happen after a builder is made: the settings change, or a search is built. -/
inductive Event where
  | assign (change : SettingChange)
  | build (request : Request)

/-- Lets one thing happen. A build gives its search string. -/
def handle (b : Builder) : Event → Work BuildFault (Option String)
  | .assign change => do
    Work.change fun s => s.assign change
    return none
  | .build request => do return some (← b.build request)

/-- Lets things happen in order, each in the session that the one before left. -/
def handleAll (b : Builder) (s : Session) (events : List Event) :
    List (Run BuildFault (Option String)) :=
  s.doAll (events.map b.handle)

end Builder

end MailSearch
