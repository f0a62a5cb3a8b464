-- The operations of logging. The threshold is set once, by an explicit set-up or by the first
-- logger, and stays. A record gets through if its level is not below the threshold. Progress
-- messages are logged at the level that the settings name at the time.
import MailSearch.Log.Session
import MailSearch.Log.Template

namespace MailSearch

/-- Why an operation of logging fails. -/
inductive LogFault where
  /-- The level is no text. -/
  | levelNoText (typeName : String)
  /-- There is no logger of that number. -/
  | noLogger
  /-- There was no room for a message. -/
  | tooDeep
deriving DecidableEq

namespace Session

/-! ## Levels -/

/-- The level that a value stands for. -/
def resolve (v : Value) : Except LogFault Level :=
  match Level.ofSetting v with
  | .ok level => .ok level
  | .error typeName => .error (.levelNoText typeName)

/-- Sets the threshold, unless that was done before. -/
def setUp (v : Value) : Work LogFault Unit := do
  let s ← Work.session
  if s.configured then return ()
  else
    let level ← Work.ofExcept (resolve v)
    Work.change fun s => { s with configured := true, threshold := level }

theorem setUp_run (v : Value) (s : Session) :
    setUp v s =
      if s.configured then ⟨.ok (), [], s⟩
      else
        match resolve v with
        | .ok level => ⟨.ok (), [], { s with configured := true, threshold := level }⟩
        | .error fault => ⟨.error fault, [], s⟩ := by
  unfold setUp
  simp only [Work.bind_run, Work.session_run]
  split
  · rfl
  · simp only [Work.bind_run, Work.ofExcept_run]
    rcases resolve v with fault | level <;> rfl

/-- Changes the settings. -/
def assign (s : Session) (change : SettingChange) : Session :=
  { s with settings := s.settings.assign change }

/-! ## Loggers -/

/-- The name of a logger without a name of its own. -/
def unnamedLogger : String := "gmailquery.logger"

/-- The logger of a name. Without a name, or with an empty one, it has the usual name. -/
def loggerOf (name : Option String) : Logger :=
  ⟨match name with
    | some n => if n.isEmpty then unnamedLogger else n
    | none => unnamedLogger⟩

/-- Opens a logger. The first one sets logging up from the settings. -/
def openLogger (name : Option String) : Work LogFault Logger := do
  let s ← Work.session
  setUp s.settings.logLevel
  Work.change fun s => { s with loggers := s.loggers ++ [loggerOf name] }
  return loggerOf name

theorem openLogger_run (name : Option String) (s : Session) :
    openLogger name s =
      match setUp s.settings.logLevel s with
      | ⟨.ok _, logged, t⟩ =>
        ⟨.ok (loggerOf name), logged, { t with loggers := t.loggers ++ [loggerOf name] }⟩
      | ⟨.error fault, logged, t⟩ => ⟨.error fault, logged, t⟩ := by
  unfold openLogger
  simp only [Work.bind_run, Work.session_run]
  rcases setUp s.settings.logLevel s with ⟨fault | _, logged, t⟩
  · rfl
  · simp

/-! ## Records -/

/-- Logs a message, if it gets through. One that there is no room for ends the work. -/
def emit (logger : Logger) (level : Level) (template : String) (arguments : List Value) :
    Work LogFault Unit := do
  let s ← Work.session
  if s.threshold.number ≤ level.number then
    match Template.render s.room template arguments with
    | .ok text => Work.log ⟨level, logger.name, some text⟩
    | .error .misfit => Work.log ⟨level, logger.name, none⟩
    | .error .tooDeep => Work.fail .tooDeep
  else return ()

theorem emit_run (logger : Logger) (level : Level) (template : String) (arguments : List Value)
    (s : Session) :
    emit logger level template arguments s =
      if s.threshold.number ≤ level.number then
        match Template.render s.room template arguments with
        | .ok text => ⟨.ok (), [⟨level, logger.name, some text⟩], s⟩
        | .error .misfit => ⟨.ok (), [⟨level, logger.name, none⟩], s⟩
        | .error .tooDeep => ⟨.error .tooDeep, [], s⟩
      else ⟨.ok (), [], s⟩ := by
  unfold emit
  simp only [Work.bind_run, Work.session_run]
  split
  · rcases Template.render s.room template arguments with (_ | _) | text <;> rfl
  · rfl

/-- Logs for the eyes of a developer. -/
def debug (logger : Logger) (template : String) (arguments : List Value) : Work LogFault Unit :=
  emit logger .debug template arguments

/-- Logs progress, at the level that the settings name. -/
def message (logger : Logger) (template : String) (arguments : List Value) :
    Work LogFault Unit := do
  let s ← Work.session
  let level ← Work.ofExcept (resolve s.settings.logLevel)
  emit logger level template arguments

theorem message_run (logger : Logger) (template : String) (arguments : List Value) (s : Session) :
    message logger template arguments s =
      match resolve s.settings.logLevel with
      | .ok level => emit logger level template arguments s
      | .error fault => ⟨.error fault, [], s⟩ := by
  unfold message
  simp only [Work.bind_run, Work.session_run, Work.ofExcept_run]
  rcases resolve s.settings.logLevel with fault | level <;> rfl

/-! ## Operations -/

/-- An operation of logging. Loggers go by their numbers, counted from zero on. -/
inductive Operation where
  | resolve (level : Value)
  | setUp (level : Value)
  | assign (change : SettingChange)
  | openLogger (name : Option String)
  | debug (logger : Nat) (template : String) (arguments : List Value)
  | message (logger : Nat) (template : String) (arguments : List Value)

/-- What an operation answers. -/
inductive Reply where
  | nothing
  | level (level : Level)
  | logger (logger : Logger)

/-- The logger of a number. -/
def loggerAt (n : Nat) : Work LogFault Logger := do
  let s ← Work.session
  match s.loggers[n]? with
  | some logger => return logger
  | none => Work.fail .noLogger

def Operation.work : Operation → Work LogFault Reply
  | .resolve v => do return .level (← Work.ofExcept (Session.resolve v))
  | .setUp v => do
    Session.setUp v
    return .nothing
  | .assign change => do
    Work.change fun s => s.assign change
    return .nothing
  | .openLogger name => do return .logger (← Session.openLogger name)
  | .debug n template arguments => do
    Session.debug (← loggerAt n) template arguments
    return .nothing
  | .message n template arguments => do
    Session.message (← loggerAt n) template arguments
    return .nothing

/-- Does one operation. -/
def perform (s : Session) (op : Operation) : Run LogFault Reply := op.work s

/-- Does operations in order, each in the session that the one before left. -/
def performAll (s : Session) (ops : List Operation) : List (Run LogFault Reply) :=
  s.doAll (ops.map Operation.work)

end Session

end MailSearch
