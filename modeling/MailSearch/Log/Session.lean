-- A session of logging, and work that is done in one. Work may log, change the session and fail; what
-- it logged and changed before it fails stays.
import MailSearch.Log.Level
import MailSearch.Log.Room
import MailSearch.Settings.Basic

namespace MailSearch

/-- A record that got through. It has no text if its template and its arguments do not fit. -/
structure LogRecord where
  level : Level
  logger : String
  text : Option String
deriving DecidableEq

/-- The line of a record behind a time mark. A record without a text leaves no line. -/
def LogRecord.line? (time : String) (r : LogRecord) : Option String :=
  r.text.map fun text => time ++ " " ++ r.level.name ++ " [" ++ r.logger ++ "] " ++ text ++ "\n"

/-- A named source of records. -/
structure Logger where
  name : String
deriving DecidableEq

/-- What logging depends on: the settings, whether it is set up, its threshold, the loggers that
were opened, oldest first, and the room there is for messages. -/
structure Session where
  settings : Settings
  configured : Bool
  threshold : Level
  loggers : List Logger
  room : Room

/-- At first nothing is set up, and warnings get through. -/
def Session.initial (room : Room) : Session := ⟨.default, false, .warning, [], room⟩

/-! ## Work -/

/-- What a piece of work leaves: its result, what was logged, and the session from then on. -/
structure Run (ε α : Type) where
  result : Except ε α
  logged : List LogRecord
  session : Session

/-- Work that is done in a session. -/
def Work (ε α : Type) := Session → Run ε α

namespace Work

/-- Goes on with what a piece of work gives. After a failure nothing more is done. -/
protected def bind (work : Work ε α) (next : α → Work ε β) : Work ε β := fun s =>
  match (work s).result with
  | .ok a =>
    let run := next a (work s).session
    { run with logged := (work s).logged ++ run.logged }
  | .error fault => ⟨.error fault, (work s).logged, (work s).session⟩

instance : Monad (Work ε) where
  pure a := fun s => ⟨.ok a, [], s⟩
  bind := Work.bind

/-- Something that neither logs nor touches the session. -/
def ofExcept (result : Except ε α) : Work ε α := fun s => ⟨result, [], s⟩

def fail (fault : ε) : Work ε α := ofExcept (.error fault)

/-- The session in which the work is done. -/
def session : Work ε Session := fun s => ⟨.ok s, [], s⟩

def change (f : Session → Session) : Work ε Unit := fun s => ⟨.ok (), [], f s⟩

def log (record : LogRecord) : Work ε Unit := fun s => ⟨.ok (), [record], s⟩

/-- The same work, with another name for its failures. -/
def mapFault (f : ε → ε') (work : Work ε α) : Work ε' α := fun s =>
  { work s with result := (work s).result.mapError f }

/-! ## What a step leaves -/

@[simp]
theorem pure_run (a : α) (s : Session) : (pure a : Work ε α) s = ⟨.ok a, [], s⟩ := rfl

@[simp]
theorem ofExcept_run (result : Except ε α) (s : Session) : ofExcept result s = ⟨result, [], s⟩ := rfl

@[simp]
theorem fail_run (fault : ε) (s : Session) : (fail fault : Work ε α) s = ⟨.error fault, [], s⟩ := rfl

@[simp]
theorem session_run (s : Session) : (session : Work ε Session) s = ⟨.ok s, [], s⟩ := rfl

@[simp]
theorem change_run (f : Session → Session) (s : Session) :
    (change f : Work ε Unit) s = ⟨.ok (), [], f s⟩ := rfl

@[simp]
theorem log_run (record : LogRecord) (s : Session) :
    (log record : Work ε Unit) s = ⟨.ok (), [record], s⟩ := rfl

theorem bind_run (work : Work ε α) (next : α → Work ε β) (s : Session) :
    (work >>= next) s =
      match (work s).result with
      | .ok a =>
        let run := next a (work s).session
        { run with logged := (work s).logged ++ run.logged }
      | .error fault => ⟨.error fault, (work s).logged, (work s).session⟩ := rfl

/-- What is done after a step that succeeds, and logs what it likes. -/
theorem bind_run_ok {work : Work ε α} {s t : Session} {a : α} {logged : List LogRecord}
    (h : work s = ⟨.ok a, logged, t⟩) (next : α → Work ε β) :
    (work >>= next) s = ⟨(next a t).result, logged ++ (next a t).logged, (next a t).session⟩ := by
  rw [bind_run, h]

theorem bind_run_error {work : Work ε α} {s t : Session} {fault : ε} {logged : List LogRecord}
    (h : work s = ⟨.error fault, logged, t⟩) (next : α → Work ε β) :
    (work >>= next) s = ⟨.error fault, logged, t⟩ := by
  rw [bind_run, h]

end Work

namespace Session

/-- Does pieces of work in order, each in the session that the one before left, failed or not. -/
def doAll (s : Session) : List (Work ε α) → List (Run ε α)
  | [] => []
  | work :: rest => work s :: doAll (work s).session rest

end Session

end MailSearch
