-- Which progress messages show. The threshold is the level that the settings named when the first
-- logger was opened, and a message is logged at the level that they name when it is sent. So it
-- shows as long as that level is not below the first one, and a finer level, assigned later, hides
-- it. What there is no room for is not shown, and the message fails.
import MailSearch.Proofs.OneSetUp

namespace MailSearch

namespace Session

/-! ## Runs without an explicit set-up -/

/-- An operation that leaves the set-up to the loggers and assigns no level but a text. -/
def Operation.isOrdinary : Operation → Bool
  | .setUp _ => false
  | .assign (.logLevel (.text _)) => true
  | .assign (.logLevel _) => false
  | _ => true

def Operation.opened? : Operation → Option Logger
  | .openLogger name => some (loggerOf name)
  | _ => none

/-- The loggers that operations open, oldest first. -/
def opened (ops : List Operation) : List Logger := ops.filterMap Operation.opened?

/-- What the settings hold as the level after some operations. -/
def settingAfterAll (setting : Value) (ops : List Operation) : Value :=
  ops.foldl Operation.settingAfter setting

/-! ## Messages that show -/

/-- What a message leaves that gets through: its reply and its record. The record has no text if
the template and the arguments do not fit, and there is none if there is no room for an argument. -/
def sent (room : Room) (level : Level) (logger : Logger) (template : String)
    (arguments : List Value) : Except LogFault Reply × List LogRecord :=
  match Template.render room template arguments with
  | .ok text => (.ok .nothing, [⟨level, logger.name, some text⟩])
  | .error .misfit => (.ok .nothing, [⟨level, logger.name, none⟩])
  | .error .tooDeep => (.error .tooDeep, [])

/-- Every message to an open logger leaves exactly one record, at the level that the settings name
at the time. -/
def ShowsEveryMessage (s : Session) (ops : List Operation) : Prop :=
  ∀ (i n : Nat) (template : String) (arguments : List Value) (logger : Logger),
    ops[i]? = some (.message n template arguments) → (opened (ops.take i))[n]? = some logger →
    ∃ levelName outcome text,
      settingAfterAll s.settings.logLevel (ops.take i) = .text levelName ∧
      (s.performAll ops)[i]? = some outcome ∧
      outcome.logged = [⟨Level.ofName levelName, logger.name, text⟩]

/-! ## One operation -/

theorem text_settingAfter {op : Operation} (h : op.isOrdinary = true) (levelName : String) :
    ∃ later, op.settingAfter (.text levelName) = .text later := by
  cases op with
  | assign change =>
    cases change with
    | logLevel v =>
      cases v with
      | text later => exact ⟨later, rfl⟩
      | _ => cases h
    | _ => exact ⟨levelName, rfl⟩
  | _ => exact ⟨levelName, rfl⟩

theorem setUp_text_ne_error (levelName : String) (s : Session) (fault : LogFault) :
    setUp (.text levelName) s ≠ ⟨.error fault, [], s⟩ := by
  rw [setUp_run]
  split <;> simp [resolve, Level.ofSetting]

theorem room_setUp (v : Value) (s : Session) : (setUp v s).session.room = s.room := by
  rw [setUp_run]
  split
  · rfl
  · split <;> rfl

/-- With a text as the level, loggers can be opened, and nothing else changes which ones there
are. -/
theorem loggers_perform {s : Session} {levelName : String}
    (hs : s.settings.logLevel = .text levelName) {op : Operation} (hop : op.isOrdinary = true) :
    (s.perform op).session.loggers = s.loggers ++ op.opened?.toList := by
  rcases hask : op.asksFor s.settings.logLevel with _ | v
  · have hnone : op.opened? = none := by
      cases op with
      | openLogger name => cases hask
      | _ => rfl
    rw [hnone, Option.toList_none, List.append_nil]
    rcases perform_of_not_asksFor hask with ⟨change, -, hsame⟩ | ⟨-, hsame⟩
    · rw [hsame]
      rfl
    · rw [hsame]
  · cases op with
    | openLogger name =>
      rw [perform_openLogger]
      rcases setUp_cases s.settings.logLevel s with ⟨t, ht⟩ | ⟨fault, hfault⟩
      · rw [openLogger_of_setUp ht, (of_setUp ht).2.2]
        rfl
      · rw [hs] at hfault
        exact absurd hfault (setUp_text_ne_error levelName s fault)
    | setUp v => cases hop
    | _ => cases hask

/-- A message to an open logger is sent at the level that the settings name, and gets through if
that is not below the threshold. -/
theorem perform_message {s : Session} {levelName : String}
    (hs : s.settings.logLevel = .text levelName) {n : Nat} {logger : Logger}
    (hlogger : s.loggers[n]? = some logger) (template : String) (arguments : List Value) :
    ((s.perform (.message n template arguments)).result,
        (s.perform (.message n template arguments)).logged) =
      if s.threshold.number ≤ (Level.ofName levelName).number then
        sent s.room (Level.ofName levelName) logger template arguments
      else (.ok .nothing, []) := by
  have hat : loggerAt n s = ⟨.ok logger, [], s⟩ := by
    unfold loggerAt
    rw [Work.bind_run, Work.session_run]
    simp [hlogger]
  have hmessage : message logger template arguments s =
      emit logger (Level.ofName levelName) template arguments s := by
    rw [message_run, hs]
    rfl
  have hrun : s.perform (.message n template arguments) =
      (message logger template arguments >>= fun _ => pure Reply.nothing) s := by
    change (loggerAt n >>= fun logger =>
      message logger template arguments >>= fun _ => pure Reply.nothing) s = _
    rw [Work.bind_run_ok hat]
    rfl
  rw [hrun, Work.bind_run, hmessage, emit_run, sent]
  by_cases hthrough : s.threshold.number ≤ (Level.ofName levelName).number
  · rw [if_pos hthrough, if_pos hthrough]
    rcases Template.render s.room template arguments with (_ | _) | text <;> rfl
  · rw [if_neg hthrough, if_neg hthrough]
    rfl

/-- No operation changes the room. -/
theorem room_perform (s : Session) (op : Operation) : (s.perform op).session.room = s.room := by
  rcases hask : op.asksFor s.settings.logLevel with _ | v
  · rcases perform_of_not_asksFor hask with ⟨change, -, hsame⟩ | ⟨-, hsame⟩ <;> rw [hsame]
    rfl
  · rcases perform_of_asksFor hask with ⟨t, opened, ht, hsame⟩ | ⟨fault, -, hsame⟩
    · have hroom := room_setUp v s
      rw [ht] at hroom
      rw [hsame]
      exact hroom
    · rw [hsame]

/-! ## A run -/

/-- Each operation of a run is done in the session of that place. -/
theorem getElem?_performAll {s : Session} {ops : List Operation} {i : Nat} {op : Operation}
    (h : ops[i]? = some op) :
    ∃ t, (s.sessions ops)[i]? = some t ∧ (s.performAll ops)[i]? = some (t.perform op) := by
  induction ops generalizing s i with
  | nil => cases h
  | cons first rest ih =>
    cases i with
    | zero =>
      cases h
      exact ⟨s, rfl, rfl⟩
    | succ i => exact ih h

/-- The settings and the loggers in each session of a run are those that the operations before it
assigned and opened. -/
theorem settings_and_loggers_of_run {s t : Session} {levelName : String}
    (hs : s.settings.logLevel = .text levelName) {ops : List Operation}
    (hops : ∀ op ∈ ops, op.isOrdinary = true) {i : Nat} (ht : (s.sessions ops)[i]? = some t) :
    t.settings.logLevel = settingAfterAll s.settings.logLevel (ops.take i) ∧
      (∃ later, t.settings.logLevel = .text later) ∧
      t.loggers = s.loggers ++ opened (ops.take i) := by
  induction ops generalizing s levelName i with
  | nil =>
    cases i with
    | zero =>
      cases ht
      exact ⟨rfl, ⟨levelName, hs⟩, (List.append_nil _).symm⟩
    | succ i => cases ht
  | cons op ops ih =>
    cases i with
    | zero =>
      cases ht
      exact ⟨rfl, ⟨levelName, hs⟩, (List.append_nil _).symm⟩
    | succ i =>
      have hop : op.isOrdinary = true := hops op List.mem_cons_self
      have hnext := logLevel_perform s op
      obtain ⟨later, hlater⟩ := text_settingAfter hop levelName
      rw [hs, hlater] at hnext
      obtain ⟨hsetting, htext, hloggers⟩ :=
        ih hnext (fun op' hop' => hops op' (List.mem_cons_of_mem _ hop')) ht
      refine ⟨?_, htext, ?_⟩
      · rw [hsetting, logLevel_perform]
        rfl
      · rw [hloggers, loggers_perform hs hop, List.append_assoc, List.take_succ_cons, opened,
          opened, List.filterMap_cons]
        cases op.opened? <;> rfl

/-- In each session of a run logging stands as at the start, or as the first set-up left it. -/
theorem standing_of_run {s t : Session} (hs : s.configured = false) {ops : List Operation}
    (ht : t ∈ s.sessions ops) :
    t.configured = false ∨
      ∃ n level, firstSetUp? s.settings.logLevel ops = some (n, level) ∧ t.threshold = level := by
  have hmem : t.standing ∈ (s.sessions ops).map standing := List.mem_map_of_mem ht
  rw [standings_of_not_configured hs ops] at hmem
  rcases hfirst : firstSetUp? s.settings.logLevel ops with _ | ⟨n, level⟩
  · rw [hfirst] at hmem
    exact .inl ((congrArg Prod.fst (List.eq_of_mem_replicate hmem)).trans hs)
  · rw [hfirst] at hmem
    rcases List.mem_append.mp hmem with hbefore | hafter
    · exact .inl ((congrArg Prod.fst (List.eq_of_mem_replicate hbefore)).trans hs)
    · exact .inr ⟨n, level, rfl, congrArg Prod.snd (List.eq_of_mem_replicate hafter)⟩

/-! ## The law -/

/-- A run starts with logging not set up, no logger sets it up but by being opened, and only texts
are assigned as levels. Then the first logger fixes the threshold at the level of its time. A
message to an open logger gets through if the level that the settings name when it is sent is not
below the first one, and is passed over otherwise. One that gets through leaves one record, at the
level of the time; only if there is no room for it, it fails and leaves none. -/
theorem a_message_shows_unless_it_is_below_the_first_level (s : Session) (start : String)
    (ops : List Operation) (hconfigured : s.configured = false) (hloggers : s.loggers = [])
    (hstart : s.settings.logLevel = .text start) (hops : ∀ op ∈ ops, op.isOrdinary = true)
    (i n : Nat) (template : String) (arguments : List Value) (logger : Logger)
    (hcall : ops[i]? = some (.message n template arguments))
    (hlogger : (opened (ops.take i))[n]? = some logger) :
    ∃ before first levelName outcome,
      firstSetUp? s.settings.logLevel ops = some (before, first) ∧
      settingAfterAll s.settings.logLevel (ops.take i) = .text levelName ∧
      (s.performAll ops)[i]? = some outcome ∧
      (outcome.result, outcome.logged) =
        if first.number ≤ (Level.ofName levelName).number then
          sent s.room (Level.ofName levelName) logger template arguments
        else (.ok .nothing, []) := by
  obtain ⟨t, ht, houtcome⟩ := getElem?_performAll (s := s) hcall
  obtain ⟨hsetting, ⟨levelName, hlevel⟩, hopened⟩ := settings_and_loggers_of_run hstart hops ht
  have htlogger : t.loggers[n]? = some logger := by
    rw [hopened, hloggers, List.nil_append]
    exact hlogger
  have hmem : t ∈ s.sessions ops := List.mem_of_getElem? ht
  have hset : t.configured = true := by
    apply forall_sessions (P := fun t => t.loggers ≠ [] → t.configured = true) ?_ ?_ ops t hmem
    · intro hnone
      rw [hnone] at htlogger
      cases htlogger
    · intro u op hu
      exact configured_of_loggers op hu
    · intro hsome
      exact absurd hloggers hsome
  have hroom : t.room = s.room := by
    apply forall_sessions (P := fun t => t.room = s.room) ?_ rfl ops t hmem
    intro u op hu
    exact (room_perform u op).trans hu
  rcases standing_of_run hconfigured hmem with hnot | ⟨before, first, hfirst, hthreshold⟩
  · rw [hset] at hnot
    cases hnot
  · have hmessage := perform_message hlevel htlogger template arguments
    rw [hthreshold, hroom] at hmessage
    exact ⟨before, first, levelName, _, hfirst, hsetting.symm.trans hlevel, houtcome, hmessage⟩

/-- A first logger under the level of warnings, and messages under a name of no level and under the
level of errors. -/
def unsteadyRun : List Operation :=
  [.assign (.logLevel (.text "Warning")), .openLogger (some "first"),
    .assign (.logLevel (.text "nonsense")), .message 0 "hidden" [],
    .assign (.logLevel (.text "error")), .openLogger none, .message 1 "%s" [.text "shown"]]

theorem an_unsteady_level_shows_some_messages :
    let s := initial (.limited 1000 4300)
    (∀ op ∈ unsteadyRun, op.isOrdinary = true) ∧
      (∃ outcome, (s.performAll unsteadyRun)[3]? = some outcome ∧ outcome.logged = []) ∧
      ∃ outcome, (s.performAll unsteadyRun)[6]? = some outcome ∧
        outcome.logged = [⟨.error, unnamedLogger, some "shown"⟩] := by
  intro s
  have hops : ∀ op ∈ unsteadyRun, op.isOrdinary = true := by decide
  have hwarning : firstSetUp? s.settings.logLevel unsteadyRun = some (1, .warning) := by
    decide +kernel
  refine ⟨hops, ?_, ?_⟩
  · obtain ⟨before, first, levelName, outcome, hfirst, hlevel, houtcome, hsent⟩ :=
      a_message_shows_unless_it_is_below_the_first_level s "INFO" unsteadyRun rfl rfl rfl
        hops 3 0 "hidden" [] ⟨"first"⟩ rfl rfl
    rw [hwarning] at hfirst
    cases hfirst
    cases hlevel
    have hbelow : ¬ Level.warning.number ≤ (Level.ofName "nonsense").number := by decide +kernel
    rw [if_neg hbelow] at hsent
    exact ⟨outcome, houtcome, congrArg Prod.snd hsent⟩
  · obtain ⟨before, first, levelName, outcome, hfirst, hlevel, houtcome, hsent⟩ :=
      a_message_shows_unless_it_is_below_the_first_level s "INFO" unsteadyRun rfl rfl rfl
        hops 6 1 "%s" [.text "shown"] ⟨unnamedLogger⟩ rfl rfl
    rw [hwarning] at hfirst
    cases hfirst
    cases hlevel
    have hrecord : (sent s.room (Level.ofName "error") ⟨unnamedLogger⟩ "%s" [.text "shown"]).2 =
        [⟨.error, unnamedLogger, some "shown"⟩] := by decide +kernel
    have habove : Level.warning.number ≤ (Level.ofName "error").number := by decide +kernel
    rw [if_pos habove] at hsent
    exact ⟨outcome, houtcome, (congrArg Prod.snd hsent).trans hrecord⟩

/-- A logger is opened under the usual level, and a message is sent under a finer one. -/
def loweredRun : List Operation :=
  [.openLogger (some "first"), .assign (.logLevel (.text "DEBUG")), .message 0 "now debug" []]

/-- So not every run shows every message. -/
theorem a_finer_level_hides_a_message :
    ¬ ∀ (s : Session) (start : String) (ops : List Operation), s.configured = false →
        s.loggers = [] → s.settings.logLevel = .text start →
        (∀ op ∈ ops, op.isOrdinary = true) → s.ShowsEveryMessage ops := by
  intro hshows
  have hops : ∀ op ∈ loweredRun, op.isOrdinary = true := by decide
  obtain ⟨levelName, outcome, text, -, houtcome, hlogged⟩ :=
    hshows (initial (.limited 1000 4300)) "INFO" loweredRun rfl rfl rfl hops 2 0 "now debug" []
      ⟨"first"⟩ rfl rfl
  have hnothing : ((initial (.limited 1000 4300)).performAll loweredRun)[2]?.map (·.logged) =
      some [] := by
    decide +kernel
  rw [houtcome, Option.map_some, hlogged] at hnothing
  cases hnothing

end Session

end MailSearch
