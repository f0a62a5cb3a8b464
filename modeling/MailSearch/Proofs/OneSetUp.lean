-- The laws of setting up logging. It is set up at most once: by the first operation that asks for
-- a level that can be resolved, and with that level. Nothing that comes later changes it, an
-- operation that fails changes nothing at all, and no logger is opened before.
import MailSearch.Proofs.SteadyWork

namespace MailSearch

namespace Session

/-! ## What a run goes through -/

/-- Whether logging is set up, and its threshold. -/
def standing (s : Session) : Bool × Level := (s.configured, s.threshold)

/-- The sessions of a run, from the one in which it starts to the one that it leaves. -/
def sessions (s : Session) (ops : List Operation) : List Session :=
  s :: (s.performAll ops).map (·.session)

theorem sessions_cons (s : Session) (op : Operation) (ops : List Operation) :
    s.sessions (op :: ops) = s :: (s.perform op).session.sessions ops := rfl

/-- What holds at the start and is kept by every operation holds in every session of a run. -/
theorem forall_sessions {P : Session → Prop} (hstep : ∀ s op, P s → P (s.perform op).session)
    {s : Session} (hs : P s) (ops : List Operation) : ∀ t ∈ s.sessions ops, P t := by
  induction ops generalizing s with
  | nil =>
    intro t ht
    obtain rfl : t = s := List.mem_singleton.mp ht
    exact hs
  | cons op ops ih =>
    intro t ht
    rw [sessions_cons, List.mem_cons] at ht
    rcases ht with rfl | ht
    · exact hs
    · exact ih (hstep s op hs) t ht

/-! ## The first set-up -/

/-- The value that an operation would take for the level if logging is not set up. A new logger
takes what the settings hold. -/
def Operation.asksFor (setting : Value) : Operation → Option Value
  | .setUp v => some v
  | .openLogger _ => some setting
  | _ => none

/-- What the settings hold as the level after an operation. -/
def Operation.settingAfter (setting : Value) : Operation → Value
  | .assign (.logLevel v) => v
  | _ => setting

/-- The level to which an operation would set logging up, if what it asks for can be resolved. -/
def Operation.level? (setting : Value) (op : Operation) : Option Level :=
  (op.asksFor setting).bind fun v => (Level.ofSetting v).toOption

/-- The first operation that asks for a level that can be resolved: how many come before it, and
the level. -/
def firstSetUp? (setting : Value) : List Operation → Option (Nat × Level)
  | [] => none
  | op :: ops =>
    match op.level? setting with
    | some level => some (0, level)
    | none => (firstSetUp? (op.settingAfter setting) ops).map fun found => (found.1 + 1, found.2)

/-! ## A set-up -/

theorem setUp_of_configured {s : Session} (h : s.configured = true) (v : Value) :
    setUp v s = ⟨.ok (), [], s⟩ := by
  rw [setUp_run, if_pos h]

theorem setUp_of_not_configured {s : Session} (h : s.configured = false) (v : Value) :
    setUp v s =
      match Level.ofSetting v with
      | .ok level => ⟨.ok (), [], { s with configured := true, threshold := level }⟩
      | .error typeName => ⟨.error (.levelNoText typeName), [], s⟩ := by
  rw [setUp_run, if_neg (by simp [h]), resolve]
  rcases Level.ofSetting v with typeName | level <;> rfl

/-- A set-up that fails leaves the session as it was, and none logs anything. -/
theorem setUp_cases (v : Value) (s : Session) :
    (∃ t, setUp v s = ⟨.ok (), [], t⟩) ∨ ∃ fault, setUp v s = ⟨.error fault, [], s⟩ := by
  by_cases hs : s.configured = true
  · exact .inl ⟨s, setUp_of_configured hs v⟩
  · rw [setUp_of_not_configured (by simpa using hs)]
    split
    · exact .inl ⟨_, rfl⟩
    · exact .inr ⟨_, rfl⟩

/-- Logging is set up after a set-up that does not fail, and the rest of the session is as it
was. -/
theorem of_setUp {s t : Session} {v : Value} (h : setUp v s = ⟨.ok (), [], t⟩) :
    t.configured = true ∧ t.settings = s.settings ∧ t.loggers = s.loggers := by
  by_cases hs : s.configured = true
  · rw [setUp_of_configured hs] at h
    cases h
    exact ⟨hs, rfl, rfl⟩
  · rw [setUp_of_not_configured (by simpa using hs)] at h
    split at h
    · cases h
      exact ⟨rfl, rfl, rfl⟩
    · cases h

/-- A new logger is opened once the set-up that it asks for is done. -/
theorem openLogger_of_setUp {s t : Session} (h : setUp s.settings.logLevel s = ⟨.ok (), [], t⟩)
    (name : Option String) :
    openLogger name s =
      ⟨.ok (loggerOf name), [], { t with loggers := t.loggers ++ [loggerOf name] }⟩ := by
  rw [openLogger_run, h]

theorem openLogger_of_setUp_error {s : Session} {fault : LogFault}
    (h : setUp s.settings.logLevel s = ⟨.error fault, [], s⟩) (name : Option String) :
    openLogger name s = ⟨.error fault, [], s⟩ := by
  rw [openLogger_run, h]

/-! ## One operation -/

theorem perform_setUp (v : Value) (s : Session) :
    s.perform (.setUp v) =
      ⟨(setUp v s).result.map fun _ => .nothing, (setUp v s).logged, (setUp v s).session⟩ := by
  change (setUp v >>= fun _ => pure Reply.nothing) s = _
  rw [Work.bind_run]
  rcases setUp v s with ⟨fault | _, logged, t⟩
  · rfl
  · simp

theorem perform_openLogger (name : Option String) (s : Session) :
    s.perform (.openLogger name) =
      ⟨(openLogger name s).result.map .logger, (openLogger name s).logged,
        (openLogger name s).session⟩ := by
  change (openLogger name >>= fun logger => pure (Reply.logger logger)) s = _
  rw [Work.bind_run]
  rcases openLogger name s with ⟨fault | logger, logged, t⟩
  · rfl
  · simp

/-- What an operation does that asks for a level: the set-up, and a logger perhaps, or nothing. -/
theorem perform_of_asksFor {s : Session} {op : Operation} {v : Value}
    (h : op.asksFor s.settings.logLevel = some v) :
    (∃ t opened, setUp v s = ⟨.ok (), [], t⟩ ∧
        (s.perform op).session = { t with loggers := t.loggers ++ opened }) ∨
      ∃ fault, setUp v s = ⟨.error fault, [], s⟩ ∧ (s.perform op).session = s := by
  cases op with
  | setUp w =>
    cases h
    rw [perform_setUp]
    rcases setUp_cases v s with ⟨t, ht⟩ | ⟨fault, hfault⟩
    · exact .inl ⟨t, [], ht, by simp [ht]⟩
    · exact .inr ⟨fault, hfault, by simp [hfault]⟩
  | openLogger name =>
    cases h
    rw [perform_openLogger]
    rcases setUp_cases s.settings.logLevel s with ⟨t, ht⟩ | ⟨fault, hfault⟩
    · exact .inl ⟨t, [loggerOf name], ht, by rw [openLogger_of_setUp ht]⟩
    · exact .inr ⟨fault, hfault, by rw [openLogger_of_setUp_error hfault]⟩
  | _ => cases h

/-- Any other operation changes the settings, or nothing. -/
theorem perform_of_not_asksFor {s : Session} {op : Operation}
    (h : op.asksFor s.settings.logLevel = none) :
    (∃ change, op = .assign change ∧ (s.perform op).session = s.assign change) ∨
      ((∀ change, op ≠ .assign change) ∧ (s.perform op).session = s) := by
  cases op with
  | setUp v => cases h
  | openLogger name => cases h
  | assign change => exact .inl ⟨change, rfl, rfl⟩
  | resolve v =>
    refine .inr ⟨by simp, ?_⟩
    exact Work.Steady.bind (.ofExcept (resolve v)) (fun level => .pure (Reply.level level)) s
  | debug n template arguments =>
    exact .inr ⟨by simp, steady_debug_work n template arguments s⟩
  | message n template arguments =>
    exact .inr ⟨by simp, steady_message_work n template arguments s⟩

/-- An operation that fails leaves the session as it was. -/
theorem session_of_result_error {s : Session} {op : Operation} {fault : LogFault}
    (h : (s.perform op).result = .error fault) : (s.perform op).session = s := by
  rcases hask : op.asksFor s.settings.logLevel with _ | v
  · rcases perform_of_not_asksFor hask with ⟨change, rfl, -⟩ | ⟨-, hs⟩
    · cases h
    · exact hs
  · rcases perform_of_asksFor hask with ⟨t, opened, ht, -⟩ | ⟨own, -, hs⟩
    · -- what asks for a level and gets it does not fail
      cases op with
      | setUp w =>
        cases hask
        rw [perform_setUp, ht] at h
        cases h
      | openLogger name =>
        cases hask
        rw [perform_openLogger, openLogger_of_setUp ht] at h
        cases h
      | _ => cases hask
    · exact hs

/-- Once logging is set up, no operation changes that, nor the threshold. -/
theorem standing_of_configured {s : Session} (h : s.configured = true) (op : Operation) :
    (s.perform op).session.standing = s.standing := by
  rcases hask : op.asksFor s.settings.logLevel with _ | v
  · rcases perform_of_not_asksFor hask with ⟨change, -, hs⟩ | ⟨-, hs⟩
    · rw [hs]
      rfl
    · rw [hs]
  · rcases perform_of_asksFor hask with ⟨t, opened, ht, hs⟩ | ⟨fault, -, hs⟩
    · rw [setUp_of_configured h] at ht
      cases ht
      rw [hs]
      rfl
    · rw [hs]

/-- Before that, an operation changes them only if it asks for a level that can be resolved. -/
theorem standing_of_not_configured {s : Session} (h : s.configured = false) (op : Operation) :
    (s.perform op).session.standing =
      match op.level? s.settings.logLevel with
      | some level => (true, level)
      | none => s.standing := by
  rcases hask : op.asksFor s.settings.logLevel with _ | v
  · rw [Operation.level?, hask, Option.bind_none]
    rcases perform_of_not_asksFor hask with ⟨change, -, hs⟩ | ⟨-, hs⟩
    · rw [hs]
      rfl
    · rw [hs]
  · rw [Operation.level?, hask, Option.bind_some]
    have hv := setUp_of_not_configured h v
    rcases perform_of_asksFor hask with ⟨t, opened, ht, hs⟩ | ⟨fault, hfault, hs⟩
    · rw [ht] at hv
      rcases hlevel : Level.ofSetting v with typeName | level
      · simp [hlevel] at hv
      · simp only [hlevel, Run.mk.injEq] at hv
        rw [hs, hv.2.2]
        rfl
    · rw [hfault] at hv
      rcases hlevel : Level.ofSetting v with typeName | level
      · rw [hs]
        rfl
      · simp [hlevel] at hv

/-- The level in the settings is the one that was assigned last. -/
theorem logLevel_perform (s : Session) (op : Operation) :
    (s.perform op).session.settings.logLevel = op.settingAfter s.settings.logLevel := by
  rcases hask : op.asksFor s.settings.logLevel with _ | v
  · rcases perform_of_not_asksFor hask with ⟨change, rfl, hs⟩ | ⟨hne, hs⟩
    · rw [hs]
      cases change <;> rfl
    · rw [hs]
      cases op with
      | assign change => exact absurd rfl (hne change)
      | _ => rfl
  · have hsame : (s.perform op).session.settings = s.settings := by
      rcases perform_of_asksFor hask with ⟨t, opened, ht, hs⟩ | ⟨fault, -, hs⟩
      · rw [hs]
        exact (of_setUp ht).2.1
      · rw [hs]
    rw [hsame]
    cases op with
    | assign change => cases hask
    | _ => rfl

/-- A logger is opened only when logging is set up. -/
theorem configured_of_loggers {s : Session} (op : Operation)
    (h : s.loggers ≠ [] → s.configured = true) :
    (s.perform op).session.loggers ≠ [] → (s.perform op).session.configured = true := by
  rcases hask : op.asksFor s.settings.logLevel with _ | v
  · rcases perform_of_not_asksFor hask with ⟨change, -, hs⟩ | ⟨-, hs⟩
    · rw [hs]
      exact h
    · rw [hs]
      exact h
  · rcases perform_of_asksFor hask with ⟨t, opened, ht, hs⟩ | ⟨fault, -, hs⟩
    · intro _
      rw [hs]
      exact (of_setUp ht).1
    · rw [hs]
      exact h

/-! ## A run -/

theorem standings_of_configured {s : Session} (h : s.configured = true) (ops : List Operation) :
    (s.sessions ops).map standing = List.replicate (ops.length + 1) s.standing := by
  induction ops generalizing s with
  | nil => rfl
  | cons op ops ih =>
    have hstep := standing_of_configured h op
    have hnext : (s.perform op).session.configured = true := (congrArg Prod.fst hstep).trans h
    rw [sessions_cons, List.map_cons, ih hnext, hstep]
    rfl

/-- The induction is on the operations; logging is not set up in the session before them. -/
theorem standings_of_not_configured {s : Session} (h : s.configured = false)
    (ops : List Operation) :
    (s.sessions ops).map standing =
      match firstSetUp? s.settings.logLevel ops with
      | none => List.replicate (ops.length + 1) s.standing
      | some (n, level) =>
        List.replicate (n + 1) s.standing ++ List.replicate (ops.length - n) (true, level) := by
  induction ops generalizing s with
  | nil => rfl
  | cons op ops ih =>
    have hstep := standing_of_not_configured h op
    rw [sessions_cons, List.map_cons, firstSetUp?]
    rcases hlevel : op.level? s.settings.logLevel with _ | level
    · rw [hlevel] at hstep
      have hnext : (s.perform op).session.configured = false := (congrArg Prod.fst hstep).trans h
      rw [ih hnext, hstep, logLevel_perform]
      rcases firstSetUp? (op.settingAfter s.settings.logLevel) ops with _ | ⟨n, level⟩
      · rfl
      · simp [List.replicate_succ]
    · rw [hlevel] at hstep
      have hnext : (s.perform op).session.configured = true := congrArg Prod.fst hstep
      rw [standings_of_configured hnext, hstep]
      rfl

/-! ## The law -/

/-- At first logging is not set up and warnings get through. That stays so until the first
operation that asks for a level that can be resolved, and from that operation on logging is set up
at that level; if there is none, it stays so to the end. An operation that fails leaves the whole
session as it was. There is no logger while logging is not set up. -/
theorem logging_is_set_up_at_most_once (room : Room) (ops : List Operation) :
    ((initial room).sessions ops).map standing =
      (match firstSetUp? (initial room).settings.logLevel ops with
        | none => List.replicate (ops.length + 1) (false, .warning)
        | some (n, level) =>
          List.replicate (n + 1) (false, .warning) ++
            List.replicate (ops.length - n) (true, level)) ∧
      (∀ s op fault, (perform s op).result = .error fault → (perform s op).session = s) ∧
      ∀ s ∈ (initial room).sessions ops, s.loggers ≠ [] → s.configured = true := by
  refine ⟨standings_of_not_configured rfl ops, ?_, ?_⟩
  · intro s op fault h
    exact session_of_result_error h
  · apply forall_sessions
    · intro s op hs
      exact configured_of_loggers op hs
    · intro h
      exact absurd rfl h

/-- Set-ups that fail, a level that is assigned, and three more set-ups. -/
def troubledStart : List Operation :=
  [.setUp (.int 5), .assign (.logLevel (.list [.int 1])), .openLogger none,
    .assign (.logLevel (.text "Error")), .openLogger none, .setUp (.text "DEBUG"),
    .assign (.logLevel (.text "DEBUG")), .openLogger (some "second")]

theorem a_troubled_start_sets_up_once :
    let start := initial (.limited 1000 4300)
    firstSetUp? start.settings.logLevel troubledStart = some (4, .error) ∧
      (start.sessions troubledStart).map standing =
        List.replicate 5 (false, .warning) ++ List.replicate 4 (true, .error) ∧
      (∃ fault, (perform start (.setUp (.int 5))).result = .error fault) ∧
      (perform start (.setUp (.int 5))).session = start ∧
      ∃ s ∈ start.sessions troubledStart, s.loggers ≠ [] ∧ s.configured = true := by
  intro start
  have hfirst : firstSetUp? start.settings.logLevel troubledStart = some (4, .error) := by
    decide +kernel
  obtain ⟨hrun, hfail, hloggers⟩ := logging_is_set_up_at_most_once (.limited 1000 4300) troubledStart
  rw [hfirst] at hrun
  have hresult : (perform start (.setUp (.int 5))).result = .error (.levelNoText "int") := rfl
  obtain ⟨s, hs, hopened⟩ : ∃ s ∈ start.sessions troubledStart, s.loggers ≠ [] :=
    ⟨(start.sessions troubledStart).get ⟨5, by decide⟩, List.get_mem _ _, by decide +kernel⟩
  exact ⟨hfirst, hrun, ⟨_, hresult⟩, hfail _ _ _ hresult, s, hs, hopened, hloggers s hs hopened⟩

end Session

end MailSearch
