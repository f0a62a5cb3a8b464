-- What the answers of a builder depend on. A builder takes its zone and its date format once, when
-- it is made. So in every run it answers each request like a builder that was made of the same
-- arguments and answers nothing else, whatever became of the settings. The one thing that comes
-- between is a request that cannot be told in full where debugging gets through.
import MailSearch.Proofs.BuildSteps
import MailSearch.Proofs.DeepFilters
import MailSearch.Proofs.OneSetUp
import MailSearch.Zone.Named

namespace MailSearch

/-! ## Opening a logger -/

namespace Session

/-- The settings name a level that can be resolved. -/
def NamesLevel (s : Session) : Prop := ∃ level, Level.ofSetting s.settings.logLevel = .ok level

theorem namesLevel_congr {s t : Session} (h : t.settings = s.settings) :
    t.NamesLevel ↔ s.NamesLevel := by
  unfold NamesLevel
  rw [h]

theorem NamesLevel.setUp {s : Session} (h : s.NamesLevel) :
    ∃ t, setUp s.settings.logLevel s = ⟨.ok (), [], t⟩ := by
  obtain ⟨level, hlevel⟩ := h
  by_cases hs : s.configured = true
  · exact ⟨s, setUp_of_configured hs _⟩
  · rw [setUp_of_not_configured (by simpa using hs), hlevel]
    exact ⟨_, rfl⟩

/-- Then a logger can be opened, and the settings stay as they are. -/
theorem NamesLevel.openLogger {s : Session} (h : s.NamesLevel) (name : Option String) :
    ∃ t, openLogger name s = ⟨.ok (loggerOf name), [], t⟩ ∧ t.settings = s.settings := by
  obtain ⟨t, ht⟩ := h.setUp
  exact ⟨_, openLogger_of_setUp ht name, (of_setUp ht).2.1⟩

theorem settings_of_openLogger {s t : Session} {name : Option String} {opened : Logger}
    {logged : List LogRecord} (h : openLogger name s = ⟨.ok opened, logged, t⟩) :
    t.settings = s.settings := by
  rcases setUp_cases s.settings.logLevel s with ⟨u, hset⟩ | ⟨fault, hset⟩
  · rw [openLogger_of_setUp hset] at h
    cases h
    exact (of_setUp hset).2.1
  · rw [openLogger_of_setUp_error hset] at h
    cases h

/-- A message that is not too deep can be logged at every level. -/
theorem result_emit {s : Session} {template : String} {arguments : List Value}
    (h : Template.render s.room template arguments ≠ .error .tooDeep) (logger : Logger)
    (level : Level) : (emit logger level template arguments s).result = .ok () := by
  rw [emit_run]
  split
  · split
    · rfl
    · rfl
    · rename_i htooDeep
      exact absurd htooDeep h
  · rfl

/-- Nor does anything but the level that the settings name keep progress from being logged. -/
theorem result_message_iff {s : Session} {template : String} {arguments : List Value}
    (h : Template.render s.room template arguments ≠ .error .tooDeep) (logger : Logger) :
    (message logger template arguments s).result = .ok () ↔ s.NamesLevel := by
  rw [message_run, NamesLevel, resolve]
  rcases Level.ofSetting s.settings.logLevel with typeName | level
  · simp
  · simp [result_emit h]

end Session

namespace Builder

/-! ## The making -/

theorem announcement_ne_tooDeep (b : Builder) (zoneName : String) (room : Room) :
    Template.render room announcement
      [.text b.compiler.name, .text zoneName, .text b.dateFormat] ≠ .error .tooDeep :=
  Template.render_ne_tooDeep room announcement b.compiler.name zoneName [b.dateFormat]

/-- Nothing keeps a builder from being announced but a level that cannot be resolved. -/
theorem result_announce_iff (b : Builder) (zoneName : String) (s : Session) :
    (b.announce zoneName s).result = .ok () ↔ s.NamesLevel := by
  unfold announce
  constructor
  · intro h
    rcases hopen : Session.openLogger (some logger.name) s with ⟨fault | opened, logged, t⟩
    · rw [Work.bind_run_error hopen] at h
      cases h
    · rw [Work.bind_run_ok hopen] at h
      exact (Session.namesLevel_congr (Session.settings_of_openLogger hopen)).mp
        ((Session.result_message_iff (b.announcement_ne_tooDeep zoneName t.room) opened).mp h)
  · intro h
    obtain ⟨t, hopen, hsettings⟩ := h.openLogger (some logger.name)
    rw [Work.bind_run_ok hopen]
    exact (Session.result_message_iff (b.announcement_ne_tooDeep zoneName t.room) _).mpr
      ((Session.namesLevel_congr hsettings).mpr h)

/-- A builder that is made has its zone and its date format from its arguments, or else from the
settings in force at its making, and these name a level. Nothing more is needed to make it. -/
theorem result_make_iff {zones : String → Option NamedZone} {compiler : CompilerOf Part}
    {zone dateFormat : Option String} {s : Session} {b : Builder} :
    (make zones compiler zone dateFormat s).result = .ok b ↔
      s.NamesLevel ∧ ∃ found, zones (givenOr zone s.settings.timeZone) = some found ∧
        b = ⟨compiler, found, givenOr dateFormat s.settings.dateFormat⟩ := by
  unfold make
  rw [Work.bind_run, Work.session_run]
  dsimp only
  rcases zones (givenOr zone s.settings.timeZone) with _ | found
  · simp
  · have hannounce := result_announce_iff
      ⟨compiler, found, givenOr dateFormat s.settings.dateFormat⟩
      (givenOr zone s.settings.timeZone) s
    dsimp only
    rw [Work.bind_run, Work.mapFault]
    rcases hresult : (announce ⟨compiler, found, givenOr dateFormat s.settings.dateFormat⟩
        (givenOr zone s.settings.timeZone) s).result with fault | _
    · rw [hresult] at hannounce
      have hlevel : ¬ s.NamesLevel := fun h => by cases hannounce.mpr h
      simp [hlevel, Except.mapError]
    · have hlevel : s.NamesLevel := hannounce.mp hresult
      simp [hlevel, Except.mapError, eq_comm]

/-- The announcement leaves what the opening of the logger left. -/
theorem session_announce (b : Builder) (zoneName : String) (s : Session) :
    (b.announce zoneName s).session = (Session.openLogger (some logger.name) s).session := by
  unfold announce
  rcases hopen : Session.openLogger (some logger.name) s with ⟨fault | opened, logged, t⟩
  · rw [Work.bind_run_error hopen]
  · rw [Work.bind_run_ok hopen]
    exact Session.steady_message opened announcement _ t

theorem session_make {zones : String → Option NamedZone} {compiler : CompilerOf Part}
    {zone dateFormat : Option String} {s : Session} {b : Builder}
    (h : (make zones compiler zone dateFormat s).result = .ok b) :
    (make zones compiler zone dateFormat s).session =
      (Session.openLogger (some logger.name) s).session := by
  obtain ⟨hlevel, found, hfound, rfl⟩ := result_make_iff.mp h
  have hannounce := (result_announce_iff
    ⟨compiler, found, givenOr dateFormat s.settings.dateFormat⟩
    (givenOr zone s.settings.timeZone) s).mpr hlevel
  unfold make
  rw [Work.bind_run, Work.session_run]
  dsimp only
  rw [hfound]
  dsimp only
  rw [Work.bind_run, Work.mapFault, hannounce]
  exact session_announce _ _ s

/-! ## The answers -/

/-- Can what happens be told in a session? -/
def tells (b : Builder) (s : Session) : Event → Bool
  | .assign _ => true
  | .build request => (b.told request).all (TraceEntry.fitsIn s)

/-- What becomes of an event that can be told. No session has a say in this. -/
def outcome (b : Builder) : Event → Except BuildFault (Option String)
  | .assign _ => .ok none
  | .build request => (b.answer request).map some

/-- What becomes of an event in some session. -/
theorem result_handle (b : Builder) (s : Session) (event : Event) :
    (b.handle event s).result =
      if b.tells s event then b.outcome event else .error (.log .tooDeep) := by
  cases event with
  | assign change => rfl
  | build request =>
    rw [handle_build, build_run, tells, outcome]
    split <;> rfl

/-- In a run every event comes out as it does alone. The induction is on the events: none of them
changes what the others depend on. -/
theorem results_handleAll (b : Builder) (s : Session) (events : List Event) :
    (b.handleAll s events).map (·.result) =
      events.map fun event =>
        if b.tells s event then b.outcome event else .error (.log .tooDeep) := by
  induction events generalizing s with
  | nil => rfl
  | cons event events ih =>
    obtain ⟨hthreshold, hroom⟩ := b.session_handle s event
    have htells : b.tells (b.handle event s).session = b.tells s := by
      funext other
      cases other with
      | assign change => rfl
      | build request => rw [tells, tells, fitsIn_congr hthreshold hroom]
    have hrest := ih (b.handle event s).session
    rw [htells] at hrest
    rw [List.map_cons, ← hrest, ← b.result_handle s event]
    rfl

/-- What cannot be told is too deep, where debugging gets through: the filter, if it is reached, or
its expression. -/
theorem tells_build_eq_false_iff {b : Builder} {s : Session} {request : Request} :
    b.tells s (.build request) = false ↔
      s.threshold = .debug ∧ request.reachesFilter = true ∧
        (s.room.allow request.filter = .error .tooDeep ∨
          ∃ part, b.compiler.compile request.filter = .ok part ∧
            s.room.allow part.toValue = .error .tooDeep) := by
  have hsearch : (searchTold (b.answer request)).all (TraceEntry.fitsIn s) = true := by
    rcases b.answer request with fault | search <;> simp [searchTold]
  rw [tells, told, List.all_append, List.all_append, hsearch, Bool.and_true]
  unfold filterTold expressionTold
  by_cases hreached : request.reachesFilter = true
  · rw [if_pos hreached, if_pos hreached]
    rcases b.compiler.compile request.filter with fault | part
    · simp [TraceEntry.fitsIn_eq_false_iff, TraceEntry.value, hreached]
    · simp only [List.all_cons, List.all_nil, Bool.and_true, Bool.and_eq_false_iff,
        TraceEntry.fitsIn_eq_false_iff, TraceEntry.value, hreached, Except.ok.injEq,
        exists_eq_left', true_and]
      exact and_or_left.symm
  · simp [hreached]

theorem tells_of_null (b : Builder) (s : Session) {request : Request}
    (h : request.filter = .null) : b.tells s (.build request) = true := by
  rw [← Bool.not_eq_false, tells_build_eq_false_iff]
  simp [Request.reachesFilter, h, Value.isNull]

/-- A build that can be told does not fail as one that cannot. -/
theorem answer_ne_log (b : Builder) (request : Request) (fault : LogFault) :
    b.answer request ≠ .error (.log fault) := by
  intro h
  rcases bind_eq_error_iff.mp h with hwords | ⟨words, -, h⟩
  · obtain ⟨_, hfault⟩ := wordsPart_error hwords
    cases hfault
  rcases bind_eq_error_iff.mp h with hfilter | ⟨filter, -, h⟩
  · obtain ⟨_, hfault, -⟩ := compiledPart_error hfilter
    cases hfault
  rcases ending_error h with ⟨_, hfault⟩ | ⟨_, _, hfault⟩ <;> cases hfault

theorem outcome_ne_log (b : Builder) (event : Event) (fault : LogFault) :
    b.outcome event ≠ .error (.log fault) := by
  cases event with
  | assign change => simp [outcome]
  | build request => simp [outcome, answer_ne_log]

/-! ## The law -/

/-- A builder was made of some arguments under some settings, with any table of zones. Then these
settings name a level that can be resolved, and a fresh builder can be made of the same arguments
in every session that has the same zone and date format in its settings and names such a level,
however logging is set up there.

In every run of events, in whatever session it starts, the builder answers each request as the
fresh one does that answers this request only, as far as all that happens can be told in both
sessions. What cannot be told fails for this reason, and nothing else does. This comes to pass
where debugging gets through, with a filter or an expression that there is no room for, so never
under a coarser threshold. The settings have no say in any of it. -/
theorem a_builder_answers_like_a_fresh_one :
    ∀ (zones : String → Option NamedZone) (made : Session) (compiler : CompilerOf Part)
      (zone dateFormat : Option String) (b : Builder),
      (make zones compiler zone dateFormat made).result = .ok b →
      made.NamesLevel ∧
      ∀ fresh : Session, fresh.settings.timeZone = made.settings.timeZone →
        fresh.settings.dateFormat = made.settings.dateFormat → fresh.NamesLevel →
        ∃ other announced session,
          make zones compiler zone dateFormat fresh = ⟨.ok other, announced, session⟩ ∧
          (∀ (live : Session) (events : List Event),
            (∀ event ∈ events, b.tells live event ∧ other.tells session event) →
              (b.handleAll live events).map (·.result) =
                events.map fun event => (other.handle event session).result) ∧
          (∀ (live : Session) (events : List Event),
            (b.handleAll live events).map (·.result) =
              events.map fun event =>
                if b.tells live event then other.outcome event else .error (.log .tooDeep)) ∧
          (∀ (live : Session) (event : Event),
            (other.handle event live).result =
              if other.tells live event then other.outcome event else .error (.log .tooDeep)) ∧
          (∀ event, other.outcome event ≠ .error (.log .tooDeep)) ∧
          ∀ (live : Session) (request : Request),
            b.tells live (.build request) = false ↔
              live.threshold = .debug ∧ request.reachesFilter = true ∧
                (live.room.allow request.filter = .error .tooDeep ∨
                  ∃ part, b.compiler.compile request.filter = .ok part ∧
                    live.room.allow part.toValue = .error .tooDeep) := by
  intro zones made compiler zone dateFormat b hmade
  obtain ⟨hlevel, found, hfound, rfl⟩ := result_make_iff.mp hmade
  refine ⟨hlevel, ?_⟩
  intro fresh hzone hformat hfresh
  have hother : (make zones compiler zone dateFormat fresh).result =
      .ok ⟨compiler, found, givenOr dateFormat made.settings.dateFormat⟩ := by
    rw [result_make_iff, hzone, hformat]
    exact ⟨hfresh, found, hfound, rfl⟩
  refine ⟨_, (make zones compiler zone dateFormat fresh).logged,
    (make zones compiler zone dateFormat fresh).session, by rw [← hother], ?_, ?_, ?_, ?_, ?_⟩
  · intro live events htold
    rw [results_handleAll]
    refine List.map_congr_left fun event hevent => ?_
    obtain ⟨hlive, hsession⟩ := htold event hevent
    rw [result_handle, if_pos hlive, if_pos hsession]
  · exact fun live events => results_handleAll _ live events
  · exact fun live event => result_handle _ live event
  · exact fun event => outcome_ne_log _ event _
  · exact fun live request => tells_build_eq_false_iff

/-- The answers in texts of the compiler for the mail search grammar. -/
def standardParts : CompilerOf Part := Compiler.standard.map Part.text

/-- Settings that change, with a build in between that fails and a last one that does not. -/
def restlessEvents : List Event :=
  [.assign (.timeZone "Nowhere"), .build ⟨.value (.int 5), .null, none, none⟩,
    .assign (.dateFormat "%j"), .assign (.logLevel (.int 5)),
    .build ⟨.text " report ", .null, some (.day ⟨2024, 3, 9, by decide⟩), none⟩]

/-- The settings of the start but for the level; logging is set up, and everything gets through. -/
def loudSession : Session :=
  ⟨{ Settings.default with logLevel := .text "debug" }, true, .debug, [], .limited 1000 4300⟩

/-- The builder that the settings of the start make. -/
def usualBuilder : Builder := ⟨standardParts, ⟨"US/Pacific", OffsetTable.pacific.zone⟩, "%Y/%m/%d"⟩

theorem a_restless_builder_answers_like_a_fresh_one :
    let start := Session.initial (.limited 1000 4300)
    let left := (make NamedZone.find? standardParts none none start).session
    (make NamedZone.find? standardParts none none start).result = .ok usualBuilder ∧
      (usualBuilder.handleAll left restlessEvents).map (·.result) =
        [.ok none, .error (.wordsNoText "int"), .ok none, .ok none,
          .ok (some "report after:2024/03/09")] ∧
      ∃ other announced session,
        make NamedZone.find? standardParts none none loudSession =
          ⟨.ok other, announced, session⟩ ∧
        (usualBuilder.handleAll left restlessEvents).map (·.result) =
          restlessEvents.map (fun event => (other.handle event session).result) := by
  intro start left
  have hmade : (make NamedZone.find? standardParts none none start).result = .ok usualBuilder :=
    result_make_iff.mpr ⟨⟨.info, rfl⟩, _, rfl, rfl⟩
  have htells : ∀ (b : Builder) (s : Session), ∀ event ∈ restlessEvents, b.tells s event = true := by
    intro b s event hevent
    simp only [restlessEvents, List.mem_cons, List.not_mem_nil, or_false] at hevent
    rcases hevent with rfl | rfl | rfl | rfl | rfl
    · rfl
    · exact b.tells_of_null s rfl
    · rfl
    · rfl
    · exact b.tells_of_null s rfl
  obtain ⟨other, announced, session, hother, hrun, hlive, -⟩ :=
    (a_builder_answers_like_a_fresh_one _ _ _ _ _ _ hmade).2 loudSession rfl rfl ⟨.debug, rfl⟩
  refine ⟨hmade, ?_, other, announced, session, hother, ?_⟩
  · have hgood : usualBuilder.answer
        ⟨.text " report ", .null, some (.day ⟨2024, 3, 9, by decide⟩), none⟩ =
          .ok "report after:2024/03/09" := eq_ok_iff_toOption.2 (by decide +kernel)
    rw [results_handleAll, List.map_congr_left fun event hevent =>
      if_pos (htells usualBuilder left event hevent)]
    simp only [restlessEvents, List.map_cons, List.map_nil, outcome, hgood]
    rfl
  · exact hrun left restlessEvents fun event hevent =>
      ⟨htells usualBuilder left event hevent, htells other session event hevent⟩

/-- The session of the start but for the level. -/
def sessionOfLevel (level : String) : Session :=
  { Session.initial (.limited 1000 4300) with
    settings := { Settings.default with logLevel := .text level } }

/-- One builder, made under two levels: what it answers to a search for a deep filter under the
one, it fails to answer under the other. -/
theorem a_deep_filter_fails_where_debugging_gets_through :
    let quiet := make NamedZone.find? standardParts none none (sessionOfLevel "INFO")
    let loud := make NamedZone.find? standardParts none none (sessionOfLevel "DEBUG")
    quiet.result = .ok usualBuilder ∧ loud.result = .ok usualBuilder ∧
      (usualBuilder.handle (.build (negationSearch 2000)) quiet.session).result =
        .ok (some (minusSigns 2000)) ∧
      (usualBuilder.handle (.build (negationSearch 2000)) loud.session).result =
        .error (.log .tooDeep) := by
  intro quiet loud
  have hquiet : quiet.result = .ok usualBuilder :=
    result_make_iff.mpr ⟨⟨.info, rfl⟩, _, rfl, rfl⟩
  have hloud : loud.result = .ok usualBuilder :=
    result_make_iff.mpr ⟨⟨.debug, rfl⟩, _, rfl, rfl⟩
  refine ⟨hquiet, hloud, ?_, ?_⟩
  · have hthreshold : quiet.session.threshold ≠ .debug := by
      rw [session_make hquiet]
      decide
    rw [handle_build, build_negationSearch_of_coarser rfl _ hthreshold]
    rfl
  · have hthreshold : loud.session.threshold = .debug := by
      rw [session_make hloud]
      rfl
    have hroom : loud.session.room = .limited 1000 4300 := by
      rw [session_make hloud]
      rfl
    rw [handle_build, build_negationSearch_of_debug rfl hthreshold hroom (by decide)]
    rfl

end Builder

end MailSearch
