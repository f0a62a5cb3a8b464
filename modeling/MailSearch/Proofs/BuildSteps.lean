-- The steps of a build. What a build tells for the eyes of a developer, and what it answers, come
-- of the request only; the session decides how much of it is told, and whether there is room to tell
-- it. So a build is its telling and then its answer.
import MailSearch.Proofs.FilledTemplates
import MailSearch.Proofs.SteadyWork
import MailSearch.Search.Builder

namespace MailSearch

/-! ## What there is to tell -/

/-- What a build tells of itself: the filter, its expression, and the search string. -/
inductive TraceEntry where
  | filter (v : Value)
  | expression (part : Part)
  | search (text : String)

namespace TraceEntry

def label : TraceEntry → String
  | .filter _ => "Filter ast: "
  | .expression _ => "Filter expression: "
  | .search _ => "Search string: "

/-- What an entry is about. -/
def value : TraceEntry → Value
  | .filter v => v
  | .expression part => part.toValue
  | .search text => .text text

/-- Tells an entry. -/
def tell (entry : TraceEntry) : Work BuildFault Unit :=
  Builder.trace (entry.label ++ "%s") entry.value

/-- Tells entries in order, up to the first one that cannot be told. -/
def tellAll : List TraceEntry → Work BuildFault Unit
  | [] => return ()
  | entry :: rest => do
    entry.tell
    tellAll rest

/-- Can an entry be told in a session? There has to be room for it, unless nobody listens. -/
def fitsIn (s : Session) (entry : TraceEntry) : Bool :=
  match s.room.allow entry.value with
  | .error .tooDeep => decide (s.threshold ≠ .debug)
  | _ => true

/-- An entry as a record: its label with what it is about. A value that is refused leaves no
text. -/
def recordIn (room : Room) (entry : TraceEntry) : LogRecord :=
  ⟨.debug, "SearchQueryBuilder",
    ((room.allow entry.value).map fun _ => entry.label ++ entry.value.shown).toOption⟩

/-! ## The telling of entries -/

theorem fitsIn_eq_false_iff {s : Session} {entry : TraceEntry} :
    entry.fitsIn s = false ↔
      s.threshold = .debug ∧ s.room.allow entry.value = .error .tooDeep := by
  unfold fitsIn
  split
  · rename_i hallow
    simp [hallow]
  · rename_i hallow
    exact iff_of_false (by simp) fun htooDeep => hallow htooDeep.2

@[simp]
theorem fitsIn_search (s : Session) (text : String) : (search text).fitsIn s = true := by
  rw [fitsIn, value, s.room.allow_text]

theorem fitsIn_of_coarser {s : Session} (h : s.threshold ≠ .debug) (entry : TraceEntry) :
    entry.fitsIn s = true := by
  rw [← Bool.not_eq_false, fitsIn_eq_false_iff]
  exact fun hdebug => h hdebug.1

theorem render_entry (room : Room) (entry : TraceEntry) :
    Template.render room (entry.label ++ "%s") [entry.value] =
      (room.allow entry.value).map fun _ => entry.label ++ entry.value.shown := by
  have hlabel : '%' ∉ entry.label.toList := by
    cases entry <;> simp [label]
  exact Template.render_label room entry.label hlabel entry.value

/-- What the logger does with an entry, as far as debugging gets through. -/
theorem debug_entry {s : Session} (h : s.threshold = .debug) (entry : TraceEntry) :
    Session.debug Builder.logger (entry.label ++ "%s") [entry.value] s =
      if entry.fitsIn s then ⟨.ok (), [entry.recordIn s.room], s⟩
      else ⟨.error .tooDeep, [], s⟩ := by
  have hthrough : s.threshold.number ≤ Level.debug.number := Nat.le_of_eq (congrArg _ h)
  rw [Session.debug, Session.emit_run, if_pos hthrough, render_entry, recordIn, fitsIn]
  rcases s.room.allow entry.value with (_ | _) | _
  · rfl
  · simp [h]
  · rfl

theorem debug_of_coarser {s : Session} (h : s.threshold ≠ .debug) (entry : TraceEntry) :
    Session.debug Builder.logger (entry.label ++ "%s") [entry.value] s = ⟨.ok (), [], s⟩ := by
  have hcoarse : ¬ s.threshold.number ≤ Level.debug.number := by
    revert h
    cases s.threshold <;> decide
  rw [Session.debug, Session.emit_run, if_neg hcoarse]

/-- An entry that fits is told if debugging gets through, and else is passed over. One that does
not fit ends the work. -/
theorem tell_run (entry : TraceEntry) (s : Session) :
    entry.tell s =
      if entry.fitsIn s then
        ⟨.ok (), if s.threshold = .debug then [entry.recordIn s.room] else [], s⟩
      else ⟨.error (.log .tooDeep), [], s⟩ := by
  unfold tell Builder.trace Work.mapFault
  by_cases hdebug : s.threshold = .debug
  · rw [debug_entry hdebug, if_pos hdebug]
    split <;> rfl
  · rw [debug_of_coarser hdebug, if_neg hdebug, if_pos (fitsIn_of_coarser hdebug entry)]
    rfl

/-- The telling of entries: all that stand before the first one that does not fit are told. The
induction is on the entries, all told in one session. -/
theorem tellAll_run (entries : List TraceEntry) (s : Session) :
    tellAll entries s =
      ⟨if entries.all (fitsIn s) then .ok () else .error (.log .tooDeep),
        if s.threshold = .debug then (entries.takeWhile (fitsIn s)).map (recordIn s.room) else [],
        s⟩ := by
  induction entries with
  | nil => simp [tellAll]
  | cons entry rest ih =>
    have hrun := tell_run entry s
    by_cases hfits : entry.fitsIn s = true
    · rw [if_pos hfits] at hrun
      rw [tellAll, Work.bind_run_ok hrun, ih]
      by_cases hdebug : s.threshold = .debug <;> simp [hfits, hdebug]
    · rw [if_neg hfits] at hrun
      rw [tellAll, Work.bind_run_error hrun]
      simp [hfits]

end TraceEntry

/-! ## What a request comes to -/

/-- Can this be trimmed, or is it nothing at all? Then it may stand for the plain words. -/
def Part.areWords : Part → Bool
  | .value (.text _) => true
  | .bytes _ => true
  | part => !part.isTruthy

def Value.isNull : Value → Bool
  | .null => true
  | _ => false

theorem Value.isNull_iff (v : Value) : v.isNull = true ↔ v = .null := by
  cases v <;> simp [Value.isNull]

/-- A filter is given, and the plain words before it are accepted. -/
def Request.reachesFilter (request : Request) : Bool :=
  request.words.areWords && !request.filter.isNull

namespace Builder

/-- The filter of a search as a part, if it compiles. Null is no filter. -/
def compiledPart (b : Builder) : Value → Except BuildFault (List Part)
  | .null => .ok []
  | v =>
    match b.compiler.compile v with
    | .ok part => .ok [part]
    | .error fault => .error (.filter fault)

/-- The ends of the range behind other parts, and all of them joined. -/
def ending (b : Builder) (request : Request) (parts : List Part) : Except BuildFault String := do
  let start ← b.startPart request.start
  let stop ← b.stopPart request.stop
  joinParts (parts ++ start ++ stop)

/-- What a build answers if it can tell all that it has to. -/
def answer (b : Builder) (request : Request) : Except BuildFault String := do
  let words ← wordsPart request.words
  let filter ← b.compiledPart request.filter
  b.ending request (words ++ filter)

/-- The filter, if it is reached. -/
def filterTold (request : Request) : List TraceEntry :=
  if request.reachesFilter then [.filter request.filter] else []

/-- The expression of the filter, if it is reached and compiles. -/
def expressionTold (b : Builder) (request : Request) : List TraceEntry :=
  if request.reachesFilter then
    match b.compiler.compile request.filter with
    | .ok part => [.expression part]
    | .error _ => []
  else []

/-- The search string, if one is handed back. -/
def searchTold : Except BuildFault String → List TraceEntry
  | .ok search => [.search search]
  | .error _ => []

/-- All that a build has to tell. -/
def told (b : Builder) (request : Request) : List TraceEntry :=
  filterTold request ++ b.expressionTold request ++ searchTold (b.answer request)

/-! ## The parts -/

@[simp]
theorem wordsPart_null : wordsPart (.value .null) = .ok [] := rfl

@[simp]
theorem filterPart_null (b : Builder) : b.filterPart .null = pure [] := rfl

@[simp]
theorem startPart_none (b : Builder) : b.startPart none = .ok [] := rfl

@[simp]
theorem stopPart_none (b : Builder) : b.stopPart none = .ok [] := rfl

/-- An end of a range is a text at most, or has no day. -/
theorem endPart_cases (b : Builder) (label : String) (dayOf : Bound → Except BoundFault Date)
    (bound : Option Bound) :
    (∃ texts : List String, texts.length ≤ 1 ∧
      b.endPart label dayOf bound = .ok (texts.map .text)) ∨
    ∃ own, b.endPart label dayOf bound = .error (.bound own) := by
  cases bound with
  | none => exact .inl ⟨[], Nat.zero_le _, rfl⟩
  | some bound =>
    rcases hday : dayOf bound with own | day
    · exact .inr ⟨own, by simp only [endPart, hday]⟩
    · exact .inl ⟨[label ++ day.format b.dateFormat], Nat.le_refl _, by simp [endPart, hday]⟩

/-- What comes of an end of a range are texts. -/
theorem exists_texts_of_endPart {b : Builder} {label : String}
    {dayOf : Bound → Except BoundFault Date} {bound : Option Bound} {parts : List Part}
    (h : b.endPart label dayOf bound = .ok parts) : ∃ texts : List String, parts = texts.map .text := by
  rcases b.endPart_cases label dayOf bound with ⟨texts, -, htexts⟩ | ⟨own, hown⟩
  · rw [htexts] at h
    exact ⟨texts, (Except.ok.inj h).symm⟩
  · rw [hown] at h
    cases h

theorem wordsPart_cases (words : Part) :
    (∃ typeName, wordsPart words = .error (.wordsNoText typeName) ∧ words.areWords = false) ∨
      ∃ parts, wordsPart words = .ok parts ∧ words.areWords = true := by
  unfold wordsPart
  by_cases htrue : words.isTruthy = true
  · rw [if_pos htrue]
    rcases words with v | octets
    · cases v with
      | text s => exact .inr ⟨_, rfl, rfl⟩
      | _ => exact .inl ⟨_, rfl, by simp [Part.areWords, htrue]⟩
    · exact .inr ⟨_, rfl, rfl⟩
  · rw [if_neg htrue]
    refine .inr ⟨_, rfl, ?_⟩
    unfold Part.areWords
    split <;> simp [htrue]

/-- The words fail, or no filter is given, or it is reached. -/
theorem reachesFilter_cases (request : Request) :
    (∃ typeName, wordsPart request.words = .error (.wordsNoText typeName) ∧
      request.reachesFilter = false) ∨
    (∃ words, wordsPart request.words = .ok words ∧ request.filter = .null ∧
      request.reachesFilter = false) ∨
    ∃ words, wordsPart request.words = .ok words ∧ request.filter ≠ .null ∧
      request.reachesFilter = true := by
  unfold Request.reachesFilter
  rcases wordsPart_cases request.words with ⟨typeName, hwords, hbad⟩ | ⟨words, hwords, hgood⟩
  · exact .inl ⟨typeName, hwords, by rw [hbad, Bool.false_and]⟩
  by_cases hfilter : request.filter = .null
  · refine .inr (.inl ⟨words, hwords, hfilter, ?_⟩)
    rw [(Value.isNull_iff _).mpr hfilter, Bool.not_true, Bool.and_false]
  · have hnull : request.filter.isNull = false := by
      rwa [← Bool.not_eq_true, Value.isNull_iff]
    exact .inr (.inr ⟨words, hwords, hfilter, by rw [hgood, hnull]; rfl⟩)

/-! ## Joining -/

theorem joinParts_eq (parts : List Part) :
    joinParts parts =
      match Part.firstNoText? 0 (parts.filter Part.isTruthy) with
      | none => .ok (" ".intercalate ((parts.filter Part.isTruthy).filterMap Part.text?))
      | some (place, typeName) => .error (.partNoText place typeName) := by
  unfold joinParts Part.joinAll
  dsimp only
  rcases Part.firstNoText? 0 (parts.filter Part.isTruthy) with _ | ⟨place, typeName⟩ <;> rfl

theorem joinParts_singleton (part : Part) :
    joinParts [part] =
      if part.isTruthy then
        match part.text? with
        | some text => .ok text
        | none => .error (.partNoText 0 part.typeName)
      else .ok "" := by
  rw [joinParts_eq]
  by_cases htrue : part.isTruthy = true
  · rw [if_pos htrue, List.filter_cons_of_pos htrue, List.filter_nil, Part.firstNoText?]
    rcases htext : part.text? with _ | text
    · rfl
    · simp [htext, Part.firstNoText?]
  · rw [if_neg htrue, List.filter_cons_of_neg (by simpa using htrue)]
    rfl

/-- A part that is a text counts for something unless it is empty. -/
theorem isTruthy_of_text? {part : Part} {text : String} (h : part.text? = some text) :
    part.isTruthy = true ↔ text ≠ "" := by
  unfold Part.text? at h
  split at h
  · cases h
    simp [Part.isTruthy, Value.isTruthy]
  · cases h

/-- Texts are always joined, as far as they are not empty. -/
theorem joinParts_map_text (texts : List String) :
    joinParts (texts.map .text) = .ok (" ".intercalate (texts.filter (· ≠ ""))) := by
  have hkept : (texts.map Part.text).filter Part.isTruthy =
      (texts.filter (· ≠ "")).map Part.text := by
    rw [List.filter_map]
    congr 2
    funext text
    by_cases htext : text = "" <;> simp [htext, Part.text, Part.isTruthy, Value.isTruthy]
  have hall : ∀ (place : Nat) (kept : List String),
      Part.firstNoText? place (kept.map Part.text) = none := by
    intro place kept
    induction kept generalizing place with
    | nil => rfl
    | cons text rest ih => exact ih (place + 1)
  rw [joinParts_eq, hkept, hall, List.filterMap_map]
  exact congrArg (fun kept => Except.ok (" ".intercalate kept)) List.filterMap_some

/-- A text alone is joined as it is, even if it is empty. -/
theorem joinParts_text (text : String) : joinParts [.text text] = .ok text := by
  refine (joinParts_map_text [text]).trans ?_
  by_cases htext : text = "" <;> simp [htext]

/-! ## How a step fails -/

theorem wordsPart_error {words : Part} {fault : BuildFault} (h : wordsPart words = .error fault) :
    ∃ typeName, fault = .wordsNoText typeName := by
  rcases wordsPart_cases words with ⟨typeName, hwords, -⟩ | ⟨parts, hwords, -⟩
  · rw [hwords] at h
    exact ⟨typeName, (Except.error.inj h).symm⟩
  · rw [hwords] at h
    cases h

theorem compiledPart_error {b : Builder} {v : Value} {fault : BuildFault}
    (h : b.compiledPart v = .error fault) :
    ∃ own, fault = .filter own ∧ b.compiler.compile v = .error own := by
  unfold compiledPart at h
  split at h
  · cases h
  · split at h
    · cases h
    · rename_i own hcompile
      exact ⟨own, (Except.error.inj h).symm, hcompile⟩

theorem endPart_error {b : Builder} {label : String} {dayOf : Bound → Except BoundFault Date}
    {bound : Option Bound} {fault : BuildFault} (h : b.endPart label dayOf bound = .error fault) :
    ∃ own, fault = .bound own := by
  rcases b.endPart_cases label dayOf bound with ⟨texts, -, htexts⟩ | ⟨own, hown⟩
  · rw [htexts] at h
    cases h
  · rw [hown] at h
    exact ⟨own, (Except.error.inj h).symm⟩

theorem joinParts_error {parts : List Part} {fault : BuildFault}
    (h : joinParts parts = .error fault) :
    ∃ place typeName, fault = .partNoText place typeName := by
  unfold joinParts at h
  split at h
  · cases h
  · exact ⟨_, _, (Except.error.inj h).symm⟩

/-- Behind the filter a build fails at an end of the range, or when all is joined. -/
theorem ending_error {b : Builder} {request : Request} {parts : List Part} {fault : BuildFault}
    (h : b.ending request parts = .error fault) :
    (∃ own, fault = .bound own) ∨ ∃ place typeName, fault = .partNoText place typeName := by
  rcases bind_eq_error_iff.mp h with hstart | ⟨start, -, h⟩
  · exact .inl (endPart_error hstart)
  rcases bind_eq_error_iff.mp h with hstop | ⟨stop, -, h⟩
  · exact .inl (endPart_error hstop)
  · exact .inr (joinParts_error h)

/-! ## A filter that is given -/

theorem compiledPart_of_ne_null {v : Value} (h : v ≠ .null) (b : Builder) :
    b.compiledPart v =
      match b.compiler.compile v with
      | .ok part => .ok [part]
      | .error fault => .error (.filter fault) := by
  cases v with
  | null => exact absurd rfl h
  | _ => rfl

theorem filterPart_of_ne_null {v : Value} (h : v ≠ .null) (b : Builder) :
    b.filterPart v = (TraceEntry.filter v).tell >>= fun _ =>
      match b.compiler.compile v with
      | .ok part => (TraceEntry.expression part).tell >>= fun _ => pure [part]
      | .error fault => Work.ofExcept (.error (.filter fault)) := by
  unfold filterPart
  split
  · exact absurd rfl h
  · rcases hcompile : b.compiler.compile v with fault | part <;> rfl

theorem steady_trace (template : String) (v : Value) : (trace template v).Steady :=
  (Session.steady_emit logger .debug template [v]).mapFault BuildFault.log

theorem steady_filterPart (b : Builder) (v : Value) : (b.filterPart v).Steady := by
  unfold filterPart
  split
  · exact .pure []
  · refine .bind (steady_trace _ _) fun _ => ?_
    split
    · exact .ofExcept _
    · exact .bind (steady_trace _ _) fun _ => .pure _

/-! ## A build as its telling and its answer -/

theorem build_eq_ending (b : Builder) (request : Request) :
    b.build request =
      Work.ofExcept (wordsPart request.words) >>= fun words =>
        b.filterPart request.filter >>= fun filter =>
          TraceEntry.tellAll (searchTold (b.ending request (words ++ filter))) >>= fun _ =>
            Work.ofExcept (b.ending request (words ++ filter)) := by
  unfold build
  congr 1
  funext words
  congr 1
  funext filter
  unfold ending
  rcases b.startPart request.start with fault | start
  · rfl
  rcases b.stopPart request.stop with fault | stop
  · rfl
  simp only [Work.ofExcept_ok_bind, ok_bind]
  rcases joinParts (words ++ filter ++ start ++ stop) with fault | search
  · rfl
  · simp only [Work.ofExcept_ok_bind, searchTold, TraceEntry.tellAll, bind_assoc, pure_bind]
    rfl

/-- What comes of a build comes of its steps in a row. The search string can always be told. -/
theorem result_build_bind (b : Builder) (request : Request) (s : Session) :
    (b.build request s).result =
      wordsPart request.words >>= fun words =>
        (b.filterPart request.filter s).result >>= fun filter =>
          b.ending request (words ++ filter) := by
  rw [build_eq_ending, (Work.Steady.ofExcept _).result_bind, Work.ofExcept_run]
  rcases wordsPart request.words with fault | words
  · rfl
  rw [ok_bind, ok_bind, (b.steady_filterPart _).result_bind]
  rcases (b.filterPart request.filter s).result with fault | filter
  · rfl
  rw [ok_bind, ok_bind, Work.bind_run, TraceEntry.tellAll_run]
  rcases b.ending request (words ++ filter) with fault | search <;> simp [searchTold]

/-- A build tells all that it has to, and answers then. -/
theorem build_eq (b : Builder) (request : Request) :
    b.build request =
      TraceEntry.tellAll (b.told request) >>= fun _ => Work.ofExcept (b.answer request) := by
  rw [build_eq_ending]
  unfold told answer filterTold expressionTold
  rcases reachesFilter_cases request with ⟨typeName, hwords, hreached⟩ |
    ⟨words, hwords, hfilter, hreached⟩ | ⟨words, hwords, hfilter, hreached⟩
  · simp [hwords, hreached, searchTold, TraceEntry.tellAll]
  · simp [hwords, hfilter, hreached, filterPart, compiledPart]
  · rw [filterPart_of_ne_null hfilter, compiledPart_of_ne_null hfilter, hwords, hreached]
    rcases b.compiler.compile request.filter with fault | part <;>
      simp [searchTold, TraceEntry.tellAll]

/-- What a build leaves in a session. It never changes the session. -/
theorem build_run (b : Builder) (request : Request) (s : Session) :
    b.build request s =
      ⟨if (b.told request).all (TraceEntry.fitsIn s) then b.answer request
          else .error (.log .tooDeep),
        if s.threshold = .debug then
          ((b.told request).takeWhile (TraceEntry.fitsIn s)).map (TraceEntry.recordIn s.room)
        else [], s⟩ := by
  rw [build_eq, Work.bind_run, TraceEntry.tellAll_run]
  by_cases hall : (b.told request).all (TraceEntry.fitsIn s) = true <;> simp [hall]

/-- Without a filter there is nothing that could be too deep. -/
theorem result_build_of_null {b : Builder} {request : Request} (h : request.filter = .null)
    (s : Session) : (b.build request s).result = b.answer request := by
  rw [result_build_bind, answer, h]
  rfl

/-- A build of a range alone is its ending. -/
theorem result_build_range (b : Builder) (start stop : Option Bound) (s : Session) :
    (b.build ⟨.value .null, .null, start, stop⟩ s).result =
      b.ending ⟨.value .null, .null, start, stop⟩ [] :=
  result_build_of_null rfl s

/-! ## Events -/

theorem handle_build (b : Builder) (request : Request) (s : Session) :
    b.handle (.build request) s =
      { b.build request s with result := (b.build request s).result.map some } := by
  change (b.build request >>= fun search => pure (some search)) s = _
  rw [Work.bind_run]
  rcases b.build request s with ⟨fault | search, logged, t⟩ <;> simp

/-- No event changes the threshold, or the room. -/
theorem session_handle (b : Builder) (s : Session) (event : Event) :
    (b.handle event s).session.threshold = s.threshold ∧
      (b.handle event s).session.room = s.room := by
  cases event with
  | assign change => exact ⟨rfl, rfl⟩
  | build request =>
    rw [handle_build, build_run]
    exact ⟨rfl, rfl⟩

theorem fitsIn_congr {s t : Session} (hthreshold : t.threshold = s.threshold)
    (hroom : t.room = s.room) : TraceEntry.fitsIn t = TraceEntry.fitsIn s := by
  funext entry
  rw [TraceEntry.fitsIn, TraceEntry.fitsIn, hthreshold, hroom]

end Builder

end MailSearch
