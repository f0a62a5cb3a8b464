-- What the trace of a build tells. The filter is told when it is reached, its expression when it
-- is compiled, and the search string when it is handed back; nothing is told after a failure. All
-- of it is for the eyes of a developer, so a coarser threshold lets none of it through. Where it
-- gets through, what there is no room for is not told, and the build fails there.
import Mathlib.Data.List.TakeWhile
import MailSearch.Proofs.DeepFilters

namespace MailSearch

namespace Builder

/-! ## What is told by a result -/

/-- What is told of a filter if it, or else its expression, does not fit. -/
def toldInPart (s : Session) (request : Request) : List TraceEntry :=
  [TraceEntry.filter request.filter].takeWhile (TraceEntry.fitsIn s)

/-- What is told before a build comes to its end: nothing if the words fail, the filter alone if it
fails, and both of the filter if an end of the range fails, or the join. If an entry does not fit,
it is what stands before it. -/
def toldUntil (b : Builder) (s : Session) (request : Request) :
    Except BuildFault String → List TraceEntry
  | .error (.wordsNoText _) => []
  | .error (.filter _) => [.filter request.filter]
  | .error (.bound _) => filterTold request ++ b.expressionTold request
  | .error (.partNoText _ _) => filterTold request ++ b.expressionTold request
  | .error (.log _) => toldInPart s request
  | .ok search => filterTold request ++ b.expressionTold request ++ [.search search]

/-- If not all fits, no more than the filter is told. -/
theorem takeWhile_told {b : Builder} {s : Session} {request : Request}
    (h : (b.told request).all (TraceEntry.fitsIn s) = false) :
    (b.told request).takeWhile (TraceEntry.fitsIn s) = toldInPart s request := by
  have hsearch : (searchTold (b.answer request)).all (TraceEntry.fitsIn s) = true := by
    rcases b.answer request with fault | search <;> simp [searchTold]
  rw [told, List.all_append, hsearch, Bool.and_true] at h
  unfold told filterTold expressionTold toldInPart at *
  by_cases hreached : request.reachesFilter = true
  · by_cases hfilter : (TraceEntry.filter request.filter).fitsIn s = true
    · rcases hcompile : b.compiler.compile request.filter with fault | part
      · simp [hreached, hcompile, hfilter] at h
      · have hpart : (TraceEntry.expression part).fitsIn s = false := by
          simpa [hreached, hcompile, hfilter] using h
        simp [hreached, hfilter, hpart]
    · simp [hreached, hfilter]
  · simp [hreached] at h

/-- What a build has to tell comes of its answer. -/
theorem told_eq_toldUntil (b : Builder) (s : Session) (request : Request) :
    b.told request = b.toldUntil s request (b.answer request) := by
  unfold told answer
  rcases reachesFilter_cases request with ⟨typeName, hwords, hreached⟩ |
    ⟨words, hwords, hfilter, hreached⟩ | ⟨words, hwords, hfilter, hreached⟩
  · simp [hwords, searchTold, toldUntil, filterTold, expressionTold, hreached]
  · rw [hwords, hfilter, ok_bind, compiledPart, ok_bind]
    rcases hending : b.ending request (words ++ []) with fault | search
    · rcases ending_error hending with ⟨own, rfl⟩ | ⟨place, typeName, rfl⟩ <;>
        simp [searchTold, toldUntil]
    · rfl
  · rw [hwords, ok_bind, compiledPart_of_ne_null hfilter]
    rcases hcompile : b.compiler.compile request.filter with fault | part
    · simp [searchTold, toldUntil, filterTold, expressionTold, hreached, hcompile]
    · rw [ok_bind]
      rcases hending : b.ending request (words ++ [part]) with fault | search
      · rcases ending_error hending with ⟨own, rfl⟩ | ⟨place, typeName, rfl⟩ <;>
          simp [searchTold, toldUntil]
      · rfl

/-! ## The records -/

/-- The records of a build that can tell all, and of one that cannot. -/
theorem logged_build (b : Builder) (request : Request) (s : Session) :
    (b.build request s).logged =
      if s.threshold = .debug then
        (if (b.told request).all (TraceEntry.fitsIn s) then b.told request
          else toldInPart s request).map (TraceEntry.recordIn s.room)
      else [] := by
  rw [build_run]
  dsimp only
  by_cases hall : (b.told request).all (TraceEntry.fitsIn s) = true
  · rw [if_pos hall, List.takeWhile_eq_self_iff.mpr (List.all_eq_true.mp hall)]
  · rw [if_neg hall, takeWhile_told (by simpa using hall)]

/-- The records of a build, by its result. -/
theorem logged_build_of_result (b : Builder) (request : Request) (s : Session) :
    (b.build request s).logged =
      if s.threshold = .debug then
        (b.toldUntil s request (b.build request s).result).map (TraceEntry.recordIn s.room)
      else [] := by
  rw [logged_build, build_run]
  dsimp only
  by_cases hall : (b.told request).all (TraceEntry.fitsIn s) = true
  · rw [if_pos hall, if_pos hall, ← b.told_eq_toldUntil s request]
  · rw [if_neg hall, if_neg hall]
    rfl

theorem logged_handle_congr {b : Builder} {s t : Session} (hthreshold : t.threshold = s.threshold)
    (hroom : t.room = s.room) (event : Event) :
    (b.handle event t).logged = (b.handle event s).logged := by
  cases event with
  | assign change => rfl
  | build request =>
    rw [handle_build, handle_build, build_run, build_run, fitsIn_congr hthreshold hroom, hthreshold,
      hroom]

/-- In a run every event leaves the records that it leaves alone. The induction is on the events:
none of them changes what the others depend on. -/
theorem logged_handleAll (b : Builder) (s : Session) (events : List Event) :
    (b.handleAll s events).map (·.logged) = events.map fun event => (b.handle event s).logged := by
  induction events generalizing s with
  | nil => rfl
  | cons event events ih =>
    obtain ⟨hthreshold, hroom⟩ := b.session_handle s event
    have hrest := ih (b.handle event s).session
    rw [List.map_congr_left fun other _ => logged_handle_congr hthreshold hroom other] at hrest
    rw [List.map_cons, ← hrest]
    rfl

end Builder

/-! ## The law -/

/-- Where everything gets through, and there is room for it, a build leaves these records in order:
the filter, if one is given and the words are accepted; its expression, if it was compiled then; and
the search string that the build hands back, if it does. If there is no room for the filter, or for
its expression, the build fails there for this reason, and leaves what came before. So the records
tell at which step the build failed. Under a coarser threshold a build leaves none. The same holds
of each build in any run of events. -/
theorem the_trace_tells_what_a_build_did (b : Builder) (s : Session) :
    (∀ request : Request,
      (b.build request s).logged =
        (if s.threshold = .debug then
          (if (b.told request).all (TraceEntry.fitsIn s) then
            Builder.filterTold request ++ b.expressionTold request
              ++ Builder.searchTold (b.build request s).result
          else Builder.toldInPart s request).map (TraceEntry.recordIn s.room)
        else [])) ∧
    (∀ request : Request,
      (b.build request s).logged =
        (if s.threshold = .debug then
          (b.toldUntil s request (b.build request s).result).map (TraceEntry.recordIn s.room)
        else [])) ∧
    (∀ request : Request,
      (b.build request s).result =
        if (b.told request).all (TraceEntry.fitsIn s) then b.answer request
        else .error (.log .tooDeep)) ∧
    (∀ search, TraceEntry.recordIn s.room (.search search) =
      ⟨.debug, "SearchQueryBuilder", some ("Search string: " ++ search)⟩) ∧
    ∀ events : List Builder.Event,
      (b.handleAll s events).map (·.logged) = events.map fun event => (b.handle event s).logged := by
  refine ⟨?_, ?_, ?_, ?_, b.logged_handleAll s⟩
  · intro request
    rw [b.logged_build, b.build_run]
    dsimp only
    by_cases hall : (b.told request).all (TraceEntry.fitsIn s) = true
    · rw [if_pos hall, if_pos hall, if_pos hall]
      rfl
    · rw [if_neg hall, if_neg hall]
  · exact fun request => b.logged_build_of_result request s
  · intro request
    rw [Builder.build_run]
  · intro search
    rw [TraceEntry.recordIn, TraceEntry.value, s.room.allow_text]
    rfl

/-- A range that does not end on a day fails after the filter was compiled. -/
example :
    (Builder.build ⟨Compiler.standard.map Part.text, ⟨"UTC", .fixed 0⟩, "%Y"⟩
      ⟨.text "a", .node (.string "b"), none, some (.other (.int 5))⟩
      ⟨.default, true, .debug, [], .limited 1000 4300⟩).logged =
        [⟨.debug, "SearchQueryBuilder", some "Filter ast: type='StringLiteral' value='b'"⟩,
          ⟨.debug, "SearchQueryBuilder", some "Filter expression: b"⟩] := by
  decide +kernel

/-- The filter is reached, and would compile, but it is not told, and there is no search string. -/
theorem a_deep_filter_is_not_told :
    let b : Builder := ⟨Compiler.standard.map Part.text, ⟨"UTC", .fixed 0⟩, "%Y"⟩
    let s : Session := ⟨.default, true, .debug, [], .limited 1000 4300⟩
    (negationSearch 2000).reachesFilter = true ∧
      b.compiler.compile (negationSearch 2000).filter = .ok (.text (minusSigns 2000)) ∧
      b.build (negationSearch 2000) s = ⟨.error (.log .tooDeep), [], s⟩ := by
  intro b s
  exact ⟨reachesFilter_negationSearch 2000, compile_negationSearch rfl 2000,
    build_negationSearch_of_debug rfl rfl rfl (by decide)⟩

end MailSearch
