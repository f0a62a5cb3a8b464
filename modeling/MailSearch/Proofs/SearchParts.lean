-- The parts of a search string. A search asks for up to four things: plain words, a filter, a
-- start and a stop. What comes of it comes of four searches that ask for one of them each: the
-- first failure of a step, or else the first failure of a join, or else their texts with one blank
-- between them. A filter leaves a text always.
import MailSearch.Proofs.BuildSteps
import MailSearch.Proofs.CalendarDays
import MailSearch.Proofs.HeaderSets

namespace MailSearch

/-! ## Requests -/

/-- The requests that ask for one of the four things each, in the order of a search string. -/
def Request.parts : Request → List Request
  | ⟨words, filter, start, stop⟩ =>
    [⟨words, .null, none, none⟩, ⟨.value .null, filter, none, none⟩,
      ⟨.value .null, .null, start, none⟩, ⟨.value .null, .null, none, stop⟩]

/-! ## Results as one -/

/-- Does a build fail so because its parts cannot be joined? -/
def BuildFault.isOfJoin : BuildFault → Bool
  | .partNoText _ _ => true
  | _ => false

/-- The failure of a result, if a step failed and not the join. -/
def stepFault? : Except BuildFault α → Option BuildFault
  | .error fault => if fault.isOfJoin then none else some fault
  | .ok _ => none

/-- A failure of a join, with so many parts more in front. -/
def BuildFault.behind (place : Nat) : BuildFault → BuildFault
  | .partNoText own typeName => .partNoText (place + own) typeName
  | fault => fault

/-- The texts of some results, as far as they are not empty, or the first failure. There are so
many parts in front. -/
def textsBehind (place : Nat) : List (Except BuildFault String) → Except BuildFault (List String)
  | [] => .ok []
  | .error fault :: _ => .error (fault.behind place)
  | .ok text :: rest =>
    if text = "" then textsBehind place rest
    else (textsBehind (place + 1) rest).map (text :: ·)

/-- Some results as one: the first failure of a step. If there is none, the first failure of a
join, at its place among the parts of all. Or else the texts with one blank between them, as far as
they are not empty. -/
def joined (results : List (Except BuildFault String)) : Except BuildFault String :=
  match results.findSome? stepFault? with
  | some fault => .error fault
  | none => (textsBehind 0 results).map (" ".intercalate ·)

/-- Some results as one, with every failure in its turn: the first failure of any kind, or else the
texts. -/
def inTurn (results : List (Except BuildFault String)) : Except BuildFault String := do
  let texts ← results.mapM id
  return " ".intercalate (texts.filter (· ≠ ""))

theorem mapM_id_eq_ok_iff {results : List (Except ε α)} {values : List α} :
    results.mapM id = .ok values ↔ results = values.map .ok := by
  induction results generalizing values with
  | nil => cases values <;> simp
  | cons result rest ih =>
    rw [List.mapM_cons, id_eq, bind_eq_ok_iff]
    constructor
    · rintro ⟨value, rfl, h⟩
      obtain ⟨others, hothers, h⟩ := bind_eq_ok_iff.mp h
      cases h
      rw [ih.mp hothers, List.map_cons]
    · intro h
      cases values with
      | nil => cases h
      | cons value others =>
        rw [List.map_cons, List.cons.injEq] at h
        refine ⟨value, h.1, ?_⟩
        rw [ih.mpr h.2]
        rfl

/-- Without failures of joins, the first failure of all is that of a step. -/
theorem findSome?_stepFault? {results : List (Except BuildFault α)}
    (h : ∀ fault, .error fault ∈ results → fault.isOfJoin = false) :
    results.findSome? stepFault? =
      match results.mapM id with
      | .error fault => some fault
      | .ok _ => none := by
  induction results with
  | nil => rfl
  | cons result rest ih =>
    rw [List.findSome?_cons, List.mapM_cons, id_eq]
    rcases result with fault | a
    · rw [stepFault?, h fault List.mem_cons_self]
      rfl
    · rw [stepFault?, ok_bind, ih fun fault hfault => h fault (List.mem_cons_of_mem _ hfault)]
      rcases rest.mapM id with fault | others <;> rfl

theorem textsBehind_map_ok (place : Nat) (texts : List String) :
    textsBehind place (texts.map .ok) = .ok (texts.filter (· ≠ "")) := by
  induction texts generalizing place with
  | nil => rfl
  | cons text rest ih =>
    rw [List.map_cons, textsBehind, ih, ih]
    by_cases hempty : text = "" <;> simp [hempty]

/-- Without failures of joins, failures come in their turn. -/
theorem joined_eq_inTurn {results : List (Except BuildFault String)}
    (h : ∀ fault, .error fault ∈ results → fault.isOfJoin = false) :
    joined results = inTurn results := by
  unfold joined inTurn
  rw [findSome?_stepFault? h]
  rcases htexts : results.mapM id with fault | texts
  · rfl
  · rw [mapM_id_eq_ok_iff.mp htexts, textsBehind_map_ok]
    rfl

namespace Builder

/-! ## Joining -/

/-- The texts of parts, or the first part that is no text, with so many parts in front. -/
def textsOf (place : Nat) (parts : List Part) : Except BuildFault (List String) :=
  match Part.firstNoText? place (parts.filter Part.isTruthy) with
  | none => .ok ((parts.filter Part.isTruthy).filterMap Part.text?)
  | some (place, typeName) => .error (.partNoText place typeName)

theorem joinParts_eq_textsOf (parts : List Part) :
    joinParts parts = (textsOf 0 parts).map (" ".intercalate ·) := by
  rw [joinParts_eq, textsOf]
  rcases Part.firstNoText? 0 (parts.filter Part.isTruthy) with _ | ⟨place, typeName⟩ <;> rfl

/-- The texts of a part and others come of the search for it alone and of the others. -/
theorem textsOf_cons (place : Nat) (part : Part) (rest : List Part) :
    textsOf place (part :: rest) =
      match joinParts [part] with
      | .error fault => .error (fault.behind place)
      | .ok text =>
        if text = "" then textsOf place rest
        else (textsOf (place + 1) rest).map (text :: ·) := by
  rw [joinParts_singleton]
  unfold textsOf
  by_cases htrue : part.isTruthy = true
  · rw [if_pos htrue, List.filter_cons_of_pos htrue, Part.firstNoText?]
    rcases htext : part.text? with _ | text
    · rfl
    · dsimp only
      rw [if_neg ((isTruthy_of_text? htext).mp htrue), List.filterMap_cons, htext]
      rcases Part.firstNoText? (place + 1) (rest.filter Part.isTruthy) with _ | ⟨found, typeName⟩ <;>
        rfl
  · rw [if_neg htrue, List.filter_cons_of_neg (by simpa using htrue)]
    rfl

/-! ## Steps -/

theorem stepFault?_joinParts (step : Except BuildFault (List Part)) :
    stepFault? (step >>= joinParts) = stepFault? step := by
  rcases step with fault | parts
  · rfl
  · rw [ok_bind, joinParts_eq]
    split <;> rfl

/-- Parts that come one by one, or not at all, may be joined on their own first. The induction is
on them, with any number of parts in front. -/
theorem textsBehind_joinParts {parts : List (List Part)} (h : ∀ part ∈ parts, part.length ≤ 1)
    (place : Nat) : textsBehind place (parts.map joinParts) = textsOf place parts.flatten := by
  induction parts generalizing place with
  | nil => rfl
  | cons part rest ih =>
    have hrest := ih fun other hother => h other (List.mem_cons_of_mem _ hother)
    have hlength := h part List.mem_cons_self
    rw [List.map_cons, List.flatten_cons]
    match part, hlength with
    | [], _ => exact hrest place
    | [single], _ =>
      rw [List.singleton_append, textsOf_cons]
      rcases joinParts [single] with fault | text
      · rfl
      · rw [textsBehind, hrest, hrest]

/-- A step gives one part at most, and does not fail as a join does. -/
def IsStep (step : Except BuildFault (List Part)) : Prop :=
  match step with
  | .error fault => fault.isOfJoin = false
  | .ok parts => parts.length ≤ 1

/-- What is joined of steps is joined of what they give one by one. -/
theorem joined_steps {steps : List (Except BuildFault (List Part))}
    (h : ∀ step ∈ steps, IsStep step) :
    joined (steps.map (· >>= joinParts)) =
      steps.mapM id >>= fun parts => joinParts parts.flatten := by
  have hfault : (steps.map (· >>= joinParts)).findSome? stepFault? =
      steps.findSome? stepFault? := by
    rw [List.findSome?_map]
    exact congrArg (List.findSome? · steps) (funext stepFault?_joinParts)
  unfold joined
  rw [hfault, findSome?_stepFault? fun fault hmem => h _ hmem]
  rcases hsteps : steps.mapM id with fault | parts
  · rfl
  · obtain rfl := mapM_id_eq_ok_iff.mp hsteps
    have hlength : ∀ part ∈ parts, part.length ≤ 1 := fun part hpart =>
      h (.ok part) (List.mem_map_of_mem hpart)
    rw [ok_bind, joinParts_eq_textsOf, ← textsBehind_joinParts hlength, List.map_map]
    rfl

/-! ## The steps of a build -/

/-- What the steps of a build come to in a session, in order. -/
def steps (b : Builder) (s : Session) (request : Request) : List (Except BuildFault (List Part)) :=
  [wordsPart request.words, (b.filterPart request.filter s).result, b.startPart request.start,
    b.stopPart request.stop]

/-- A filter as a part: its entries have to fit, and it has to compile. -/
theorem result_filterPart (b : Builder) (v : Value) (s : Session) :
    (b.filterPart v s).result = .error (.log .tooDeep) ∨
      (b.filterPart v s).result = b.compiledPart v := by
  by_cases hv : v = .null
  · exact .inr (by rw [hv]; rfl)
  rw [filterPart_of_ne_null hv, compiledPart_of_ne_null hv, Work.bind_run, TraceEntry.tell_run]
  by_cases hfits : (TraceEntry.filter v).fitsIn s = true
  · rw [if_pos hfits]
    rcases b.compiler.compile v with fault | part
    · exact .inr rfl
    · dsimp only
      rw [Work.bind_run, TraceEntry.tell_run]
      by_cases hpart : (TraceEntry.expression part).fitsIn s = true
      · rw [if_pos hpart]
        exact .inr rfl
      · rw [if_neg hpart]
        exact .inl rfl
  · rw [if_neg hfits]
    exact .inl rfl

theorem isStep_compiledPart (b : Builder) (v : Value) : IsStep (b.compiledPart v) := by
  unfold compiledPart
  split
  · exact Nat.zero_le _
  · split
    · exact Nat.le_refl _
    · rfl

theorem isStep_endPart (b : Builder) (label : String) (dayOf : Bound → Except BoundFault Date)
    (bound : Option Bound) : IsStep (b.endPart label dayOf bound) := by
  rcases b.endPart_cases label dayOf bound with ⟨texts, hlength, htexts⟩ | ⟨own, hown⟩
  · rw [htexts, IsStep, List.length_map]
    exact hlength
  · rw [hown]
    rfl

theorem isStep_of_mem_steps {b : Builder} {s : Session} {request : Request}
    {step : Except BuildFault (List Part)} (h : step ∈ b.steps s request) : IsStep step := by
  simp only [steps, List.mem_cons, List.not_mem_nil, or_false] at h
  rcases h with rfl | rfl | rfl | rfl
  · unfold wordsPart
    split
    · split
      · exact Nat.le_refl _
      · rfl
    · exact Nat.zero_le _
  · rcases b.result_filterPart request.filter s with hfilter | hfilter
    · rw [hfilter]
      rfl
    · rw [hfilter]
      exact b.isStep_compiledPart request.filter
  · exact b.isStep_endPart _ _ request.start
  · exact b.isStep_endPart _ _ request.stop

theorem result_build (b : Builder) (request : Request) (s : Session) :
    (b.build request s).result =
      (b.steps s request).mapM id >>= fun parts => joinParts parts.flatten := by
  rw [result_build_bind]
  unfold steps ending
  simp only [List.mapM_cons, List.mapM_nil, id_eq]
  rcases wordsPart request.words with fault | words
  · rfl
  rcases (b.filterPart request.filter s).result with fault | filter
  · rfl
  rcases b.startPart request.start with fault | start
  · rfl
  rcases b.stopPart request.stop with fault | stop
  · rfl
  simp

/-- A search for one thing gives the step that is about it, joined. -/
theorem results_parts (b : Builder) (request : Request) (s : Session) :
    request.parts.map (fun part => (b.build part s).result) =
      (b.steps s request).map (· >>= joinParts) := by
  obtain ⟨words, filter, start, stop⟩ := request
  have hnothing : (b.filterPart .null s).result = .ok [] := rfl
  simp only [Request.parts, steps, List.map_cons, List.map_nil, result_build_bind, ending,
    wordsPart_null, hnothing, startPart_none, stopPart_none, ok_bind, List.append_nil,
    List.nil_append]

theorem result_build_eq_joined (b : Builder) (request : Request) (s : Session) :
    (b.build request s).result =
      joined (request.parts.map fun part => (b.build part s).result) := by
  rw [results_parts, joined_steps fun step hstep => isStep_of_mem_steps hstep, result_build]

/-! ## Filters that are given -/

/-- What is compiled for the mail search grammar, over any headers, is a text that is not empty. -/
theorem exists_of_compile {name : String} {headers : List String} {v : Value} {part : Part}
    (h : ((Compiler.ofHeaders name headers).map Part.text).compile v = .ok part) :
    ∃ s, part = .text s ∧ s ≠ "" := by
  rw [CompilerOf.compile_map] at h
  obtain ⟨s, hs, rfl⟩ := map_eq_ok_iff.mp h
  refine ⟨s, rfl, ?_⟩
  rcases hv : Compiler.nodeOf v with fault | f | n
  · rw [Compiler.compile_of_nodeOf_error hv] at hs
    cases hs
  · rw [Compiler.compile_of_nodeOf hv] at hs
    exact (compile_ofHeaders_eq_ok_iff.mp hs).2
  · rw [Compiler.compile_of_nodeOf hv, Node.toValue, Compiler.compile_foreign] at hs
    cases hs

/-- A text that is not empty is in every search string that it is a part of. -/
theorem exists_of_joinParts {s search : String} (hs : s ≠ "") {parts later : List Part}
    (h : joinParts (parts ++ .text s :: later) = .ok search) :
    ∃ before behind, search = " ".intercalate (before ++ s :: behind) := by
  have htrue : (Part.text s).isTruthy = true := (isTruthy_of_text? rfl).mpr hs
  rw [joinParts_eq] at h
  split at h
  · obtain rfl := Except.ok.inj h
    rw [List.filter_append, List.filter_cons_of_pos htrue, List.filterMap_append]
    exact ⟨_, _, rfl⟩
  · cases h

/-- A filter that is a text is in the search string unless it is empty. -/
theorem exists_of_result_build {b : Builder} {request : Request} {s : Session} {search : String}
    (h : (b.build request s).result = .ok search) :
    ∃ filter, (b.filterPart request.filter s).result = .ok filter ∧
      ∀ text, filter = [.text text] → text ≠ "" →
        ∃ before behind, search = " ".intercalate (before ++ text :: behind) := by
  rw [result_build_bind] at h
  obtain ⟨words, -, h⟩ := bind_eq_ok_iff.mp h
  obtain ⟨filter, hfilter, h⟩ := bind_eq_ok_iff.mp h
  obtain ⟨start, -, h⟩ := bind_eq_ok_iff.mp h
  obtain ⟨stop, -, h⟩ := bind_eq_ok_iff.mp h
  refine ⟨filter, hfilter, ?_⟩
  rintro text rfl htext
  rw [List.append_assoc, List.append_assoc, List.singleton_append] at h
  exact exists_of_joinParts htext h

/-- A filter that is given comes to one part: its expression. -/
theorem exists_of_filterPart {b : Builder} {v : Value} {s : Session} {filter : List Part}
    (hv : v ≠ .null) (h : (b.filterPart v s).result = .ok filter) :
    ∃ part, filter = [part] ∧ b.compiler.compile v = .ok part := by
  rcases b.result_filterPart v s with hfilter | hfilter
  · rw [hfilter] at h
    cases h
  · rw [hfilter, compiledPart_of_ne_null hv] at h
    split at h
    · rename_i part hpart
      exact ⟨part, (Except.ok.inj h).symm, hpart⟩
    · cases h

/-- A search for a filter alone gives its expression. -/
theorem result_build_filter {b : Builder} {v : Value} {s : Session} {text : String}
    (h : (b.filterPart v s).result = .ok [.text text]) :
    (b.build ⟨.value .null, v, none, none⟩ s).result = .ok text := by
  rw [result_build_bind, wordsPart_null, ok_bind, h, ok_bind]
  unfold ending
  rw [startPart_none, stopPart_none, ok_bind, ok_bind]
  simp only [List.append_nil, List.nil_append]
  exact joinParts_text text

end Builder

/-! ## The law -/

/-- What comes of a search comes of the four searches that ask for one thing each, in whatever
session they are built. It is the first failure of a step; if no step fails, the first failure of a
join, at its place among the parts; or else the texts with one blank between them, as far as they
are not empty. If none of the four fails at the join, every failure comes in its turn. All this is
so with every compiler. One for the mail search grammar, over any headers, makes a text that is not
empty of every filter that is given, and this text stands in the search string. -/
theorem a_search_comes_of_its_parts :
    (∀ (b : Builder) (request : Request) (s : Session),
      (b.build request s).result =
          joined (request.parts.map fun part => (b.build part s).result) ∧
        ((∀ part ∈ request.parts, ∀ fault, (b.build part s).result = .error fault →
            fault.isOfJoin = false) →
          (b.build request s).result =
            inTurn (request.parts.map fun part => (b.build part s).result))) ∧
    ∀ (b : Builder) (name : String) (headers : List String) (request : Request) (s : Session)
      (search : String),
      b.compiler = (Compiler.ofHeaders name headers).map Part.text → request.filter ≠ .null →
        (b.build request s).result = .ok search →
          ∃ expression before behind,
            (b.build ⟨.value .null, request.filter, none, none⟩ s).result = .ok expression ∧
              expression ≠ "" ∧ search = " ".intercalate (before ++ expression :: behind) := by
  refine ⟨?_, ?_⟩
  · intro b request s
    refine ⟨b.result_build_eq_joined request s, fun hjoin => ?_⟩
    rw [b.result_build_eq_joined, joined_eq_inTurn]
    intro fault hfault
    obtain ⟨part, hpart, hresult⟩ := List.mem_map.mp hfault
    exact hjoin part hpart fault hresult
  · intro b name headers request s search hcompiler hfilter hsearch
    obtain ⟨filter, hpart, hin⟩ := Builder.exists_of_result_build hsearch
    obtain ⟨part, rfl, hcompile⟩ := Builder.exists_of_filterPart hfilter hpart
    rw [hcompiler] at hcompile
    obtain ⟨expression, rfl, hne⟩ := Builder.exists_of_compile hcompile
    obtain ⟨before, behind, htext⟩ := hin expression rfl hne
    exact ⟨expression, before, behind, Builder.result_build_filter hpart, hne, htext⟩

/-- A session in which nothing happened yet. -/
def newSession : Session := .initial (.limited 1000 4300)

/-- A builder that can look for senders only. -/
def senderMail : Builder :=
  ⟨(Compiler.ofHeaders "HeadersCompiler" ["from"]).map Part.text, ⟨"UTC", .fixed 0⟩, "%Y/%m/%d"⟩

/-- All but blanks, none of the mail of a sender, and a day to start from. -/
def blankRequest : Request :=
  ⟨.text " \t ", .node (.unary "NOT" (.binary "=~" (.field "from") (.string ""))),
    some (.day ⟨2024, 2, 29, by decide⟩), none⟩

theorem a_search_keeps_its_filter :
    senderMail.compiler = (Compiler.ofHeaders "HeadersCompiler" ["from"]).map Part.text ∧
      blankRequest.filter ≠ .null ∧
      (senderMail.build blankRequest newSession).result = .ok "-from:\"\" after:2024/02/29" ∧
      ∃ expression before behind,
        (senderMail.build ⟨.value .null, blankRequest.filter, none, none⟩ newSession).result =
            .ok expression ∧
          expression ≠ "" ∧
            "-from:\"\" after:2024/02/29" = " ".intercalate (before ++ expression :: behind) := by
  have hfilter : blankRequest.filter ≠ .null := by simp [blankRequest]
  have hsearch : (senderMail.build blankRequest newSession).result =
      .ok "-from:\"\" after:2024/02/29" := eq_ok_iff_toOption.2 (by decide +kernel)
  exact ⟨rfl, hfilter, hsearch, a_search_comes_of_its_parts.2 senderMail _ _ blankRequest newSession
    _ rfl hfilter hsearch⟩

/-- Octets pass for words until the parts are to be joined. -/
example :
    (Builder.build ⟨Compiler.standard.map Part.text, ⟨"UTC", .fixed 0⟩, "%Y"⟩
      ⟨.bytes [0x78], .null, none, some (.other (.int 5))⟩
      (.initial (.limited 1000 4300))).result = .error (.bound (.noDayAfter (.int 5))) := rfl

/-- A builder whose compiler answers with a number. -/
def numberMail : Builder :=
  ⟨Compiler.constant "FixedCompiler" (.value (.int 5)), ⟨"UTC", .fixed 0⟩, "%Y/%m/%d"⟩

/-- A filter, and an end that no day follows. -/
def endlessRequest : Request := ⟨.value .null, .node (.phrase "a"), none, some (.day .last)⟩

theorem a_join_fails_after_the_end :
    (numberMail.build endlessRequest newSession).result = .error (.bound .outOfCalendar) ∧
      inTurn (endlessRequest.parts.map fun part => (numberMail.build part newSession).result) =
        .error (.partNoText 0 "int") ∧
      (numberMail.build endlessRequest newSession).result ≠
        inTurn (endlessRequest.parts.map fun part => (numberMail.build part newSession).result) := by
  have hwhole : (numberMail.build endlessRequest newSession).result =
      .error (.bound .outOfCalendar) := by rfl
  have hturn :
      inTurn (endlessRequest.parts.map fun part => (numberMail.build part newSession).result) =
        .error (.partNoText 0 "int") := by rfl
  refine ⟨hwhole, hturn, ?_⟩
  rw [hwhole, hturn]
  simp

end MailSearch
