-- Filters deeper than there is room for. The walk over a filter and the reading of its record take
-- any depth, but a message about it does not.
import MailSearch.Proofs.BuildSteps
import MailSearch.Proofs.Interchange
import MailSearch.Proofs.Spelling

namespace MailSearch

/-- A phrase, negated so many times. -/
def Filter.negations : Nat → Filter
  | 0 => .phrase "x"
  | n + 1 => .unary "NOT" (negations n)

/-- The phrase behind so many minus signs. -/
def minusSigns : Nat → String
  | 0 => "\"x\""
  | n + 1 => "-" ++ minusSigns n

theorem minusSigns_ne_empty (n : Nat) : minusSigns n ≠ "" := by
  cases n <;> simp [minusSigns]

theorem spelled_negations (headers : List String) (n : Nat) :
    Spelled headers (.negations n) (minusSigns n) := by
  induction n with
  | zero => exact .phrase "x"
  | succ n ih => exact .negated ih (minusSigns_ne_empty n)

theorem named_negations (n : Nat) : (Filter.negations n).Named := by
  induction n with
  | zero => trivial
  | succ n ih => exact ih

theorem holdsData_negations (n : Nat) : (Filter.negations n).HoldsData := by
  induction n with
  | zero => trivial
  | succ n ih => exact ih

/-- Negations compile at any depth, and their records as well. -/
theorem compile_negations (n : Nat) :
    Compiler.standard.compile (Filter.negations n).toRecord = .ok (minusSigns n) := by
  obtain ⟨fs, hrecord⟩ := toRecord_eq_record (.negations n)
  have hread := read_toRecord (named_negations n) (holdsData_negations n)
  rw [hrecord] at hread
  rw [hrecord, Compiler.compile_of_read hread]
  exact compile_eq_ok_iff.mpr ⟨spelled_negations _ n, minusSigns_ne_empty n⟩

/-- The record of as many negations as there are steps to go down has no room. The induction is on
the negations, each of them a record one step further down. -/
theorem fit_negations (digits : Nat) {left n : Nat} (h : left ≤ n) :
    (Filter.negations n).toRecord.fit digits left = .error .tooDeep := by
  induction n generalizing left with
  | zero =>
    obtain rfl := Nat.le_zero.mp h
    rw [Value.fit]
  | succ n ih =>
    match left, h with
    | 0, _ => rw [Value.fit]
    | 1, _ => simp [Filter.negations, Filter.toRecord, Value.fit, fitFields, bind, Except.bind]
    | left + 2, h =>
      have hoperand := ih (Nat.le_of_succ_le_succ h)
      simp [Filter.negations, Filter.toRecord, Value.fit, fitFields, bind, Except.bind, hoperand]

theorem allow_negations (digits : Nat) {depth n : Nat} (h : depth ≤ n) :
    (Room.limited depth digits).allow (Filter.negations n).toRecord = .error .tooDeep := by
  obtain ⟨fs, hrecord⟩ := toRecord_eq_record (.negations n)
  have hfit := fit_negations digits h
  rw [hrecord] at hfit ⊢
  exact hfit

/-! ## A search for negations -/

/-- A search for the record of a phrase that is negated so many times. -/
def negationSearch (n : Nat) : Request := ⟨.value .null, (Filter.negations n).toRecord, none, none⟩

theorem reachesFilter_negationSearch (n : Nat) : (negationSearch n).reachesFilter = true := by
  obtain ⟨fs, hrecord⟩ := toRecord_eq_record (.negations n)
  simp [Request.reachesFilter, negationSearch, hrecord, Value.isNull, Part.areWords,
    Part.isTruthy, Value.isTruthy]

section
variable {b : Builder} (hcompiler : b.compiler = Compiler.standard.map Part.text) (n : Nat)
include hcompiler

theorem compile_negationSearch :
    b.compiler.compile (negationSearch n).filter = .ok (.text (minusSigns n)) := by
  rw [hcompiler, CompilerOf.compile_map, negationSearch, compile_negations]
  rfl

theorem answer_negationSearch : b.answer (negationSearch n) = .ok (minusSigns n) := by
  have hfilter : (negationSearch n).filter ≠ .null := by
    obtain ⟨fs, hrecord⟩ := toRecord_eq_record (.negations n)
    simp [negationSearch, hrecord]
  unfold Builder.answer
  rw [Builder.compiledPart_of_ne_null hfilter, compile_negationSearch hcompiler]
  exact Builder.joinParts_text (minusSigns n)

theorem told_negationSearch :
    b.told (negationSearch n) =
      [.filter (Filter.negations n).toRecord, .expression (.text (minusSigns n)),
        .search (minusSigns n)] := by
  unfold Builder.told Builder.filterTold Builder.expressionTold
  rw [reachesFilter_negationSearch, compile_negationSearch hcompiler, answer_negationSearch hcompiler]
  rfl

theorem build_negationSearch_of_coarser {s : Session} (h : s.threshold ≠ .debug) :
    b.build (negationSearch n) s = ⟨.ok (minusSigns n), [], s⟩ := by
  have hfits : (b.told (negationSearch n)).all (TraceEntry.fitsIn s) = true :=
    List.all_eq_true.mpr fun entry _ => TraceEntry.fitsIn_of_coarser h entry
  rw [Builder.build_run, if_pos hfits, if_neg h, answer_negationSearch hcompiler]

/-- Where debugging gets through, the search fails before anything is told. -/
theorem build_negationSearch_of_debug {s : Session} (h : s.threshold = .debug)
    {depth digits n : Nat} (hroom : s.room = .limited depth digits) (hn : depth ≤ n) :
    b.build (negationSearch n) s = ⟨.error (.log .tooDeep), [], s⟩ := by
  have hfilter : (TraceEntry.filter (Filter.negations n).toRecord).fitsIn s = false := by
    rw [TraceEntry.fitsIn_eq_false_iff, TraceEntry.value, hroom]
    exact ⟨h, allow_negations digits hn⟩
  rw [Builder.build_run, told_negationSearch hcompiler]
  simp [hfilter]

end

end MailSearch
