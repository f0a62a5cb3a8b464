-- Which fault a reading ends with. A reading visits the parts of a value before the value, from
-- left to right, and it ends with the fault of the first visited value that cannot be read.
-- Whatever the reading did not come to, and whatever the records around that value hold besides
-- their parts, makes no difference.
import MailSearch.Proofs.Interchange

namespace MailSearch

/-! ## Visits -/

/-- What stands in the place of a child, if anything does. -/
def Fields.partAt (fs : Fields) (place : ChildPlace) : List (ChildPlace × Value) :=
  ((Fields.get? fs place.name).map (place, ·)).toList

/-- The parts of a value that are filters of their own, from left to right: the operand of a unary
expression, and the left and the right side of a binary one. A part may be missing. -/
def Value.parts : Value → List (ChildPlace × Value)
  | .record fs =>
    match Fields.get? fs "type" with
    | some (.text s) =>
      if s = "UnaryExpr" then Fields.partAt fs .operand
      else if s = "BinaryExpr" then Fields.partAt fs .left ++ Fields.partAt fs .right
      else []
    | _ => []
  | _ => []

theorem size_of_mem_partAt {fs : Fields} {place : ChildPlace} {part : ChildPlace × Value}
    (h : part ∈ Fields.partAt fs place) : part.2.size < (Value.record fs).size := by
  rcases hget : Fields.get? fs place.name with _ | w
  · simp [Fields.partAt, hget] at h
  · obtain rfl : part = (place, w) := by simpa [Fields.partAt, hget] using h
    have := Fields.size_get? hget
    simp only [Value.size]
    omega

theorem size_of_mem_parts {v : Value} {part : ChildPlace × Value} (h : part ∈ v.parts) :
    part.2.size < v.size := by
  unfold Value.parts at h
  split at h
  · split at h
    · split at h
      · exact size_of_mem_partAt h
      · split at h
        · rcases List.mem_append.mp h with h | h
          · exact size_of_mem_partAt h
          · exact size_of_mem_partAt h
        · cases h
    · cases h
  · cases h

/-- The values that a reading visits, each with the way to it: what is visited in every part, and
the value itself behind them. -/
def Value.visits (v : Value) : List (List ChildPlace × Value) :=
  (v.parts.attach.flatMap fun part =>
    part.1.2.visits.map fun visit => (part.1.1 :: visit.1, visit.2)) ++ [([], v)]
termination_by v.size
decreasing_by exact size_of_mem_parts part.2

/-- The values that are visited in one part. -/
def visitsIn (part : ChildPlace × Value) : List (List ChildPlace × Value) :=
  part.2.visits.map fun visit => (part.1 :: visit.1, visit.2)

theorem visits_eq (v : Value) : v.visits = v.parts.flatMap visitsIn ++ [([], v)] := by
  rw [Value.visits, List.flatMap_subtype (g := visitsIn) (fun _ _ => rfl), List.unattach_attach]

/-! ## The parts are what is read first -/

namespace Reading

theorem map_partAt (fs : Fields) (place : ChildPlace) :
    (Fields.partAt fs place).map (·.2) = (Fields.get? fs place.name).toList := by
  rcases h : Fields.get? fs place.name with _ | v <;> simp [Fields.partAt, h]

theorem childrenIn_unary (fs : Fields) :
    childrenIn .unary fs = (Fields.partAt fs .operand).map (·.2) := by
  rw [map_partAt]
  rcases h : Fields.get? fs "operand" with _ | v <;>
    simp [childrenIn, presentChildren, Kind.childNames, ChildPlace.name, h]

theorem childrenIn_binary (fs : Fields) :
    childrenIn .binary fs = (Fields.partAt fs .left ++ Fields.partAt fs .right).map (·.2) := by
  rw [List.map_append, map_partAt, map_partAt]
  rcases hl : Fields.get? fs "left" with _ | v <;> rcases hr : Fields.get? fs "right" with _ | w <;>
    simp [childrenIn, presentChildren, Kind.childNames, ChildPlace.name, hl, hr]

/-- The parts of a value are the children that its reading looks at. -/
theorem children_eq (v : Value) : children v = v.parts.map (·.2) := by
  cases v with
  | record fs =>
    rcases ht : Fields.get? fs "type" with _ | t
    · simp [children, expression?, Value.parts, ht]
    · cases t with
      | text s =>
        by_cases hu : s = "UnaryExpr"
        · subst hu
          simp [children, expression?, Value.parts, ht, Value.notAKey?, Kind.name,
            childrenIn_unary]
        · by_cases hb : s = "BinaryExpr"
          · subst hb
            simp [children, expression?, Value.parts, ht, Value.notAKey?, Kind.name,
              childrenIn_binary]
          · simp [children, expression?, Value.parts, ht, Value.notAKey?, Kind.name, hu, hb]
      | _ =>
        unfold children
        split
        · rename_i k gs he
          obtain ⟨hgs, htype, -⟩ := expression?_eq_some_iff.mp he
          cases hgs
          cases ht.symm.trans htype
        · simp [Value.parts, ht]
  | _ => rfl

/-- A value is read with the fault of a part if everything on the left of that part can be read. -/
theorem read_eq_error_of_part {v : Value} {before after : List (ChildPlace × Value)}
    {part : ChildPlace × Value} {fault : ReadFault} (h : v.parts = before ++ part :: after)
    (hbefore : ∀ other ∈ before, ∃ node, other.2.read = .ok node)
    (hpart : part.2.read = .error fault) : v.read = .error fault := by
  have hchildren := children_eq v
  rw [h, List.map_append, List.map_cons] at hchildren
  have hall : readAll (children v) = .error fault := by
    rw [hchildren]
    apply readAll_eq_error_of _ hpart
    intro u hu
    obtain ⟨other, hother, rfl⟩ := List.mem_map.mp hu
    exact hbefore other hother
  unfold children at hall
  split at hall
  · rename_i k fs he
    rw [read_expression he, hall]
    rfl
  · cases hall

end Reading

/-! ## The same way -/

/-- Two values agree on a way: they have the same parts on the left of it, at every step, and it
leads to the same value. Nothing is said of the parts on the right of the way, which may differ or
be missing, nor of what the records on the way hold besides their parts. -/
inductive SameWay : List ChildPlace → Value → Value → Prop
  | here (s : Value) : SameWay [] s s
  | within {d e v w : Value} {before after after' : List (ChildPlace × Value)}
      {place : ChildPlace} {path : List ChildPlace} :
      d.parts = before ++ (place, v) :: after → e.parts = before ++ (place, w) :: after' →
      SameWay path v w → SameWay (place :: path) d e

theorem sameWay_self {d s : Value} {path : List ChildPlace} (h : (path, s) ∈ d.visits) :
    SameWay path d d := by
  induction path generalizing d with
  | nil => exact .here d
  | cons place path ih =>
    rw [visits_eq, List.mem_append, List.mem_flatMap] at h
    rcases h with ⟨⟨other, v⟩, hpart, hvisit⟩ | h
    · simp only [visitsIn, List.mem_map, Prod.mk.injEq, List.cons.injEq] at hvisit
      obtain ⟨⟨path, s⟩, hmem, ⟨rfl, rfl⟩, rfl⟩ := hvisit
      obtain ⟨before, after, hparts⟩ := List.mem_iff_append.mp hpart
      exact .within hparts hparts (ih hmem)
    · simp at h

/-! ## The first failure -/

/-- Does the reading of a value fail? -/
def Value.fails (v : Value) : Bool := !v.read.isOk

/-- The first visited value whose reading fails, with the way to it. -/
def Value.firstFailure? (v : Value) : Option (List ChildPlace × Value) :=
  v.visits.find? fun visit => visit.2.fails

theorem fails_iff {v : Value} : v.fails = true ↔ ∃ fault, v.read = .error fault := by
  rcases h : v.read with fault | node <;> simp [Value.fails, h, Except.isOk, Except.toBool]

theorem firstFailure?_fails {v s : Value} {path : List ChildPlace}
    (h : v.firstFailure? = some (path, s)) : s.fails = true := by
  simpa using List.find?_some h

/-- A value is among its own visits, so nothing fails only if the value itself can be read. -/
theorem read_of_firstFailure?_eq_none {v : Value} (h : v.firstFailure? = none) :
    ∃ node, v.read = .ok node := by
  have hself : ([], v) ∈ v.visits := by
    rw [visits_eq]
    simp
  have hv : ¬ v.fails = true := List.find?_eq_none.mp h _ hself
  rcases hread : v.read with fault | node
  · exact absurd (fails_iff.mpr ⟨fault, hread⟩) hv
  · exact ⟨node, rfl⟩

/-- The first failure of a part is the first one among the visits in it. -/
theorem find?_visitsIn (part : ChildPlace × Value) :
    (visitsIn part).find? (fun visit => visit.2.fails) =
      part.2.firstFailure?.map fun visit => (part.1 :: visit.1, visit.2) := by
  rw [visitsIn, List.find?_map]
  rfl

theorem read_of_find?_visitsIn {part : ChildPlace × Value}
    (h : (visitsIn part).find? (fun visit => visit.2.fails) = none) :
    ∃ node, part.2.read = .ok node := by
  rw [find?_visitsIn, Option.map_eq_none_iff] at h
  exact read_of_firstFailure?_eq_none h

/-- The first failure is that of the first part that has one, or the value itself if all parts can
be read. -/
theorem firstFailure?_cases {v s : Value} {path : List ChildPlace}
    (h : v.firstFailure? = some (path, s)) :
    (∃ before place w after rest, v.parts = before ++ (place, w) :: after ∧
        (∀ other ∈ before, ∃ node, other.2.read = .ok node) ∧ path = place :: rest ∧
        w.firstFailure? = some (rest, s)) ∨
      (path = [] ∧ s = v ∧ ∀ part ∈ v.parts, ∃ node, part.2.read = .ok node) := by
  rw [Value.firstFailure?, visits_eq, List.find?_append, Option.or_eq_some_iff,
    List.find?_flatMap] at h
  rcases h with h | ⟨hnone, h⟩
  · left
    obtain ⟨before, ⟨place, w⟩, after, hparts, hfound, hbefore⟩ := List.findSome?_eq_some_iff.mp h
    rw [find?_visitsIn, Option.map_eq_some_iff] at hfound
    obtain ⟨⟨rest, t⟩, hfirst, heq⟩ := hfound
    cases heq
    refine ⟨before, place, w, after, rest, hparts, ?_, rfl, hfirst⟩
    intro other hother
    exact read_of_find?_visitsIn (hbefore other hother)
  · right
    simp only [List.find?_singleton, Option.ite_none_right_eq_some, Option.some.injEq,
      Prod.mk.injEq] at h
    refine ⟨h.2.1.symm, h.2.2.symm, ?_⟩
    intro part hpart
    exact read_of_find?_visitsIn (List.findSome?_eq_none_iff.mp hnone part hpart)

/-- No two parts of a value stand in one place. -/
theorem nodup_places (v : Value) : (v.parts.map (·.1)).Nodup := by
  have hmap : ∀ (fs : Fields) (place : ChildPlace),
      (Fields.partAt fs place).map (·.1) = [] ∨
        (Fields.partAt fs place).map (·.1) = [place] := by
    intro fs place
    rcases h : Fields.get? fs place.name with _ | w <;> simp [Fields.partAt, h]
  unfold Value.parts
  split
  · rename_i fs
    split
    · split
      · rcases hmap fs .operand with h | h <;> simp [h]
      · split
        · rcases hmap fs .left with hl | hl <;> rcases hmap fs .right with hr | hr <;>
            simp [hl, hr]
        · simp
    · simp
  · simp

/-- So what stands on the left of a place is known from the place. -/
theorem eq_before_of_nodup {before before' after after' : List (ChildPlace × Value)}
    {place : ChildPlace} {v w : Value}
    (hnodup : ((before ++ (place, v) :: after).map (·.1)).Nodup)
    (h : before ++ (place, v) :: after = before' ++ (place, w) :: after') :
    before = before' ∧ v = w := by
  induction before generalizing before' with
  | nil =>
    cases before' with
    | nil =>
      cases h
      exact ⟨rfl, rfl⟩
    | cons other before' =>
      cases h
      simp at hnodup
  | cons other before ih =>
    cases before' with
    | nil =>
      cases h
      simp at hnodup
    | cons other' before' =>
      simp only [List.cons_append, List.cons.injEq] at h
      obtain ⟨rfl, h⟩ := h
      obtain ⟨rfl, rfl⟩ := ih (List.nodup_cons.mp hnodup).2 h
      exact ⟨rfl, rfl⟩

/-- The induction is on the way: at every step the parts on the left of it can be read, in the one
value as in the other, and the part in its place ends with the fault. -/
theorem read_of_sameWay {d e s : Value} {path : List ChildPlace} {fault : ReadFault}
    (hway : SameWay path d e) (hfirst : d.firstFailure? = some (path, s))
    (hs : s.read = .error fault) : e.read = .error fault := by
  induction hway with
  | here d =>
    rcases firstFailure?_cases hfirst with ⟨_, _, _, _, _, _, _, hpath, _⟩ | ⟨-, rfl, -⟩
    · cases hpath
    · exact hs
  | @within d e v w before after after' place path hd he _ ih =>
    rcases firstFailure?_cases hfirst with ⟨_, _, _, _, _, hparts, hread, hpath, hpart⟩ | ⟨hpath, -⟩
    · cases hpath
      have hnodup := nodup_places d
      rw [hd] at hnodup hparts
      obtain ⟨rfl, rfl⟩ := eq_before_of_nodup hnodup hparts
      exact Reading.read_eq_error_of_part he hread (ih hpart)
    · cases hpath

/-! ## The law -/

/-- A reading fails if and only if some visited value cannot be read, and it ends with the fault of
the first such value. Every value that agrees on the way to it ends with the same fault. -/
theorem the_first_failure_is_the_one_reported (d : Value) :
    match d.firstFailure? with
    | none => ∃ node, d.read = .ok node
    | some (path, s) =>
      ∃ fault, s.read = .error fault ∧ d.read = .error fault ∧
        ∀ e, SameWay path d e → e.read = .error fault := by
  rcases hfirst : d.firstFailure? with _ | ⟨path, s⟩
  · exact read_of_firstFailure?_eq_none hfirst
  · obtain ⟨fault, hs⟩ := fails_iff.mp (firstFailure?_fails hfirst)
    have hself : SameWay path d d := sameWay_self (List.mem_of_find?_eq_some hfirst)
    refine ⟨fault, hs, read_of_sameWay hself hfirst hs, ?_⟩
    intro e hway
    exact read_of_sameWay hway hfirst hs

/-- A header without a name, which no check lets pass. -/
def namelessHeader : Value := .record [("type", .text "FieldReference"), ("name", .text "")]

def noNamelessHeader : Value :=
  .record [("type", .text "UnaryExpr"), ("operator", .text "NOT"), ("operand", namelessHeader)]

/-- No nameless header, beside something that is no filter either. -/
def brokenPair : Value :=
  .record
    [("type", .text "BinaryExpr"), ("operator", .text "AND"), ("left", noNamelessHeader),
      ("right", .int 5)]

/-- The same way to the nameless header. The operators are bad, there are fields that no filter
has, and the right side is gone. -/
def otherBrokenPair : Value :=
  .record
    [("left", .record [("operand", namelessHeader), ("left", .int 5), ("type", .text "UnaryExpr")]),
      ("type", .text "BinaryExpr"), ("operator", .null), ("extra", .list [])]

theorem broken_pairs_end_with_the_nameless_header :
    brokenPair.visits =
        [([.left, .operand], namelessHeader), ([.left], noNamelessHeader), ([.right], .int 5),
          ([], brokenPair)] ∧
      brokenPair.firstFailure? = some ([.left, .operand], namelessHeader) ∧
      SameWay [.left, .operand] brokenPair otherBrokenPair ∧
      brokenPair.read =
        .error (.invalid "FilterNode" [⟨.textTooShort, ["FieldReference", "name"]⟩]) ∧
      otherBrokenPair.read = brokenPair.read := by
  have hread : namelessHeader.read =
      .error (.invalid "FilterNode" [⟨.textTooShort, ["FieldReference", "name"]⟩]) := by
    have hcheck : Filter.validate namelessHeader =
        .error [⟨.textTooShort, ["FieldReference", "name"]⟩] := by
      rw [namelessHeader, Filter.validate_record (k := .field) rfl, Filter.ofFields_leaf _ rfl]
      rfl
    rw [Reading.read_leaf rfl (by simp [namelessHeader]), hcheck]
    rfl
  have hvisits : brokenPair.visits =
      [([.left, .operand], namelessHeader), ([.left], noNamelessHeader), ([.right], .int 5),
        ([], brokenPair)] := by
    have hheader : namelessHeader.visits = [([], namelessHeader)] := visits_eq _
    have hnumber : (Value.int 5).visits = [([], .int 5)] := visits_eq _
    have hno : noNamelessHeader.visits =
        [([.operand], namelessHeader), ([], noNamelessHeader)] := by
      rw [visits_eq, show noNamelessHeader.parts = [(.operand, namelessHeader)] from rfl]
      simp [visitsIn, hheader]
    rw [visits_eq,
      show brokenPair.parts = [(.left, noNamelessHeader), (.right, .int 5)] from rfl]
    simp [visitsIn, hno, hnumber]
  have hfirst : brokenPair.firstFailure? = some ([.left, .operand], namelessHeader) := by
    have hfails : namelessHeader.fails = true := fails_iff.mpr ⟨_, hread⟩
    simp [Value.firstFailure?, hvisits, hfails]
  have hway : SameWay [.left, .operand] brokenPair otherBrokenPair := by
    have hinner : SameWay [.operand] noNamelessHeader
        (.record [("operand", namelessHeader), ("left", .int 5), ("type", .text "UnaryExpr")]) :=
      .within (List.nil_append _).symm (List.nil_append _).symm (.here namelessHeader)
    exact .within (List.nil_append _).symm (List.nil_append _).symm hinner
  have hlaw := the_first_failure_is_the_one_reported brokenPair
  rw [hfirst] at hlaw
  obtain ⟨fault, hfault, hpair, hothers⟩ := hlaw
  rw [hread] at hfault
  cases hfault
  exact ⟨hvisits, hfirst, hway, hpair, (hothers _ hway).trans hpair.symm⟩

end MailSearch
