-- What reading a value does, as a recursion. The work list of a reading is gone here: a value is
-- read by itself, and an expression is put together from what its children were read as. The law
-- of one reading holds for whatever stands on the two stacks.
import Mathlib.Data.List.Forall2
import MailSearch.Filter.Reading
import MailSearch.Proofs.Outcome

namespace MailSearch

namespace Reading

/-! ## Children put in place -/

/-- The fields of a record with finished nodes in the place of some of them. -/
def filled : List String → List Node → Fields → Fields
  | name :: names, node :: nodes, fs => (filled names nodes fs).set name node.toValue
  | _, _, fs => fs

theorem refill_append (names more : List String) (fs : Fields) (built : List Node) :
    refill (names ++ more) fs built =
      refill names fs built >>= fun after => refill more after.1 after.2 := by
  induction names generalizing fs built with
  | nil => rfl
  | cons name names ih =>
    cases built with
    | nil => rfl
    | cons node built => exact ih _ _

/-- The last child comes off the stack first, so that every child finds its own node. -/
theorem refill_reverse (names : List String) (nodes built : List Node) (fs : Fields)
    (h : names.length = nodes.length) :
    refill names.reverse fs (nodes.reverse ++ built) = .ok (filled names nodes fs, built) := by
  induction names generalizing nodes built with
  | nil =>
    obtain rfl := List.length_eq_zero_iff.mp h.symm
    rfl
  | cons name names ih =>
    cases nodes with
    | nil => simp at h
    | cons node nodes =>
      rw [List.reverse_cons, List.reverse_cons, List.append_assoc, refill_append,
        ih nodes _ (by simpa using h)]
      rfl

/-! ## Several readings -/

/-- What several values are read as, in order. The first fault ends it. -/
def readAll : List Value → Except ReadFault (List Node)
  | [] => .ok []
  | v :: vs => do
    let node ← v.read
    let nodes ← readAll vs
    return node :: nodes

theorem readAll_eq_ok_iff {vs : List Value} {nodes : List Node} :
    readAll vs = .ok nodes ↔ List.Forall₂ (fun v node => v.read = .ok node) vs nodes := by
  induction vs generalizing nodes with
  | nil => cases nodes <;> simp [readAll]
  | cons v vs ih =>
    rcases hv : v.read with fault | node
    · cases nodes <;> simp [readAll, hv]
    · rcases hvs : readAll vs with fault | rest
      · cases nodes with
        | nil => simp [readAll, hv, hvs]
        | cons other nodes => simp [readAll, hv, hvs, ← ih]
      · cases nodes with
        | nil => simp [readAll, hv, hvs]
        | cons other nodes => simp [readAll, hv, hvs, ← ih]

theorem length_of_readAll {vs : List Value} {nodes : List Node} (h : readAll vs = .ok nodes) :
    nodes.length = vs.length :=
  (readAll_eq_ok_iff.mp h).length_eq.symm

theorem readAll_append {vs ws : List Value} {nodes more : List Node} (hvs : readAll vs = .ok nodes)
    (hws : readAll ws = .ok more) : readAll (vs ++ ws) = .ok (nodes ++ more) := by
  rw [readAll_eq_ok_iff] at hvs hws ⊢
  exact List.rel_append hvs hws

theorem read_of_readAll {vs : List Value} {nodes : List Node} (h : readAll vs = .ok nodes) :
    ∀ v ∈ vs, ∃ node, v.read = .ok node := by
  intro v hv
  induction readAll_eq_ok_iff.mp h with
  | nil => simp at hv
  | @cons w node ws nodes hread hreads ih =>
    rcases List.mem_cons.mp hv with rfl | hv
    · exact ⟨node, hread⟩
    · exact ih (readAll_eq_ok_iff.mpr hreads) hv

/-- Of several readings that do not all end well, the first bad one gives the fault. -/
theorem readAll_eq_error {vs : List Value} {fault : ReadFault} (h : readAll vs = .error fault) :
    ∃ v ∈ vs, v.read = .error fault := by
  induction vs with
  | nil => simp [readAll] at h
  | cons v vs ih =>
    rcases hv : v.read with other | node
    · obtain rfl : other = fault := by simpa [readAll, hv] using h
      exact ⟨v, List.mem_cons_self, hv⟩
    · rcases hvs : readAll vs with other | nodes
      · obtain rfl : other = fault := by simpa [readAll, hv, hvs] using h
        obtain ⟨w, hw, hread⟩ := ih hvs
        exact ⟨w, List.mem_cons_of_mem _ hw, hread⟩
      · simp [readAll, hv, hvs] at h

/-- Readings in a row end with the first fault. -/
theorem readAll_eq_error_of {before after : List Value} {v : Value} {fault : ReadFault}
    (hbefore : ∀ u ∈ before, ∃ node, u.read = .ok node) (hv : v.read = .error fault) :
    readAll (before ++ v :: after) = .error fault := by
  induction before with
  | nil => simp [readAll, hv]
  | cons u before ih =>
    obtain ⟨node, hnode⟩ := hbefore u (by simp)
    have hrest := ih fun w hw => hbefore w (by simp [hw])
    simp [readAll, hnode, hrest]

/-! ## The law of one reading -/

/-- The names of the children that a record has. -/
def childNamesIn (k : Kind) (fs : Fields) : List String := (presentChildren k fs).map (·.1)

/-- The children that a record has. -/
def childrenIn (k : Kind) (fs : Fields) : List Value := (presentChildren k fs).map (·.2)

/-- The filter that the fields of an expression make when the children are these nodes. -/
def assembled (k : Kind) (fs : Fields) (nodes : List Node) : Except ReadFault Filter :=
  titled k.name (Filter.ofFields k (filled (childNamesIn k fs) nodes fs))

theorem run_cons (task : Task) (tasks : List Task) (built : List Node) :
    run (task :: tasks) built =
      step task built >>= fun after => run (after.1 ++ tasks) after.2 := by
  rw [run]
  split <;> simp_all

/-- An expression takes the nodes of its children from the top of what is built, and leaves its
own node there. -/
theorem step_assemble (k : Kind) (fs : Fields) (nodes built : List Node)
    (h : nodes.length = (childrenIn k fs).length) :
    step (.assemble k fs) (nodes.reverse ++ built) =
      (assembled k fs nodes).map fun f => ([], .known f :: built) := by
  have hlen : (childNamesIn k fs).length = nodes.length := by
    simpa [childNamesIn, childrenIn] using h.symm
  have hfill := refill_reverse (childNamesIn k fs) nodes built fs hlen
  rw [childNamesIn] at hfill
  rw [assembled, childNamesIn]
  simp only [step, hfill, ok_bind]
  rcases titled k.name (Filter.ofFields k (filled _ nodes fs)) with _ | f <;> rfl

theorem run_assemble (k : Kind) (fs : Fields) (nodes built : List Node) (tasks : List Task)
    (h : nodes.length = (childrenIn k fs).length) :
    run (.assemble k fs :: tasks) (nodes.reverse ++ built) =
      assembled k fs nodes >>= fun f => run tasks (.known f :: built) := by
  rw [run_cons, step_assemble k fs nodes built h]
  rcases assembled k fs nodes with _ | f <;> rfl

/-- A reading that does what it should in front of any other work, whatever is built already. -/
def Reads (v : Value) (outcome : Except ReadFault Node) : Prop :=
  ∀ tasks built, run (.read v :: tasks) built = outcome >>= fun node => run tasks (node :: built)

theorem Reads.read_eq {v : Value} {outcome : Except ReadFault Node} (h : Reads v outcome) :
    v.read = outcome := by
  rw [Value.read, h]
  rcases outcome with _ | node
  · rfl
  · simp [run]

theorem run_reads (vs : List Value) (tasks : List Task) (built : List Node)
    (h : ∀ v ∈ vs, Reads v v.read) :
    run (vs.map .read ++ tasks) built =
      readAll vs >>= fun nodes => run tasks (nodes.reverse ++ built) := by
  induction vs generalizing built with
  | nil => rfl
  | cons v vs ih =>
    rw [List.map_cons, List.cons_append, h v (by simp), readAll]
    rcases v.read with _ | node
    · rfl
    simp only [ok_bind]
    rw [ih _ (fun w hw => h w (by simp [hw]))]
    rcases readAll vs with _ | nodes
    · rfl
    · simp

theorem size_childrenIn {k : Kind} {fs : Fields} {v : Value} (h : v ∈ childrenIn k fs) :
    v.size ≤ sizeOfFields fs := by
  simp only [childrenIn, presentChildren, List.mem_map, List.mem_filterMap] at h
  obtain ⟨child, ⟨name, -, hname⟩, rfl⟩ := h
  obtain ⟨w, hw, rfl⟩ := Option.map_eq_some_iff.mp hname
  exact Fields.size_get? hw

/-- What a value is read as, by the kind of value. -/
def outcome (v : Value) : Except ReadFault Node :=
  match v with
  | .node f => .ok (.known f)
  | .foreign n => .ok (.foreign n)
  | v => do
    match ← expression? v with
    | none => return .known (← titled "FilterNode" (Filter.validate v))
    | some (k, fs) => return .known (← assembled k fs (← readAll (childrenIn k fs)))

theorem reads_outcome (v : Value) : Reads v (outcome v) := by
  induction hn : v.size using Nat.strongRecOn generalizing v with
  | ind n ih =>
    subst hn
    intro tasks built
    rw [run_cons]
    cases v with
    | node f => simp [step, outcome]
    | foreign n => simp [step, outcome]
    | record fs =>
      simp only [step, outcome]
      rcases he : expression? (.record fs) with _ | _ | ⟨k, gs⟩
      · rfl
      · simp only [ok_bind]
        rcases titled "FilterNode" (Filter.validate (.record fs)) with _ | f <;> rfl
      · obtain ⟨hfs, -⟩ := expression?_eq_some he
        cases hfs
        have hchildren : ∀ w ∈ childrenIn k fs, Reads w w.read := by
          intro w hw
          have hsize := size_childrenIn hw
          have hw := ih w.size (by simp only [Value.size]; omega) w rfl
          rwa [hw.read_eq]
        have htasks : (presentChildren k fs).map (fun child => Task.read child.2) =
            (childrenIn k fs).map Task.read := by
          simp [childrenIn]
        simp only [ok_bind, pure_eq_ok, List.append_assoc, List.cons_append, List.nil_append]
        rw [htasks, run_reads _ _ _ hchildren]
        rcases hnodes : readAll (childrenIn k fs) with _ | nodes
        · rfl
        simp only [ok_bind]
        rw [run_assemble k fs nodes built tasks (length_of_readAll hnodes)]
        rcases assembled k fs nodes with _ | f <;> rfl
    | _ =>
      simp only [step, outcome, expression?, ok_bind]
      rcases titled "FilterNode" _ with _ | f <;> rfl

theorem read_eq (v : Value) : v.read = outcome v := (reads_outcome v).read_eq

theorem read_foreign (n : Foreign) : (Value.foreign n).read = .ok (.foreign n) := read_eq _

/-- What is no expression is checked as a whole. A finished filter passes. -/
theorem read_leaf {v : Value} (h : expression? v = .ok none) (hv : ∀ n, v ≠ .foreign n) :
    v.read = (titled "FilterNode" (Filter.validate v)).map .known := by
  rw [read_eq]
  cases v with
  | node f => simp [outcome, Filter.validate, titled]
  | foreign n => exact absurd rfl (hv n)
  | _ =>
    simp only [outcome, h, ok_bind]
    rcases titled "FilterNode" _ with _ | f <;> rfl

theorem read_expression {v : Value} {k : Kind} {fs : Fields}
    (h : expression? v = .ok (some (k, fs))) :
    v.read = readAll (childrenIn k fs) >>= fun nodes => (assembled k fs nodes).map .known := by
  obtain ⟨rfl, -⟩ := expression?_eq_some h
  rw [read_eq]
  simp only [outcome, h, ok_bind]
  rcases readAll (childrenIn k fs) with _ | nodes
  · rfl
  · simp only [ok_bind]
    rcases assembled k fs nodes with _ | f <;> rfl

theorem read_noKey {v : Value} {fault : ReadFault} (h : expression? v = .error fault) :
    v.read = .error fault := by
  rw [read_eq]
  cases v with
  | record fs => simp [outcome, h]
  | _ => simp [expression?] at h

/-! ## Which values are expressions -/

/-- The kind of expression that a type field names. -/
def namedKind? : Option Value → Except ReadFault (Option Kind)
  | none => .ok none
  | some t =>
    match t.notAKey?, t with
    | some typeName, _ => .error (.typeNotAKey typeName)
    | none, .text s => .ok ((Kind.ofName? s).filter fun k => !k.childNames.isEmpty)
    | none, _ => .ok none

/-- Whether a record is an expression is for its type field to say. -/
theorem expression?_record (fs : Fields) :
    expression? (.record fs) =
      (namedKind? (Fields.get? fs "type")).map fun k => k.map (·, fs) := by
  rcases ht : Fields.get? fs "type" with _ | t
  · simp [expression?, namedKind?, ht]
  · cases t with
    | text s =>
      simp only [expression?, namedKind?, ht, Value.notAKey?, map_ok]
      by_cases hu : s = Kind.unary.name
      · subst hu
        rfl
      · by_cases hb : s = Kind.binary.name
        · subst hb
          rfl
        · rcases hk : Kind.ofName? s with _ | k
          · simp [hu, hb]
          · obtain rfl := Kind.name_of_ofName? hk
            have hleaf : k.childNames = [] := by
              cases k with
              | unary => exact absurd rfl hu
              | binary => exact absurd rfl hb
              | _ => rfl
            simp [hu, hb, Option.filter, hleaf]
    | _ =>
      simp only [expression?, namedKind?, ht]
      split <;> simp_all

theorem namedKind?_eq_some_iff {t : Option Value} {k : Kind} :
    namedKind? t = .ok (some k) ↔ t = some (.text k.name) ∧ k.childNames ≠ [] := by
  rcases t with _ | t
  · simp [namedKind?]
  · cases t with
    | text s =>
      simp only [namedKind?, Value.notAKey?, Except.ok.injEq, Option.filter_eq_some_iff,
        Option.some.injEq, Value.text.injEq]
      constructor
      · rintro ⟨hk, hchildren⟩
        exact ⟨(Kind.name_of_ofName? hk).symm, by simpa using hchildren⟩
      · rintro ⟨rfl, hchildren⟩
        exact ⟨Kind.ofName?_name k, by simpa using hchildren⟩
    | _ =>
      simp only [namedKind?]
      split <;> simp_all

theorem namedKind?_eq_error_iff {t : Option Value} {fault : ReadFault} :
    namedKind? t = .error fault ↔
      ∃ v typeName, t = some v ∧ v.notAKey? = some typeName ∧ fault = .typeNotAKey typeName := by
  rcases t with _ | t
  · simp [namedKind?]
  · rcases hkey : t.notAKey? with _ | typeName
    · cases t <;> simp_all [namedKind?]
    · simp [namedKind?, hkey, eq_comm]

/-- An expression is a record whose type field names a kind with children. -/
theorem expression?_eq_some_iff {v : Value} {k : Kind} {fs : Fields} :
    expression? v = .ok (some (k, fs)) ↔
      v = .record fs ∧ Fields.get? fs "type" = some (.text k.name) ∧ k.childNames ≠ [] := by
  rw [← namedKind?_eq_some_iff]
  cases v with
  | record gs =>
    rw [expression?_record]
    constructor
    · intro h
      obtain ⟨found, hfound, hpair⟩ := map_eq_ok_iff.mp h
      obtain ⟨other, rfl, hother⟩ := Option.map_eq_some_iff.mp hpair
      cases hother
      exact ⟨rfl, hfound⟩
    · rintro ⟨hgs, hk⟩
      cases hgs
      rw [hk]
      rfl
  | _ => simp [expression?]

/-- A reading stops at a type field that is no key, and at nothing else, before it looks at a
record. -/
theorem expression?_eq_error {v : Value} {fault : ReadFault} (h : expression? v = .error fault) :
    ∃ fs t typeName, v = .record fs ∧ Fields.get? fs "type" = some t ∧
      t.notAKey? = some typeName ∧ fault = .typeNotAKey typeName := by
  cases v with
  | record fs =>
    rw [expression?_record] at h
    rcases hk : namedKind? (Fields.get? fs "type") with other | k
    · obtain rfl : other = fault := by simpa [hk] using h
      obtain ⟨t, typeName, ht, hkey, rfl⟩ := namedKind?_eq_error_iff.mp hk
      exact ⟨fs, t, typeName, rfl, ht, hkey, rfl⟩
    · simp [hk] at h
  | _ => simp [expression?] at h

end Reading

end MailSearch
