-- A record can become a filter in two ways: it is read from its leaves up, one record at a time,
-- or it is checked as a whole from the root down. Both ways accept the same records and make the
-- same filter of them. When a reading stops at a fault, the check reports it as well, with the
-- way from the root to the record at fault in front.
import MailSearch.Filter.Building
import MailSearch.Proofs.Checking
import MailSearch.Proofs.ReadingRecursion

namespace MailSearch

namespace Reading

/-! ## Places in a record -/

/-- The children of a value that a reading looks at. -/
def children (v : Value) : List Value :=
  match expression? v with
  | .ok (some (k, fs)) => childrenIn k fs
  | _ => []

/-- The name of an expression, under which a check reports the faults of its own fields. -/
def ownTag (v : Value) : List String :=
  match expression? v with
  | .ok (some (k, _)) => [k.name]
  | _ => []

/-- A value stands at a place inside another one. The way to it names each expression that it
goes through and the field of it where it goes on. -/
inductive Placed : Value → List String → Value → Prop
  | here (s : Value) : Placed s [] s
  | within {k : Kind} {fs : Fields} {name : String} {v s : Value} {path : List String} :
      Fields.get? fs "type" = some (.text k.name) → name ∈ k.childNames →
      Fields.get? fs name = some v → Placed v path s →
      Placed (.record fs) (k.name :: name :: path) s

/-- A value is at fault itself: its children can be read, and it cannot. -/
def AtFault (s : Value) (fault : ReadFault) : Prop :=
  s.read = .error fault ∧ ∀ c ∈ children s, ∃ node, c.read = .ok node

/-- What a check reports at a value for the fault of reading it. -/
def reported (s : Value) : ReadFault → List Fault
  | .invalid _ own => own.map (·.under (ownTag s))
  | .typeNotAKey _ => [⟨.unknownTag, []⟩]
  | .nothingBuilt => []

/-! ## One record -/

theorem mem_presentChildren {k : Kind} {fs : Fields} {name : String} {v : Value} :
    (name, v) ∈ presentChildren k fs ↔ name ∈ k.childNames ∧ Fields.get? fs name = some v := by
  simp only [presentChildren, List.mem_filterMap, Option.map_eq_some_iff, Prod.mk.injEq]
  constructor
  · rintro ⟨other, hother, w, hw, rfl, rfl⟩
    exact ⟨hother, hw⟩
  · rintro ⟨hname, hv⟩
    exact ⟨name, hname, v, hv, rfl, rfl⟩

theorem nodup_childNamesIn (k : Kind) (fs : Fields) : (childNamesIn k fs).Nodup := by
  have hsub : (childNamesIn k fs).Sublist k.childNames := by
    simp only [childNamesIn, presentChildren]
    induction k.childNames with
    | nil => simp
    | cons name names ih =>
      rcases hv : Fields.get? fs name with _ | v
      · simpa [hv] using ih.cons name
      · simpa [hv] using ih.cons_cons name
  exact hsub.nodup (by cases k <;> simp [Kind.childNames])

theorem get?_filled_of_notMem {names : List String} {nodes : List Node} {fs : Fields}
    {other : String} (h : other ∉ names) :
    Fields.get? (filled names nodes fs) other = Fields.get? fs other := by
  induction names generalizing nodes with
  | nil => rfl
  | cons name names ih =>
    cases nodes with
    | nil => rfl
    | cons node nodes =>
      simp only [List.mem_cons, not_or] at h
      rw [filled, Fields.get?_set, if_neg h.1, ih h.2]

/-- Every child finds its own node in its place. -/
theorem get?_filled_of_mem {cs : List (String × Value)} {nodes : List Node} {fs : Fields}
    (hreads : List.Forall₂ (fun c node => c.2.read = .ok node) cs nodes)
    (hnodup : (cs.map (·.1)).Nodup) {name : String} {v : Value} (hmem : (name, v) ∈ cs) :
    ∃ node, v.read = .ok node ∧
      Fields.get? (filled (cs.map (·.1)) nodes fs) name = some node.toValue := by
  induction hreads with
  | nil => simp at hmem
  | @cons c node cs nodes hread hreads ih =>
    obtain ⟨hnotMem, hnodup⟩ := List.nodup_cons.mp hnodup
    rw [List.map_cons, filled]
    rcases List.mem_cons.mp hmem with rfl | hmem
    · exact ⟨node, hread, by rw [Fields.get?_set, if_pos rfl]⟩
    · obtain ⟨other, hother, hget⟩ := ih hnodup hmem
      have hne : name ≠ c.1 := by
        rintro rfl
        exact hnotMem (List.mem_map.mpr ⟨_, hmem, rfl⟩)
      exact ⟨other, hother, by rw [Fields.get?_set, if_neg hne, hget]⟩

theorem names_filled {names : List String} {nodes : List Node} {fs : Fields}
    (h : ∀ name ∈ names, name ∈ Fields.names fs) :
    Fields.names (filled names nodes fs) = Fields.names fs := by
  induction names generalizing nodes with
  | nil => rfl
  | cons name names ih =>
    cases nodes with
    | nil => rfl
    | cons node nodes =>
      have hrest : Fields.names (filled names nodes fs) = Fields.names fs :=
        ih fun other hother => h other (by simp [hother])
      rw [filled, Fields.names_set _ (by rw [hrest]; exact h name (by simp)), hrest]

/-- The fields `gs` are those of a record in which every child has given way to the node that it
was read as. All other fields are as they were, and so is the order of the fields. -/
structure Refilled (k : Kind) (fs gs : Fields) : Prop where
  names : Fields.names gs = Fields.names fs
  child {name : String} {v : Value} : name ∈ k.childNames → Fields.get? fs name = some v →
    ∃ node, v.read = .ok node ∧ Fields.get? gs name = some node.toValue
  other {name : String} : name ∉ k.childNames → Fields.get? gs name = Fields.get? fs name

/-- A child that is missing stays missing. -/
theorem Refilled.get?_eq_none {k : Kind} {fs gs : Fields} (h : Refilled k fs gs) {name : String}
    (hname : Fields.get? fs name = none) : Fields.get? gs name = none := by
  rw [← Option.not_isSome_iff_eq_none, Fields.get?_isSome_iff] at hname ⊢
  rw [h.names]
  exact hname

theorem refilled_filled {k : Kind} {fs : Fields} {nodes : List Node}
    (hreads : readAll (childrenIn k fs) = .ok nodes) :
    Refilled k fs (filled (childNamesIn k fs) nodes fs) := by
  have hpairs : List.Forall₂ (fun c node => c.2.read = .ok node) (presentChildren k fs) nodes := by
    simpa [childrenIn] using readAll_eq_ok_iff.mp hreads
  constructor
  · apply names_filled
    intro name hname
    obtain ⟨⟨other, v⟩, hchild, rfl⟩ := List.mem_map.mp hname
    rw [← Fields.get?_isSome_iff, (mem_presentChildren.mp hchild).2]
    rfl
  · intro name v hname hv
    exact get?_filled_of_mem hpairs (nodup_childNamesIn k fs) (mem_presentChildren.mpr ⟨hname, hv⟩)
  · intro name hname
    apply get?_filled_of_notMem
    intro hin
    obtain ⟨⟨other, v⟩, hchild, rfl⟩ := List.mem_map.mp hin
    exact hname (mem_presentChildren.mp hchild).1

/-- If a check takes the node of each child as it takes the child itself, it takes the record with
its children in place as it takes the record. -/
theorem ofFields_filled {k : Kind} {fs : Fields} {nodes : List Node}
    (hreads : readAll (childrenIn k fs) = .ok nodes)
    (hsame : ∀ v ∈ childrenIn k fs, ∀ node, v.read = .ok node →
      Filter.validate node.toValue = Filter.validate v) :
    Filter.ofFields k (filled (childNamesIn k fs) nodes fs) = Filter.ofFields k fs := by
  have hrefilled := refilled_filled hreads
  apply Filter.ofFields_congr
  · exact hrefilled.names
  · intro name _ hname
    exact hrefilled.other hname
  · intro name hname
    rw [Filter.child_eq, Filter.child_eq]
    rcases hv : Fields.get? fs name with _ | v
    · rw [hrefilled.get?_eq_none hv]
    · obtain ⟨node, hread, hget⟩ := hrefilled.child hname hv
      have hchild := mem_presentChildren.mpr ⟨hname, hv⟩
      rw [hget]
      simp only
      rw [hsame v (List.mem_map.mpr ⟨_, hchild, rfl⟩) node hread]

/-! ## A child that is read -/

/-- A check takes what a value was read as in the same way as the value itself. -/
theorem validate_of_read {v : Value} {node : Node} (h : v.read = .ok node) :
    Filter.validate node.toValue = Filter.validate v := by
  induction hn : v.size using Nat.strongRecOn generalizing v node with
  | ind n ih =>
    subst hn
    rcases he : expression? v with fault | _ | ⟨k, fs⟩
    · simp [read_noKey he] at h
    · by_cases hforeign : ∃ n, v = .foreign n
      · obtain ⟨n, rfl⟩ := hforeign
        rw [read_foreign] at h
        cases h
        rfl
      · rw [read_leaf he fun n hv => hforeign ⟨n, hv⟩] at h
        rcases hcheck : Filter.validate v with own | f
        · simp [hcheck, titled] at h
        · simp only [hcheck, titled, map_ok, Except.ok.injEq] at h
          rw [← h, Node.toValue, Filter.validate]
    · obtain ⟨rfl, ht, -⟩ := expression?_eq_some_iff.mp he
      rw [read_expression he] at h
      rcases hnodes : readAll (childrenIn k fs) with fault | nodes
      · simp [hnodes] at h
      · have hsame := ofFields_filled hnodes fun w hw node hread =>
          ih w.size (by have := size_childrenIn hw; simp only [Value.size]; omega) hread rfl
        rw [hnodes, ok_bind, assembled, hsame] at h
        rw [Filter.validate_record ht]
        rcases hcheck : Filter.ofFields k fs with own | f
        · simp [hcheck, titled] at h
        · simp only [hcheck, titled, map_ok, Except.ok.injEq] at h
          rw [← h, Node.toValue, Filter.validate, Checked.under_ok]

/-- Only a node of an unknown kind is read as one. -/
theorem eq_of_read_foreign {v : Value} {n : Foreign} (h : v.read = .ok (.foreign n)) :
    v = .foreign n := by
  have hknown (x : Except ReadFault Filter) : x.map Node.known ≠ .ok (.foreign n) := by
    cases x <;> simp
  rcases he : expression? v with fault | _ | ⟨k, fs⟩
  · simp [read_noKey he] at h
  · by_cases hforeign : ∃ m, v = .foreign m
    · obtain ⟨m, rfl⟩ := hforeign
      simpa [read_foreign] using h
    · rw [read_leaf he fun m hv => hforeign ⟨m, hv⟩] at h
      exact absurd h (hknown _)
  · rw [read_expression he] at h
    rcases hnodes : readAll (childrenIn k fs) with fault | nodes
    · simp [hnodes] at h
    · rw [hnodes, ok_bind] at h
      exact absurd h (hknown _)

/-- Once the children of an expression can be read, the record is checked by its own fields. -/
theorem read_of_readAll_children {v : Value} {k : Kind} {fs : Fields} {nodes : List Node}
    (h : expression? v = .ok (some (k, fs))) (hnodes : readAll (childrenIn k fs) = .ok nodes) :
    v.read = (titled k.name (Filter.ofFields k fs)).map .known := by
  rw [read_expression h, hnodes, ok_bind, assembled,
    ofFields_filled hnodes fun w _ node hread => validate_of_read hread]

/-! ## Faults -/

theorem finds_of_placed {d s : Value} {path : List String} {row : List Fault}
    (hplaced : Placed d path s) (h : (Filter.validate s).Finds row) :
    (Filter.validate d).Finds (row.map (·.under path)) := by
  induction hplaced with
  | here s => simpa [Fault.under_nil] using h
  | @within k fs name v s path ht hname hv _ ih =>
    have hchild : (Filter.child fs name).Finds ((row.map (·.under path)).map (·.under [name])) := by
      rw [Filter.child_eq, hv]
      exact (ih h).under [name]
    rw [Filter.validate_record ht]
    simpa [Fault.under_under, Function.comp_def] using
      (Filter.finds_ofFields hname hchild).under [k.name]

/-- A reading that fails does so at a value that is at fault itself. -/
theorem exists_atFault {d : Value} {fault : ReadFault} (h : d.read = .error fault) :
    ∃ path s, Placed d path s ∧ AtFault s fault := by
  induction hn : d.size using Nat.strongRecOn generalizing d with
  | ind n ih =>
    subst hn
    rcases he : expression? d with other | _ | ⟨k, fs⟩
    · exact ⟨[], d, .here d, h, by simp [children, he]⟩
    · exact ⟨[], d, .here d, h, by simp [children, he]⟩
    · rcases hnodes : readAll (childrenIn k fs) with other | nodes
      · obtain ⟨rfl, ht, -⟩ := expression?_eq_some_iff.mp he
        obtain rfl : other = fault := by simpa [read_expression he, hnodes] using h
        obtain ⟨w, hw, hread⟩ := readAll_eq_error hnodes
        obtain ⟨path, s, hplaced, hfault⟩ :=
          ih w.size (by have := size_childrenIn hw; simp only [Value.size]; omega) hread rfl
        obtain ⟨⟨name, w⟩, hchild, rfl⟩ := List.mem_map.mp hw
        obtain ⟨hname, hget⟩ := mem_presentChildren.mp hchild
        exact ⟨_, s, .within ht hname hget hplaced, hfault⟩
      · exact ⟨[], d, .here d, h, by simpa [children, he] using read_of_readAll hnodes⟩

theorem finds_of_titled {title : String} {x : Checked Filter} {fault : ReadFault}
    (h : (titled title x).map Node.known = .error fault) :
    ∃ own, x = .error own ∧ fault = .invalid title own := by
  rcases x with own | f
  · exact ⟨own, rfl, by simpa [titled] using h.symm⟩
  · simp [titled] at h

/-- A check reports what is wrong with a value that is at fault itself. -/
theorem finds_of_atFault {s : Value} {fault : ReadFault} (h : AtFault s fault) :
    fault ≠ .nothingBuilt ∧ (Filter.validate s).Finds (reported s fault) := by
  obtain ⟨hread, hchildren⟩ := h
  rcases he : expression? s with other | _ | ⟨k, fs⟩
  · -- the type field is no key
    obtain ⟨fs, t, typeName, rfl, ht, hkey, rfl⟩ := expression?_eq_error he
    obtain rfl : _ = fault := by simpa [read_noKey he] using hread
    have hcheck : Filter.validate (.record fs) = Checked.fault .unknownTag := by
      cases t with
      | text s => simp [Value.notAKey?] at hkey
      | _ => simp [Filter.validate, ht]
    exact ⟨by simp, hcheck ▸ Checked.finds_error _⟩
  · -- no expression
    by_cases hforeign : ∃ n, s = .foreign n
    · obtain ⟨n, rfl⟩ := hforeign
      simp [read_foreign] at hread
    · rw [read_leaf he fun n hs => hforeign ⟨n, hs⟩] at hread
      obtain ⟨own, hcheck, rfl⟩ := finds_of_titled hread
      refine ⟨by simp, ?_⟩
      simpa [reported, ownTag, he, Fault.under_nil, hcheck] using Checked.finds_error own
  · -- an expression whose children can be read
    obtain ⟨rfl, ht, -⟩ := expression?_eq_some_iff.mp he
    simp only [children, he] at hchildren
    rcases hnodes : readAll (childrenIn k fs) with other | nodes
    · obtain ⟨w, hw, hfault⟩ := readAll_eq_error hnodes
      obtain ⟨node, hnode⟩ := hchildren w hw
      simp [hfault] at hnode
    · rw [read_of_readAll_children he hnodes] at hread
      obtain ⟨own, hcheck, rfl⟩ := finds_of_titled hread
      refine ⟨by simp, ?_⟩
      simp only [reported, ownTag, he]
      rw [Filter.validate_record ht, hcheck]
      exact Checked.finds_error _

/-- What a check accepts can be read, and is read as the same filter. -/
theorem read_of_validate {v : Value} {f : Filter} (h : Filter.validate v = .ok f) :
    v.read = .ok (.known f) := by
  rcases hread : v.read with fault | g | n
  · obtain ⟨path, s, hplaced, hfault⟩ := exists_atFault hread
    obtain ⟨all, hall, -⟩ := finds_of_placed hplaced (finds_of_atFault hfault).2
    cases hall.symm.trans h
  · have hcheck := (validate_of_read hread).trans h
    rw [Node.toValue, Filter.validate] at hcheck
    cases hcheck
    rfl
  · obtain rfl := eq_of_read_foreign hread
    rw [Filter.validate] at h
    exact absurd h (n.validate_ne_ok f)

end Reading

/-! ## Both ways together -/

/-- A filter is made of a child in the same way as of anything else that is checked like it. -/
theorem make_set_congr {k : Kind} {fs : Fields} {name : String} {v w : Value}
    (hname : name ∈ k.childNames) (h : Filter.validate v = Filter.validate w) :
    Filter.make k (Fields.set fs name v) = Filter.make k (Fields.set fs name w) := by
  rw [Filter.make, Filter.make, Filter.ofFields_set_congr (fun _ => hname) (fun _ => h)]

theorem join_congr {v w : Value} (h : Filter.validate v = Filter.validate w) (a : Value) :
    Filter.both a v = Filter.both a w ∧ Filter.either a v = Filter.either a w := by
  have hright (op : String) :
      let fs := [("operator", .text op), ("left", a), ("right", .null)]
      Filter.make .binary (Fields.set fs "right" v) =
        Filter.make .binary (Fields.set fs "right" w) :=
    make_set_congr (by simp [Kind.childNames]) h
  constructor
  · simpa [Fields.set, Filter.both] using hright "AND"
  · simpa [Fields.set, Filter.either] using hright "OR"

/-- A record is read and checked with one result. A filter that is read is also what the check
gives, and every filter that is built around the record is the filter built around the node. A
fault that ends the reading comes from a value that is at fault itself, and wherever such a value
stands, the check reports the fault with the way to it in front: in full if the value broke the
rules, and as an unknown tag if its type field is no key. -/
theorem reading_and_checking_agree (fs : Fields) :
    match (Value.record fs).read with
    | .ok (.known f) =>
      Filter.validate (.record fs) = .ok f ∧
        (∀ a, Filter.both a (.record fs) = Filter.both a (.node f) ∧
          Filter.either a (.record fs) = Filter.either a (.node f)) ∧
        ∀ k gs, ∀ name ∈ k.childNames, Filter.make k (Fields.set gs name (.record fs)) =
          Filter.make k (Fields.set gs name (.node f))
    | .ok (.foreign _) => False
    | .error fault =>
      (∃ path s, Reading.Placed (.record fs) path s ∧ Reading.AtFault s fault) ∧
        ∀ path s, Reading.Placed (.record fs) path s → Reading.AtFault s fault →
          match fault with
          | .invalid _ own =>
            (Filter.validate (.record fs)).Finds (own.map (·.under (path ++ Reading.ownTag s)))
          | .typeNotAKey _ => (Filter.validate (.record fs)).Finds [⟨.unknownTag, path⟩]
          | .nothingBuilt => False := by
  rcases hread : (Value.record fs).read with fault | f | n
  · refine ⟨Reading.exists_atFault hread, fun path s hplaced hfault => ?_⟩
    obtain ⟨hne, hfinds⟩ := Reading.finds_of_atFault hfault
    have hfound := Reading.finds_of_placed hplaced hfinds
    cases fault with
    | invalid title own => simpa [Reading.reported, Fault.under_under, Function.comp_def] using hfound
    | typeNotAKey typeName => simpa [Reading.reported, Fault.under] using hfound
    | nothingBuilt => exact hne rfl
  · have hcheck : Filter.validate (.record fs) = .ok f := by
      rw [← Reading.validate_of_read hread, Node.toValue, Filter.validate]
    have hsame : Filter.validate (.record fs) = Filter.validate (.node f) := by
      rw [hcheck, Filter.validate]
    exact ⟨hcheck, join_congr hsame, fun k gs name hname => make_set_congr hname hsame⟩
  · cases Reading.eq_of_read_foreign hread

end MailSearch
