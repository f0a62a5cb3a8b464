-- A filter and its record can stand for each other. Reading the record of a filter gives the
-- filter, field by field, and wherever a child may stand in a record, it makes no difference which
-- of the two stands there, also if the reading fails somewhere else.
import MailSearch.Compiler
import MailSearch.Proofs.BuiltFilters

namespace MailSearch

/-! ## Plain data -/

mutual

/-- Is there no node in a value? -/
def Value.isData : Value → Bool
  | .list items => areData items
  | .record fields => fieldsAreData fields
  | .pair _ v => v.isData
  | .node _ | .foreign _ => false
  | _ => true

def areData : List Value → Bool
  | [] => true
  | v :: rest => v.isData && areData rest

def fieldsAreData : Fields → Bool
  | [] => true
  | (_, v) :: rest => v.isData && fieldsAreData rest

end

/-- Every list in a tree holds plain data only. -/
def Filter.HoldsData : Filter → Prop
  | .unary _ operand => operand.HoldsData
  | .binary _ left right => left.HoldsData ∧ right.HoldsData
  | .array vs | .object vs => areData vs = true
  | _ => True

mutual

theorem plain_of_isData : ∀ v : Value, v.isData = true → v.plain = v
  | .list items, h => by rw [Value.plain, plainItems_of_areData items h]
  | .record fields, h => by rw [Value.plain, plainFields_of_fieldsAreData fields h]
  | .pair name v, h => by rw [Value.plain, plain_of_isData v h]
  | .null, _ | .bool _, _ | .int _, _ | .float _, _ | .text _, _ => rfl

theorem plainItems_of_areData : ∀ vs : List Value, areData vs = true → plainItems vs = vs
  | [], _ => rfl
  | v :: rest, h => by
    obtain ⟨hv, hrest⟩ := Bool.and_eq_true_iff.mp h
    rw [plainItems, plain_of_isData v hv, plainItems_of_areData rest hrest]

theorem plainFields_of_fieldsAreData : ∀ fs : Fields, fieldsAreData fs = true → plainFields fs = fs
  | [], _ => rfl
  | (name, v) :: rest, h => by
    obtain ⟨hv, hrest⟩ := Bool.and_eq_true_iff.mp h
    rw [plainFields, plain_of_isData v hv, plainFields_of_fieldsAreData rest hrest]

end

/-! ## Places for a child -/

/-- The fields in which a child may stand. -/
inductive ChildPlace where
  | operand
  | left
  | right
deriving DecidableEq

def ChildPlace.name : ChildPlace → String
  | operand => "operand"
  | left => "left"
  | right => "right"

/-- A tree of records with a hole where a child may stand. What the other fields hold, the type
field included, may be anything. -/
inductive Context where
  | hole
  | within (fields : Fields) (place : ChildPlace) (inner : Context)

def Context.fill : Context → Value → Value
  | .hole, v => v
  | .within fields place inner, v => .record (Fields.set fields place.name (inner.fill v))

namespace Reading

/-- A kind that knows the name of such a field has a child there. -/
theorem mem_childNames {place : ChildPlace} {k : Kind} (h : place.name ∈ k.fieldNames) :
    place.name ∈ k.childNames := by
  cases place <;> cases k <;> simp_all [ChildPlace.name, Kind.fieldNames, Kind.childNames]

theorem readAll_congr {vs ws : List Value} (h : vs.map Value.read = ws.map Value.read) :
    readAll vs = readAll ws := by
  induction vs generalizing ws with
  | nil =>
    obtain rfl := List.map_eq_nil_iff.mp h.symm
    rfl
  | cons v vs ih =>
    cases ws with
    | nil => simp at h
    | cons w ws =>
      simp only [List.map_cons, List.cons.injEq] at h
      rw [readAll, readAll, h.1, ih h.2]

theorem map_read_childrenIn (k : Kind) (fs : Fields) :
    (childrenIn k fs).map Value.read =
      k.childNames.filterMap fun name => (Fields.get? fs name).map Value.read := by
  simp [childrenIn, presentChildren, List.map_filterMap, Option.map_map, Function.comp_def]

theorem type_set (fs : Fields) (place : ChildPlace) (v : Value) :
    Fields.get? (Fields.set fs place.name v) "type" = Fields.get? fs "type" := by
  rw [Fields.get?_set, if_neg (by cases place <;> decide)]

theorem expression?_set (fs : Fields) (place : ChildPlace) (v : Value) :
    expression? (.record (Fields.set fs place.name v)) =
      (namedKind? (Fields.get? fs "type")).map fun k =>
        k.map (·, Fields.set fs place.name v) := by
  rw [expression?_record, type_set]

theorem childNames_of_namedKind? {s : String} {k : Kind}
    (h : namedKind? (some (.text s)) = .ok none) (hk : Kind.ofName? s = some k) :
    k.childNames = [] := by
  simpa [namedKind?, Value.notAKey?, hk, Option.filter_eq_none_iff] using h

/-- A record that is no expression is checked without a look at what stands in the place of a
child. -/
theorem validate_set_congr {fs : Fields} (h : namedKind? (Fields.get? fs "type") = .ok none)
    (place : ChildPlace) (v w : Value) :
    Filter.validate (.record (Fields.set fs place.name v)) =
      Filter.validate (.record (Fields.set fs place.name w)) := by
  rw [Filter.validate, Filter.validate, type_set, type_set]
  split
  · rfl
  · rename_i s ht
    rcases hk : Kind.ofName? s with _ | k
    · rfl
    · have hleaf := childNames_of_namedKind? (ht ▸ h) hk
      have hsame : Filter.ofFields k (Fields.set fs place.name v) =
          Filter.ofFields k (Fields.set fs place.name w) :=
        Filter.ofFields_set_congr mem_childNames fun hplace => by simp [hleaf] at hplace
      simp only [hsame]
  · rfl

theorem readAll_set_congr {v w : Value} (h : v.read = w.read) (k : Kind) (fs : Fields)
    (place : ChildPlace) :
    readAll (childrenIn k (Fields.set fs place.name v)) =
      readAll (childrenIn k (Fields.set fs place.name w)) := by
  apply readAll_congr
  rw [map_read_childrenIn, map_read_childrenIn]
  congr 1
  funext name
  rw [Fields.get?_set, Fields.get?_set]
  by_cases heq : name = place.name
  · simp [heq, h]
  · simp [heq]

/-- What stands in the place of a child counts only by what it is read as. -/
theorem read_set_congr {v w : Value} (h : v.read = w.read) (fs : Fields) (place : ChildPlace) :
    (Value.record (Fields.set fs place.name v)).read =
      (Value.record (Fields.set fs place.name w)).read := by
  rcases hk : namedKind? (Fields.get? fs "type") with fault | _ | k
  · rw [read_noKey (by rw [expression?_set, hk]; rfl), read_noKey (by rw [expression?_set, hk]; rfl)]
  · rw [read_leaf (by rw [expression?_set, hk]; rfl) (by simp),
      read_leaf (by rw [expression?_set, hk]; rfl) (by simp), validate_set_congr hk place v w]
  · have hv : expression? (.record (Fields.set fs place.name v)) =
        .ok (some (k, Fields.set fs place.name v)) := by
      rw [expression?_set, hk]
      rfl
    have hw : expression? (.record (Fields.set fs place.name w)) =
        .ok (some (k, Fields.set fs place.name w)) := by
      rw [expression?_set, hk]
      rfl
    have hall := readAll_set_congr h k fs place
    rcases hnodes : readAll (childrenIn k (Fields.set fs place.name w)) with fault | nodes
    · rw [read_expression hv, read_expression hw, hall, hnodes]
      rfl
    · have hplaced : place.name ∈ k.childNames → Filter.validate v = Filter.validate w := by
        intro hplace
        have hchild : w ∈ childrenIn k (Fields.set fs place.name w) := by
          refine List.mem_map.mpr ⟨(place.name, w), mem_presentChildren.mpr ⟨hplace, ?_⟩, rfl⟩
          rw [Fields.get?_set, if_pos rfl]
        obtain ⟨node, hnode⟩ := read_of_readAll hnodes w hchild
        rw [← validate_of_read hnode, validate_of_read (h.trans hnode)]
      rw [read_of_readAll_children hv (hall.trans hnodes), read_of_readAll_children hw hnodes,
        Filter.ofFields_set_congr mem_childNames hplaced]

/-- Two values that are read alike are read alike in every place for a child. -/
theorem read_fill_congr {v w : Value} (h : v.read = w.read) (c : Context) :
    (c.fill v).read = (c.fill w).read := by
  induction c with
  | hole => exact h
  | within fields place inner ih => exact read_set_congr ih fields place

end Reading

/-! ## The record of a filter -/

theorem Filter.validate_node (f : Filter) : Filter.validate (.node f) = .ok f := by
  rw [Filter.validate]

/-- A record with the type and the fields of a kind, and no others, is the filter that its own
fields make. -/
theorem validate_of_own {k : Kind} {fs : Fields} {own : Checked Filter} {f : Filter}
    (hfields : Filter.ofFields k fs = Fields.ofKind fs k own)
    (htype : Fields.get? fs "type" = some (.text k.name)) (hextra : Fields.extraFaults fs k = [])
    (hown : own = .ok f) : Filter.validate (.record fs) = .ok f := by
  have hkind : Fields.typeIs fs k = .ok () := by
    simp [Fields.typeIs, Fields.optional, htype]
  rw [Filter.validate_record htype, hfields, Fields.ofKind, hkind, hextra, hown]
  rfl

/-- The same for a record without children. -/
theorem validate_of_leaf {fs : Fields} {f : Filter} (hleaf : f.kind.childNames = [])
    (htype : Fields.get? fs "type" = some (.text f.kind.name))
    (hextra : Fields.extraFaults fs f.kind = []) (hown : fs.toLeaf f.kind = .ok f) :
    Filter.validate (.record fs) = .ok f :=
  validate_of_own (Filter.ofFields_leaf fs hleaf) htype hextra hown

theorem child_of_validate {fs : Fields} {name : String} {v : Value} {f : Filter}
    (hget : Fields.get? fs name = some v) (h : Filter.validate v = .ok f) :
    Filter.child fs name = .ok f := by
  rw [Filter.child_eq, hget]
  simp [h]

/-- The record of a filter has every field of its kind, each with a value that its rule keeps as it
is. -/
theorem validate_toRecord {f : Filter} (hnamed : f.Named) (hdata : f.HoldsData) :
    Filter.validate f.toRecord = .ok f := by
  induction f with
  | unary op x ih =>
    rw [Filter.toRecord]
    refine validate_of_own (Filter.ofFields_unary _) rfl rfl ?_
    rw [child_of_validate rfl (ih hnamed hdata)]
    rfl
  | binary op l r ihl ihr =>
    rw [Filter.toRecord]
    refine validate_of_own (Filter.ofFields_binary _) rfl rfl ?_
    rw [child_of_validate rfl (ihl hnamed.1 hdata.1), child_of_validate rfl (ihr hnamed.2 hdata.2)]
    rfl
  | field name =>
    rw [Filter.toRecord]
    refine validate_of_leaf rfl rfl rfl ?_
    have hname : name ≠ "" := hnamed
    simp [Filter.kind, Fields.toLeaf, Fields.required, Fields.get?, Rule.nonEmptyText, Rule.text,
      hname]
  | number n =>
    rw [Filter.toRecord]
    refine validate_of_leaf rfl rfl rfl ?_
    cases n <;> rfl
  | array vs | object vs =>
    rw [Filter.toRecord, plainItems_of_areData vs hdata]
    exact validate_of_leaf rfl rfl rfl rfl
  | _ =>
    rw [Filter.toRecord]
    exact validate_of_leaf rfl rfl rfl rfl

/-- Reading the record of a filter gives the filter, field by field. -/
theorem read_toRecord {f : Filter} (hnamed : f.Named) (hdata : f.HoldsData) :
    f.toRecord.read = .ok (.known f) :=
  Reading.read_of_validate (validate_toRecord hnamed hdata)

theorem toRecord_eq_record (f : Filter) : ∃ fs, f.toRecord = .record fs := by
  cases f <;> exact ⟨_, rfl⟩

/-- A compiler makes the same of a filter and of a value that is read as the filter. -/
theorem Compiler.compile_of_read {fs : Fields} {f : Filter}
    (h : (Value.record fs).read = .ok (.known f)) (c : Compiler) :
    c.compile (.record fs) = c.compile (.node f) := by
  rw [CompilerOf.compile, CompilerOf.compile, Compiler.nodeOf, Compiler.nodeOf, h]

/-! ## Filters of plain data -/

theorem isData_toRecord {f : Filter} (h : f.HoldsData) : f.toRecord.isData = true := by
  induction f with
  | unary op x ih => simp [Filter.toRecord, Value.isData, fieldsAreData, ih h]
  | binary op l r ihl ihr =>
    simp [Filter.toRecord, Value.isData, fieldsAreData, ihl h.1, ihr h.2]
  | number n => cases n <;> rfl
  | array vs | object vs =>
    have hdata : areData vs = true := h
    simp [Filter.toRecord, Value.isData, fieldsAreData, plainItems_of_areData vs hdata, hdata]
  | _ => rfl

theorem isData_of_mem {vs : List Value} {v : Value} (h : areData vs = true) (hv : v ∈ vs) :
    v.isData = true := by
  induction vs with
  | nil => simp at hv
  | cons w rest ih =>
    obtain ⟨hw, hrest⟩ := Bool.and_eq_true_iff.mp h
    rcases List.mem_cons.mp hv with rfl | hv
    · exact hw
    · exact ih hrest hv

theorem isData_of_mem_fields {fs : Fields} {name : String} {v : Value}
    (h : fieldsAreData fs = true) (hv : (name, v) ∈ fs) : v.isData = true := by
  induction fs with
  | nil => simp at hv
  | cons head rest ih =>
    obtain ⟨hhead, hrest⟩ := Bool.and_eq_true_iff.mp h
    rcases List.mem_cons.mp hv with rfl | hv
    · exact hhead
    · exact ih hrest hv

theorem not_holds_of_isData {v : Value} {f : Filter} (h : v.isData = true) : ¬ v.Holds f := by
  intro hholds
  induction hholds with
  | node f => simp [Value.isData] at h
  | item hmem _ ih => exact ih (isData_of_mem h hmem)
  | field hmem _ ih => exact ih (isData_of_mem_fields h hmem)
  | pair _ ih => exact ih h

/-- A filter of plain data in which every field name is a name can come to be. -/
theorem built_of_named {f : Filter} (hnamed : f.Named) (hdata : f.HoldsData) : f.Built :=
  .read (read_toRecord hnamed hdata) fun _ hg =>
    absurd hg (not_holds_of_isData (isData_toRecord hdata))

/-! ## The law -/

/-- A filter and its record are read alike in every place for a child, and also alone. The record
is read as the filter itself. Whatever else is read as the filter is read like its record, and no
compiler tells the two apart. -/
theorem a_filter_and_its_record_are_interchangeable {f : Filter} (hbuilt : f.Built)
    (hdata : f.HoldsData) :
    (∀ c : Context, (c.fill (.node f)).read = (c.fill f.toRecord).read) ∧
      f.toRecord.read = .ok (.known f) ∧
      (∀ v : Value, v.read = .ok (.known f) → f.toRecord.read = v.read) ∧
      ∀ c : Compiler, c.compile f.toRecord = c.compile (.node f) := by
  have hread : f.toRecord.read = .ok (.known f) := read_toRecord hbuilt.named hdata
  refine ⟨fun c => ?_, hread, fun v hv => ?_, fun c => ?_⟩
  · refine Reading.read_fill_congr ?_ c
    rw [hread, Reading.read_of_validate (Filter.validate_node f)]
  · rw [hread, hv]
  · obtain ⟨fs, hfs⟩ := toRecord_eq_record f
    rw [hfs]
    exact Compiler.compile_of_read (hfs ▸ hread) c

/-- A match of a header with nothing, or no list of plain data. -/
def nestedFilter : Filter :=
  .binary "OR" (.binary "!~" (.field "from") (.string ""))
    (.unary "NOT" (.array [.null, .int 1, .record [("type", .list [.text "x"])]]))

theorem a_nested_filter_and_its_record_are_interchangeable :
    nestedFilter.Built ∧ nestedFilter.HoldsData ∧
      (∀ c : Context, (c.fill (.node nestedFilter)).read = (c.fill nestedFilter.toRecord).read) ∧
      nestedFilter.toRecord.read = .ok (.known nestedFilter) ∧
      (∀ v : Value, v.read = .ok (.known nestedFilter) → nestedFilter.toRecord.read = v.read) ∧
      ∀ c : Compiler, c.compile nestedFilter.toRecord = c.compile (.node nestedFilter) := by
  have hdata : nestedFilter.HoldsData := ⟨⟨trivial, trivial⟩, rfl⟩
  have hfrom : "from" ≠ "" := by decide
  have hnamed : nestedFilter.Named := ⟨⟨hfrom, trivial⟩, trivial⟩
  have hbuilt : nestedFilter.Built := built_of_named hnamed hdata
  exact ⟨hbuilt, hdata, a_filter_and_its_record_are_interchangeable hbuilt hdata⟩

end MailSearch
