-- Laws of the check of a record. A check looks at the names of the fields, at the values of the
-- fields that its kind knows, and at nothing else; and a fault that one part of it finds is
-- among the faults of the whole.
import MailSearch.Filter.Validation

namespace MailSearch

/-! ## Faults that a check finds -/

theorem Fault.under_nil (f : Fault) : f.under [] = f := rfl

theorem Fault.under_under (outer inner : List String) (f : Fault) :
    (f.under inner).under outer = f.under (outer ++ inner) := by
  simp [Fault.under]

namespace Checked

/-- The check fails, and these faults stand in a row among the faults that it finds. -/
def Finds (x : Checked α) (row : List Fault) : Prop := ∃ all, x = .error all ∧ row <:+: all

theorem finds_error (row : List Fault) : Finds (.error row : Checked α) row :=
  ⟨row, rfl, List.infix_refl row⟩

theorem Finds.both_left {x : Checked α} {row : List Fault} (h : Finds x row)
    (combine : α → β → γ) (y : Checked β) : Finds (both combine x y) row := by
  obtain ⟨all, rfl, hrow⟩ := h
  cases y with
  | ok b => exact ⟨all, rfl, hrow⟩
  | error faults => exact ⟨all ++ faults, rfl, hrow.trans (List.prefix_append _ _).isInfix⟩

theorem Finds.both_right {y : Checked β} {row : List Fault} (h : Finds y row)
    (combine : α → β → γ) (x : Checked α) : Finds (both combine x y) row := by
  obtain ⟨all, rfl, hrow⟩ := h
  cases x with
  | ok a => exact ⟨all, rfl, hrow⟩
  | error faults => exact ⟨faults ++ all, rfl, hrow.trans (List.suffix_append _ _).isInfix⟩

theorem Finds.under {x : Checked α} {row : List Fault} (h : Finds x row)
    (outer : List String) : Finds (under outer x) (row.map (·.under outer)) := by
  obtain ⟨all, rfl, hrow⟩ := h
  exact ⟨all.map (·.under outer), rfl, hrow.map _⟩

end Checked

/-! ## The names of the fields -/

namespace Fields

/-- The names of the fields of a record, in order. -/
def names (fs : Fields) : List String := fs.map (·.1)

theorem get?_isSome_iff {fs : Fields} {name : String} :
    (get? fs name).isSome ↔ name ∈ names fs := by
  induction fs with
  | nil => simp [get?, names]
  | cons head rest ih =>
    obtain ⟨key, v⟩ := head
    by_cases hkey : key = name
    · simp [get?, names, hkey]
    · have hne : name ≠ key := fun h => hkey h.symm
      simpa [get?, names, hkey, hne] using ih

/-- A value that takes the place of another one leaves the names as they are. -/
theorem names_set {fs : Fields} {name : String} (w : Value) (h : name ∈ names fs) :
    names (set fs name w) = names fs := by
  induction fs with
  | nil => simp [names] at h
  | cons head rest ih =>
    obtain ⟨key, v⟩ := head
    by_cases hkey : key = name
    · simp [set, names, hkey]
    · have hrest : name ∈ names rest := by
        rcases List.mem_cons.mp h with h | h
        · exact absurd h.symm hkey
        · exact h
      simpa [set, names, hkey] using ih hrest

/-- The names after a value is put in place do not depend on the value. -/
theorem names_set_eq (fs : Fields) (name : String) (v w : Value) :
    names (set fs name v) = names (set fs name w) := by
  induction fs with
  | nil => rfl
  | cons head rest ih =>
    obtain ⟨key, u⟩ := head
    by_cases hkey : key = name
    · simp [set, names, hkey]
    · simpa [set, names, hkey] using ih

theorem extraFaults_eq (fs : Fields) (k : Kind) :
    extraFaults fs k =
      ((names fs).filter (fun name => !k.fieldNames.contains name)).map
        fun name => ⟨.extraField, [name]⟩ := by
  simp [extraFaults, names, List.filter_map, Function.comp_def]

end Fields

/-! ## What the check of a record looks at -/

namespace Filter

theorem child_eq (fs : Fields) (name : String) :
    child fs name =
      Checked.under [name]
        (match Fields.get? fs name with
          | some v => validate v
          | none => Checked.fault .missing) := by
  rw [child]
  split <;> simp_all

theorem ofFields_unary (fs : Fields) :
    ofFields .unary fs =
      Fields.ofKind fs .unary
        (Checked.both .unary (fs.required "operator" Rule.text) (child fs "operand")) := by
  rw [ofFields]

theorem ofFields_binary (fs : Fields) :
    ofFields .binary fs =
      Fields.ofKind fs .binary
        (Checked.both (fun op (children : Filter × Filter) => .binary op children.1 children.2)
          (fs.required "operator" Rule.text)
          (Checked.both Prod.mk (child fs "left") (child fs "right"))) := by
  rw [ofFields]

theorem ofFields_leaf (fs : Fields) {k : Kind} (h : k.childNames = []) :
    ofFields k fs = Fields.ofKind fs k (fs.toLeaf k) := by
  cases k <;> simp_all [ofFields, Kind.childNames]

theorem toLeaf_congr {k : Kind} {fs gs : Fields}
    (h : ∀ name ∈ k.fieldNames, Fields.get? fs name = Fields.get? gs name) :
    fs.toLeaf k = gs.toLeaf k := by
  cases k <;> simp_all [Fields.toLeaf, Fields.required, Fields.optional, Kind.fieldNames]

theorem validate_record {fs : Fields} {k : Kind}
    (h : Fields.get? fs "type" = some (.text k.name)) :
    validate (.record fs) = Checked.under [k.name] (ofFields k fs) := by
  simp [validate, h]

/-- Two records of a kind are checked alike if they have the same names, the same values under
the names that the kind knows, and children that are checked alike. -/
theorem ofFields_congr {k : Kind} {fs gs : Fields} (hnames : Fields.names fs = Fields.names gs)
    (hown : ∀ name ∈ k.fieldNames, name ∉ k.childNames → Fields.get? fs name = Fields.get? gs name)
    (hchildren : ∀ name ∈ k.childNames, child fs name = child gs name) :
    ofFields k fs = ofFields k gs := by
  have hextra : Fields.extraFaults fs k = Fields.extraFaults gs k := by
    rw [Fields.extraFaults_eq, Fields.extraFaults_eq, hnames]
  have htype : Fields.typeIs fs k = Fields.typeIs gs k := by
    rw [Fields.typeIs, Fields.typeIs, Fields.optional, Fields.optional,
      hown "type" (by cases k <;> simp [Kind.fieldNames]) (by cases k <;> simp [Kind.childNames])]
  have hkind (own : Checked Filter) : Fields.ofKind fs k own = Fields.ofKind gs k own := by
    rw [Fields.ofKind, Fields.ofKind, hextra, htype]
  cases k with
  | unary =>
    have hop := hown "operator" (by simp [Kind.fieldNames]) (by simp [Kind.childNames])
    have hoperand := hchildren "operand" (by simp [Kind.childNames])
    rw [ofFields_unary, ofFields_unary, hkind, Fields.required, Fields.required, hop, hoperand]
  | binary =>
    have hop := hown "operator" (by simp [Kind.fieldNames]) (by simp [Kind.childNames])
    have hleft := hchildren "left" (by simp [Kind.childNames])
    have hright := hchildren "right" (by simp [Kind.childNames])
    rw [ofFields_binary, ofFields_binary, hkind, Fields.required, Fields.required, hop, hleft,
      hright]
  | _ =>
    rw [ofFields_leaf _ rfl, ofFields_leaf _ rfl, hkind,
      toLeaf_congr (fun name hname => hown name hname (by simp [Kind.childNames]))]

/-- What stands in a field that is a child, or is unknown, counts only by how it is checked as a
child. -/
theorem ofFields_set_congr {k : Kind} {fs : Fields} {name : String} {v w : Value}
    (hname : name ∈ k.fieldNames → name ∈ k.childNames)
    (h : name ∈ k.childNames → validate v = validate w) :
    ofFields k (Fields.set fs name v) = ofFields k (Fields.set fs name w) := by
  apply ofFields_congr
  · exact Fields.names_set_eq fs name v w
  · intro other hother hnot
    have hne : other ≠ name := fun heq => hnot (heq ▸ hname (heq ▸ hother))
    rw [Fields.get?_set, Fields.get?_set, if_neg hne, if_neg hne]
  · intro other hother
    rw [child_eq, child_eq, Fields.get?_set, Fields.get?_set]
    by_cases heq : other = name
    · simp only [if_pos heq, h (heq ▸ hother)]
    · simp only [if_neg heq]

/-- A row of faults that the check of a child finds is found by the check of the record. -/
theorem finds_ofFields {k : Kind} {fs : Fields} {name : String} {row : List Fault}
    (hname : name ∈ k.childNames) (h : (child fs name).Finds row) : (ofFields k fs).Finds row := by
  have hkind : ∀ {own : Checked Filter}, own.Finds row → (Fields.ofKind fs k own).Finds row :=
    fun hown => (hown.both_right _ _).both_left _ _
  cases k with
  | unary =>
    obtain rfl : name = "operand" := by simpa [Kind.childNames] using hname
    rw [ofFields_unary]
    exact hkind (h.both_right _ _)
  | binary =>
    rw [ofFields_binary]
    have hname : name = "left" ∨ name = "right" := by simpa [Kind.childNames] using hname
    rcases hname with rfl | rfl
    · exact hkind ((h.both_left _ _).both_right _ _)
    · exact hkind ((h.both_right _ _).both_right _ _)
  | _ => simp [Kind.childNames] at hname

end Filter

end MailSearch
