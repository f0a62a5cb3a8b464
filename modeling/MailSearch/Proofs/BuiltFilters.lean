-- Which filters can come to be. A filter is made of fields or read from a value, and the finished
-- filters in those fields came to be in the same way. So every field name in a filter is a name,
-- at any depth.
import MailSearch.Proofs.Agreement
import MailSearch.Proofs.Tree

namespace MailSearch

/-! ## How filters come to be -/

/-- A value holds a finished filter: it is one, or one of its parts holds it. -/
inductive Value.Holds : Value → Filter → Prop
  | node (f : Filter) : Holds (.node f) f
  | item {items : List Value} {v : Value} {f : Filter} :
      v ∈ items → Holds v f → Holds (.list items) f
  | field {fields : Fields} {name : String} {v : Value} {f : Filter} :
      (name, v) ∈ fields → Holds v f → Holds (.record fields) f
  | pair {name : String} {v : Value} {f : Filter} : Holds v f → Holds (.pair name v) f

/-- A filter that was made of fields or read from a value, like every filter in them before. -/
inductive Filter.Built : Filter → Prop
  | made {k : Kind} {fs : Fields} {f : Filter} : Filter.make k fs = .ok f →
      (∀ g, Value.Holds (.record fs) g → Built g) → Built f
  | read {v : Value} {f : Filter} : v.read = .ok (.known f) →
      (∀ g, v.Holds g → Built g) → Built f

/-- Every field name in a tree is a name. -/
def Filter.Named : Filter → Prop
  | .field name => name ≠ ""
  | .unary _ operand => operand.Named
  | .binary _ left right => left.Named ∧ right.Named
  | _ => True

/-! ## What is built is named -/

theorem Fields.mem_of_get? {fs : Fields} {name : String} {v : Value}
    (h : Fields.get? fs name = some v) : (name, v) ∈ fs := by
  induction fs with
  | nil => simp [Fields.get?] at h
  | cons head rest ih =>
    obtain ⟨key, w⟩ := head
    by_cases hkey : key = name
    · simp_all [Fields.get?]
    · simp only [Fields.get?, if_neg hkey] at h
      exact List.mem_cons_of_mem _ (ih h)

theorem Fields.own_of_ofKind {fs : Fields} {k : Kind} {own : Checked α} {a : α}
    (h : Fields.ofKind fs k own = .ok a) : own = .ok a := by
  obtain ⟨b, _, hb, _, rfl⟩ := Checked.both_eq_ok_iff.mp h
  obtain ⟨_, c, _, hc, rfl⟩ := Checked.both_eq_ok_iff.mp hb
  exact hc

theorem Filter.validate_of_child {fs : Fields} {name : String} {f : Filter}
    (h : Filter.child fs name = .ok f) :
    ∃ v, Fields.get? fs name = some v ∧ Filter.validate v = .ok f := by
  rw [Filter.child_eq, Checked.under_eq_ok_iff] at h
  rcases hv : Fields.get? fs name with _ | v
  · simp [hv, Checked.fault] at h
  · exact ⟨v, rfl, by simpa [hv] using h⟩

theorem Filter.ofFields_of_validate {fs : Fields} {f : Filter}
    (h : Filter.validate (.record fs) = .ok f) : ∃ k, Filter.ofFields k fs = .ok f := by
  rw [Filter.validate] at h
  split at h
  · simp [Checked.fault] at h
  · rename_i s _
    rcases hk : Kind.ofName? s with _ | k
    · simp [hk, Checked.fault] at h
    · exact ⟨k, by simpa [hk, Checked.under_eq_ok_iff] using h⟩
  · simp [Checked.fault] at h

theorem Rule.ne_empty_of_nonEmptyText {v : Value} {s : String}
    (h : Rule.nonEmptyText v = .ok s) : s ≠ "" := by
  unfold Rule.nonEmptyText at h
  rcases htext : Rule.text v with faults | t
  · simp [htext] at h
  · by_cases hempty : t.isEmpty
    · simp [htext, hempty, Checked.fault] at h
    · simp only [htext, if_neg hempty, Except.ok.injEq] at h
      simpa [h] using hempty

theorem Fields.rule_of_required {fs : Fields} {name : String} {rule : Value → Checked α} {a : α}
    (h : Fields.required fs name rule = .ok a) :
    ∃ v, Fields.get? fs name = some v ∧ rule v = .ok a := by
  rw [Fields.required, Checked.under_eq_ok_iff] at h
  rcases hv : Fields.get? fs name with _ | v
  · simp [hv, Checked.fault] at h
  · exact ⟨v, rfl, by simpa [hv] using h⟩

theorem named_of_toLeaf {fs : Fields} {k : Kind} {f : Filter} (h : fs.toLeaf k = .ok f) :
    f.Named := by
  cases k with
  | field =>
    obtain ⟨name, hname, rfl⟩ := map_eq_ok_iff.mp h
    obtain ⟨v, _, hrule⟩ := Fields.rule_of_required hname
    exact Rule.ne_empty_of_nonEmptyText hrule
  | regExp =>
    obtain ⟨pattern, flags, _, _, rfl⟩ := Checked.both_eq_ok_iff.mp h
    trivial
  | null | nan =>
    cases h
    trivial
  | unary | binary => simp [Fields.toLeaf, Checked.fault] at h
  | _ =>
    obtain ⟨a, _, rfl⟩ := map_eq_ok_iff.mp h
    trivial

/-- A filter of fields is named if its children are. -/
theorem named_of_ofFields {k : Kind} {fs : Fields} {f : Filter} (h : Filter.ofFields k fs = .ok f)
    (hchildren : ∀ name v g, Fields.get? fs name = some v → Filter.validate v = .ok g → g.Named) :
    f.Named := by
  have hchild : ∀ {name g}, Filter.child fs name = .ok g → g.Named := fun h => by
    obtain ⟨v, hv, hg⟩ := Filter.validate_of_child h
    exact hchildren _ v _ hv hg
  cases k with
  | unary =>
    rw [Filter.ofFields_unary] at h
    obtain ⟨op, x, _, hx, rfl⟩ := Checked.both_eq_ok_iff.mp (Fields.own_of_ofKind h)
    have hx : x.Named := hchild hx
    exact hx
  | binary =>
    rw [Filter.ofFields_binary] at h
    obtain ⟨op, both, _, hboth, rfl⟩ := Checked.both_eq_ok_iff.mp (Fields.own_of_ofKind h)
    obtain ⟨l, r, hl, hr, rfl⟩ := Checked.both_eq_ok_iff.mp hboth
    exact ⟨hchild hl, hchild hr⟩
  | _ =>
    rw [Filter.ofFields_leaf fs rfl] at h
    exact named_of_toLeaf (Fields.own_of_ofKind h)

theorem named_of_validate {v : Value} {f : Filter} (h : Filter.validate v = .ok f)
    (hheld : ∀ g, v.Holds g → g.Named) : f.Named := by
  induction hn : v.size using Nat.strongRecOn generalizing v f with
  | ind n ih =>
    subst hn
    cases v with
    | node g =>
      rw [Filter.validate] at h
      cases h
      exact hheld _ (.node _)
    | record fs =>
      have hchildren : ∀ name w g, Fields.get? fs name = some w → Filter.validate w = .ok g →
          g.Named := by
        intro name w g hw hg
        have hsize : w.size < (Value.record fs).size := by
          have := Fields.size_get? hw
          simp only [Value.size]
          omega
        exact ih w.size hsize hg (fun g hg => hheld g (.field (Fields.mem_of_get? hw) hg)) rfl
      obtain ⟨k, hk⟩ := Filter.ofFields_of_validate h
      exact named_of_ofFields hk hchildren
    | foreign n =>
      rw [Filter.validate] at h
      exact absurd h (n.validate_ne_ok f)
    | _ => simp [Filter.validate, Checked.fault] at h

/-- What is built is named: the fields that make a filter are checked, and the filters that stand
in them were built before. -/
theorem Filter.Built.named {f : Filter} (h : f.Built) : f.Named := by
  induction h with
  | @made k fs f hmade _ ih =>
    have hfields : Filter.ofFields k fs = .ok f := by
      rcases hk : Filter.ofFields k fs with faults | g
      · simp [Filter.make, hk] at hmade
      · simpa [Filter.make, hk] using hmade
    refine named_of_ofFields hfields fun name v g hv hg => ?_
    exact named_of_validate hg fun g hg => ih g (.field (Fields.mem_of_get? hv) hg)
  | @read v f hread _ ih =>
    refine named_of_validate (v := v) ?_ ih
    rw [← Reading.validate_of_read hread, Node.toValue, Filter.validate]

end MailSearch
