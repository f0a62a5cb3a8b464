-- How the compilation of a record can end. Whatever stands in a record, it is compiled to an
-- expression, or found invalid, or refused for a part that a search cannot express, or given up at
-- a type field that cannot be a key. The steps that would ask an empty stack or meet a node of an
-- unknown kind are never reached.
import MailSearch.Proofs.FirstFailure
import MailSearch.Proofs.Spelling

namespace MailSearch

/-! ## What cannot be a key -/

/-- A list stands somewhere in a filter. -/
def Filter.HoldsList : Filter → Prop
  | .unary _ operand => operand.HoldsList
  | .binary _ left right => left.HoldsList ∨ right.HoldsList
  | .array _ | .object _ => True
  | _ => False

/-- A list, a record, a filter with a list in it, a pair with such a value, or a node of an unknown
kind with such a value in a field. -/
inductive Value.NotAKey : Value → Prop
  | list (items : List Value) : NotAKey (.list items)
  | record (fields : Fields) : NotAKey (.record fields)
  | pair {name : String} {v : Value} : NotAKey v → NotAKey (.pair name v)
  | node {f : Filter} : f.HoldsList → NotAKey (.node f)
  | foreign {n : Foreign} {name : String} {v : Value} :
      (name, v) ∈ n.fields → NotAKey v → NotAKey (.foreign n)

theorem Filter.notAKey_law (f : Filter) :
    (f.notAKey? = none ∧ ¬ f.HoldsList) ∨ (f.notAKey? = some "list" ∧ f.HoldsList) := by
  induction f with
  | unary op x ih => simpa only [Filter.notAKey?, Filter.HoldsList] using ih
  | binary op l r ihl ihr =>
    simp only [Filter.notAKey?, Filter.HoldsList]
    rcases ihl with ⟨hl, hnl⟩ | ⟨hl, hhl⟩
    · rcases ihr with ⟨hr, hnr⟩ | ⟨hr, hhr⟩
      · exact .inl ⟨by simp [hl, hr], by simp [hnl, hnr]⟩
      · exact .inr ⟨by simp [hl, hr], .inr hhr⟩
    · exact .inr ⟨by simp [hl], .inl hhl⟩
  | array | object => exact .inr ⟨rfl, trivial⟩
  | _ => exact .inl ⟨rfl, fun h => h⟩

mutual

/-- What keeps a value from being a key is a list or a record. -/
theorem Value.notAKey_of_some : ∀ {v : Value} {typeName : String}, v.notAKey? = some typeName →
    v.NotAKey ∧ (typeName = "list" ∨ typeName = "dict")
  | .list items, _, h => ⟨.list items, .inl (Option.some.inj h).symm⟩
  | .record fields, _, h => ⟨.record fields, .inr (Option.some.inj h).symm⟩
  | .pair _ v, _, h => by
    obtain ⟨hnot, hname⟩ := Value.notAKey_of_some (v := v) h
    exact ⟨.pair hnot, hname⟩
  | .node f, typeName, h => by
    rcases f.notAKey_law with ⟨hnone, -⟩ | ⟨hlist, hholds⟩
    · rw [Value.notAKey?, hnone] at h
      cases h
    · rw [Value.notAKey?, hlist] at h
      exact ⟨.node hholds, .inl (Option.some.inj h).symm⟩
  | .foreign ⟨_, _, fields⟩, typeName, h => by
    have hfields : firstNotAKey? fields = some typeName := h
    obtain ⟨name, v, hmem, hnot, hname⟩ := exists_notAKey_of_some hfields
    exact ⟨.foreign hmem hnot, hname⟩

theorem exists_notAKey_of_some : ∀ {fs : Fields} {typeName : String},
    firstNotAKey? fs = some typeName →
      ∃ name v, (name, v) ∈ fs ∧ v.NotAKey ∧ (typeName = "list" ∨ typeName = "dict")
  | (name, v) :: rest, typeName, h => by
    rw [firstNotAKey?] at h
    rcases hv : v.notAKey? with _ | own
    · rw [hv, Option.none_or] at h
      obtain ⟨name', v', hmem, hlaw⟩ := exists_notAKey_of_some h
      exact ⟨name', v', List.mem_cons_of_mem _ hmem, hlaw⟩
    · rw [hv, Option.some_or] at h
      obtain rfl := Option.some.inj h
      exact ⟨name, v, List.mem_cons_self, Value.notAKey_of_some hv⟩

end

/-! ## How a reading fails -/

namespace Reading

/-- The first failure is at fault itself, since its parts are visited before it. -/
theorem atFault_of_firstFailure? {v s : Value} {path : List ChildPlace} {fault : ReadFault}
    (h : v.firstFailure? = some (path, s)) (hs : s.read = .error fault) : AtFault s fault := by
  induction path generalizing v with
  | nil =>
    rcases firstFailure?_cases h with ⟨_, _, _, _, _, _, _, hpath, _⟩ | ⟨-, rfl, hparts⟩
    · cases hpath
    · refine ⟨hs, ?_⟩
      intro c hc
      rw [children_eq] at hc
      obtain ⟨part, hpart, rfl⟩ := List.mem_map.mp hc
      exact hparts part hpart
  | cons place path ih =>
    rcases firstFailure?_cases h with ⟨_, _, _, _, _, _, _, hpath, hpart⟩ | ⟨hpath, -⟩
    · cases hpath
      exact ih hpart
    · cases hpath

/-- A value at fault for a type field that is no key is a record with such a field. -/
theorem record_of_atFault {s : Value} {typeName : String} (h : AtFault s (.typeNotAKey typeName)) :
    ∃ fs t, s = .record fs ∧ Fields.get? fs "type" = some t ∧ t.notAKey? = some typeName := by
  obtain ⟨hread, hchildren⟩ := h
  rcases he : expression? s with fault | _ | ⟨k, fs⟩
  · obtain ⟨fs, t, other, hs, ht, hkey, rfl⟩ := expression?_eq_error he
    have hfault := (read_noKey he).symm.trans hread
    cases hfault
    exact ⟨fs, t, hs, ht, hkey⟩
  · -- what is no expression is checked, and a check has faults of its own
    have hforeign : ∀ n, s ≠ .foreign n := by
      rintro n rfl
      rw [read_foreign] at hread
      cases hread
    rw [read_leaf he hforeign] at hread
    obtain ⟨own, -, hfault⟩ := finds_of_titled hread
    cases hfault
  · -- the same for an expression, once its children are read
    rcases hnodes : readAll (childrenIn k fs) with fault | nodes
    · obtain ⟨c, hc, hfault⟩ := readAll_eq_error hnodes
      obtain ⟨node, hnode⟩ := hchildren c (by simpa [children, he] using hc)
      rw [hnode] at hfault
      cases hfault
    · rw [read_of_readAll_children he hnodes] at hread
      obtain ⟨own, -, hfault⟩ := finds_of_titled hread
      cases hfault

/-- A reading fails at a record that is found invalid, or at one whose type field is no key. -/
theorem fault_cases {v : Value} {fault : ReadFault} (h : v.read = .error fault) :
    (∃ title own, fault = .invalid title own) ∨
      ∃ typeName, fault = .typeNotAKey typeName ∧ (typeName = "list" ∨ typeName = "dict") ∧
        ∃ path fs t, v.firstFailure? = some (path, .record fs) ∧
          Fields.get? fs "type" = some t ∧ t.NotAKey := by
  rcases hfirst : v.firstFailure? with _ | ⟨path, s⟩
  · obtain ⟨node, hnode⟩ := read_of_firstFailure?_eq_none hfirst
    rw [h] at hnode
    cases hnode
  · obtain ⟨other, hs⟩ := fails_iff.mp (firstFailure?_fails hfirst)
    have hself : SameWay path v v := sameWay_self (List.mem_of_find?_eq_some hfirst)
    obtain rfl : fault = other := by
      have hv := read_of_sameWay hself hfirst hs
      rw [h] at hv
      exact Except.error.inj hv
    have hfault := atFault_of_firstFailure? hfirst hs
    cases fault with
    | invalid title own => exact .inl ⟨title, own, rfl⟩
    | typeNotAKey typeName =>
      obtain ⟨fs, t, rfl, ht, hkey⟩ := record_of_atFault hfault
      obtain ⟨hnot, hname⟩ := Value.notAKey_of_some hkey
      exact .inr ⟨typeName, rfl, hname, path, fs, t, rfl, ht, hnot⟩
    | nothingBuilt => exact absurd rfl (finds_of_atFault hfault).1

end Reading

/-- A record is read as a filter or not at all. -/
theorem known_of_read_record {fs : Fields} {node : Node} (h : (Value.record fs).read = .ok node) :
    ∃ f, node = .known f := by
  cases node with
  | known f => exact ⟨f, rfl⟩
  | foreign n => cases Reading.eq_of_read_foreign h

/-! ## How a compilation ends -/

/-- The standard grammar, over any headers: a filter has an expression that is not empty, or it is
refused for one of its parts. -/
theorem express_known_cases (headers : List String) (f : Filter) :
    (∃ s, Node.express headers (.known f) = .ok s ∧ s ≠ "") ∨
      ∃ refusal, Node.express headers (.known f) = .error (.refused refusal) := by
  rcases h : Node.express headers (.known f) with fault | s
  · right
    rw [express_known] at h
    rcases he : f.answer headers with refusal | s
    · refine ⟨refusal, ?_⟩
      rw [he, Walk.accepted_error] at h
      rw [← h]
    · rw [he, Walk.accepted_ok] at h
      cases h
  · exact .inl ⟨s, rfl, (express_eq_ok_iff.mp h).2⟩

/-- Whatever a record holds, its compilation ends in one of four ways: with an expression that is
not empty, with the faults of a record, with a refusal, or with the name of a type that is no key;
and then the first value that could not be read is a record with a type field that is no key. A
record that can be read is a filter, and if the finished filters in it came to be like all others,
so did this one, and every field name in it is a name. -/
theorem a_record_compiles_or_is_refused_for_cause (name : String) (headers : List String)
    (fs : Fields) :
    (match (Compiler.ofHeaders name headers).compile (.record fs) with
      | .ok expression => expression ≠ ""
      | .error (.unreadable (.invalid _ _)) => True
      | .error (.unreadable (.typeNotAKey typeName)) =>
        (typeName = "list" ∨ typeName = "dict") ∧
          ∃ path gs t, (Value.record fs).firstFailure? = some (path, .record gs) ∧
            Fields.get? gs "type" = some t ∧ t.NotAKey
      | .error (.inexpressible (.refused _)) => True
      | .error _ => False) ∧
    ∀ node, (Value.record fs).read = .ok node →
      ∃ f, node = .known f ∧ ((∀ g, (Value.record fs).Holds g → g.Built) → f.Built ∧ f.Named) := by
  constructor
  · rw [CompilerOf.compile, Compiler.nodeOf]
    rcases hread : (Value.record fs).read with fault | node
    · rcases Reading.fault_cases hread with ⟨title, own, rfl⟩ | ⟨typeName, rfl, hkey⟩
      · trivial
      · exact hkey
    · obtain ⟨f, rfl⟩ := known_of_read_record hread
      simp only [ok_bind, Compiler.ofHeaders]
      rcases express_known_cases headers f with ⟨s, hs, hne⟩ | ⟨refusal, hrefusal⟩
      · rw [hs]
        exact hne
      · rw [hrefusal]
        trivial
  · intro node hread
    obtain ⟨f, rfl⟩ := known_of_read_record hread
    refine ⟨f, rfl, ?_⟩
    intro hheld
    have hbuilt : f.Built := .read hread hheld
    exact ⟨hbuilt, hbuilt.named⟩

/-- A match of a header, as a finished filter. -/
def fromBob : Filter := .binary "=~" (.field "from") (.string "bob")

/-- The finished match, or the record of an empty phrase. -/
def mixedFields : Fields :=
  [("type", .text "BinaryExpr"), ("operator", .text "OR"), ("left", .node fromBob),
    ("right", .record [("type", .text "FulltextTerm"), ("text", .text "")])]

theorem a_mixed_record_compiles :
    (∀ g, (Value.record mixedFields).Holds g → g.Built) ∧
      ∃ f s, (Value.record mixedFields).read = .ok (.known f) ∧ f.Built ∧ f.Named ∧
        Compiler.standard.compile (.record mixedFields) = .ok s ∧ s ≠ "" := by
  have hread : (Value.record mixedFields).read =
      .ok (.known (.binary "OR" fromBob (.phrase ""))) := by
    apply Reading.read_of_validate
    apply validate_of_own (k := .binary) (Filter.ofFields_binary _) rfl rfl
    rw [child_of_validate rfl (Filter.validate_node fromBob),
      child_of_validate rfl (validate_of_leaf (f := .phrase "") rfl rfl rfl rfl)]
    rfl
  have hheld : ∀ g, (Value.record mixedFields).Holds g → g.Built := by
    intro g hg
    cases hg with
    | field hmem hholds =>
      simp only [mixedFields, List.mem_cons, Prod.mk.injEq, List.not_mem_nil, or_false] at hmem
      rcases hmem with ⟨rfl, rfl⟩ | ⟨rfl, rfl⟩ | ⟨rfl, rfl⟩ | ⟨rfl, rfl⟩
      · cases hholds
      · cases hholds
      · cases hholds
        have hfrom : "from" ≠ "" := by decide
        exact built_of_named ⟨hfrom, trivial⟩ ⟨trivial, trivial⟩
      · exact absurd hholds (not_holds_of_isData rfl)
  have hlaw := a_record_compiles_or_is_refused_for_cause "GmailFilterCompiler" standardHeaders
    mixedFields
  obtain ⟨f, hf, hbuilt⟩ := hlaw.2 _ hread
  cases hf
  have hs : Compiler.standard.compile (.record mixedFields) = .ok "(from:\"bob\" OR \"\")" := by
    rw [Compiler.compile_of_read hread]
    exact compile_eq_ok_iff.mpr ⟨spelling_eq_ok_iff.mp rfl, by decide⟩
  have hne := hlaw.1
  rw [show (Compiler.ofHeaders "GmailFilterCompiler" standardHeaders).compile
    (.record mixedFields) = _ from hs] at hne
  exact ⟨hheld, _, _, hread, (hbuilt hheld).1, (hbuilt hheld).2, hs, hne⟩

end MailSearch
