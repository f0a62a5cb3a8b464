-- Literals that a search cannot hold. The compiler refuses such a literal for its kind and never
-- looks at what it holds. So two trees that differ in nothing else compile alike, and two equal
-- nodes do, although numbers of one value may be written in them as whole numbers, binary numbers
-- or truth values.
import MailSearch.Filter.Same
import MailSearch.Proofs.Spelling

namespace MailSearch

/-! ## Trees that differ in payloads -/

/-- Two trees of one shape, with the same operators and the same texts. Where a search cannot hold
what stands there, the two have literals of one kind, which may hold anything. -/
inductive Filter.Alike : Filter → Filter → Prop
  | string (value : String) : Alike (.string value) (.string value)
  | field (name : String) : Alike (.field name) (.field name)
  | phrase (text : String) : Alike (.phrase text) (.phrase text)
  | unary (op : String) {x y : Filter} : Alike x y → Alike (.unary op x) (.unary op y)
  | binary (op : String) {l r l' r' : Filter} : Alike l l' → Alike r r' →
      Alike (.binary op l r) (.binary op l' r')
  | literal {f g : Filter} : f.kind ∈ Kind.refused → f.kind = g.kind → Alike f g

/-- The two walks agree at every joint, since they agree on what comes from the operands. -/
theorem Filter.Alike.spelling_eq {f g : Filter} (h : f.Alike g) (headers : List String) :
    f.spelling headers = g.spelling headers := by
  induction h with
  | string | field | phrase => rfl
  | unary op _ ih =>
    unfold Filter.spelling
    rw [ih]
  | binary op _ _ ihl ihr =>
    unfold Filter.spelling
    rw [ihl, ihr]
  | literal hrefused hkind =>
    rw [spelling_of_refused (.literal hrefused), spelling_of_refused (.literal (hkind ▸ hrefused)),
      hkind]

/-! ## Equal trees -/

/-- Equal trees have the same texts. What their literals hold may be written in two ways. -/
theorem Filter.alike_of_same {f g : Filter} (h : f.same g = true) : f.Alike g := by
  have hkind := Filter.kind_eq_of_same h
  induction f generalizing g with
  | string value =>
    cases g with
    | string other =>
      obtain rfl : value = other := by simpa [Filter.same] using h
      exact .string value
    | _ => cases hkind
  | field name =>
    cases g with
    | field other =>
      obtain rfl : name = other := by simpa [Filter.same] using h
      exact .field name
    | _ => cases hkind
  | phrase text =>
    cases g with
    | phrase other =>
      obtain rfl : text = other := by simpa [Filter.same] using h
      exact .phrase text
    | _ => cases hkind
  | unary op x ih =>
    cases g with
    | unary op' y =>
      rw [Filter.same, Bool.and_eq_true, decide_eq_true_eq] at h
      obtain ⟨rfl, hxy⟩ := h
      exact .unary op (ih hxy (Filter.kind_eq_of_same hxy))
    | _ => cases hkind
  | binary op l r ihl ihr =>
    cases g with
    | binary op' l' r' =>
      simp only [Filter.same, Bool.and_eq_true, decide_eq_true_eq] at h
      obtain ⟨⟨rfl, hl⟩, hr⟩ := h
      exact .binary op (ihl hl (Filter.kind_eq_of_same hl)) (ihr hr (Filter.kind_eq_of_same hr))
    | _ => cases hkind
  | _ => exact .literal (by simp [Filter.kind, Kind.refused]) hkind

/-! ## The law -/

/-- Over any headers: a literal that a search cannot hold is refused for its kind. So two trees that
differ in the payloads of such literals only compile to the same expression, or are refused for the
same part, and so do two nodes that are equal as values. -/
theorem payloads_are_never_looked_at (name : String) (headers : List String) :
    (∀ f : Filter, f.kind ∈ Kind.refused →
      (Compiler.ofHeaders name headers).compile (.node f) =
        .error (.inexpressible (.refused (.literal f.kind)))) ∧
    (∀ f g : Filter, f.Alike g →
      (Compiler.ofHeaders name headers).compile (.node f) =
        (Compiler.ofHeaders name headers).compile (.node g)) ∧
    ∀ m n : Node, m.toValue.same n.toValue = true →
      (Compiler.ofHeaders name headers).compile m.toValue =
        (Compiler.ofHeaders name headers).compile n.toValue := by
  have halike : ∀ f g : Filter, f.Alike g →
      (Compiler.ofHeaders name headers).compile (.node f) =
        (Compiler.ofHeaders name headers).compile (.node g) := by
    intro f g h
    exact compile_congr (h.spelling_eq headers) name
  refine ⟨fun f hkind => (Refused.literal hkind).compile name, halike, ?_⟩
  intro m n h
  cases m with
  | known f =>
    cases n with
    | known g =>
      rw [Node.toValue, Node.toValue, Value.same] at h
      exact halike f g (Filter.alike_of_same h)
    | foreign n => simp [Node.toValue, Value.same, sameNumbers, Value.number?] at h
  | foreign m =>
    cases n with
    | known g => simp [Node.toValue, Value.same, sameNumbers, Value.number?] at h
    | foreign n =>
      rw [Node.toValue, Node.toValue, Value.same] at h
      rw [Node.toValue, Node.toValue, Compiler.compile_foreign, Compiler.compile_foreign,
        Foreign.name_eq_of_same h]

/-- A list with a number and a record in it, as the operand of a negation behind a match. -/
def payloadFilter (number flag : Value) : Filter :=
  .binary "OR" (.binary "=~" (.field "from") (.string "bob"))
    (.unary "NOT" (.array [number, .record [("flag", flag), ("a", .null)]]))

theorem one_number_in_two_forms_is_never_looked_at :
    (payloadFilter (.int 1) (.bool true)).Alike (payloadFilter (.int 2) .null) ∧
      Compiler.standard.compile (.node (payloadFilter (.int 1) (.bool true))) =
        Compiler.standard.compile (.node (payloadFilter (.int 2) .null)) ∧
      (Node.known (payloadFilter (.int 1) (.bool true))).toValue.same
        (Node.known (payloadFilter (.float ⟨0x3ff0000000000000⟩) (.int 1))).toValue = true ∧
      Compiler.standard.compile (.node (payloadFilter (.float ⟨0x3ff0000000000000⟩) (.int 1))) =
        .error (.inexpressible (.refused (.literal .array))) := by
  have hone : Number.same (.int 1) (.float ⟨0x3ff0000000000000⟩) = true := by decide
  have hsame : (Node.known (payloadFilter (.int 1) (.bool true))).toValue.same
      (Node.known (payloadFilter (.float ⟨0x3ff0000000000000⟩) (.int 1))).toValue = true := by
    simp [Node.toValue, payloadFilter, Value.same, Filter.same, sameItems, sameFields, Fields.get?,
      sameNumbers, Value.number?, hone, Number.same_refl]
  have halike : (payloadFilter (.int 1) (.bool true)).Alike (payloadFilter (.int 2) .null) :=
    .binary "OR" (.binary "=~" (.field "from") (.string "bob"))
      (.unary "NOT" (.literal (by simp [Filter.kind, Kind.refused]) rfl))
  have hrefused : Compiler.standard.compile (.node (payloadFilter (.int 1) (.bool true))) =
      .error (.inexpressible (.refused (.literal .array))) := compile_node _
  obtain ⟨-, hshape, hequal⟩ := payloads_are_never_looked_at "GmailFilterCompiler" standardHeaders
  exact ⟨halike, hshape _ _ halike, hsame, (hequal _ _ hsame).symm.trans hrefused⟩

end MailSearch
