-- Matches that are to fail. The search language has no sign of its own for such a match: it is a
-- match with a minus before it. So a filter means the same, and is refused for the same part, with
-- every such match written as the negation of a match.
import MailSearch.Filter.Building
import MailSearch.Proofs.Frames
import MailSearch.Proofs.Interchange
import MailSearch.Proofs.ReadingBack

namespace MailSearch

/-! ## Rewriting a whole tree -/

/-- A tree is spelled, or refused, like the tree with all such matches rewritten. The operands of a
match are rewritten too, and may hold such matches themselves. -/
theorem spelling_affirmed (headers : List String) (f : Filter) :
    f.affirmed.spelling headers = f.spelling headers := by
  induction f with
  | unary op x ih =>
    unfold Filter.affirmed Filter.spelling
    rw [ih]
  | binary op l r ihl ihr =>
    have hoperands : (Filter.binary op l.affirmed r.affirmed).spelling headers =
        (Filter.binary op l r).spelling headers := by
      unfold Filter.spelling
      rw [ihl, ihr]
    unfold Filter.affirmed
    split
    · rename_i hop
      subst hop
      rw [← Filter.spelling_hasNot]
      exact hoperands
    · exact hoperands
  | _ => rfl

/-- No match that is to fail stands in a tree, at any depth. -/
def Filter.Affirmative : Filter → Prop
  | .unary _ operand => operand.Affirmative
  | .binary op left right => op ≠ "!~" ∧ left.Affirmative ∧ right.Affirmative
  | _ => True

theorem affirmative_affirmed (f : Filter) : f.affirmed.Affirmative := by
  induction f with
  | unary op x ih => exact ih
  | binary op l r ihl ihr =>
    unfold Filter.affirmed
    split
    · have hhas : "=~" ≠ "!~" := by decide
      exact ⟨hhas, ihl, ihr⟩
    · rename_i hop
      exact ⟨hop, ihl, ihr⟩
  | _ => trivial

/-! ## Matches built by hand -/

theorem make_unary (op : String) (f : Filter) :
    Filter.make .unary [("operator", .text op), ("operand", .node f)] = .ok (.unary op f) := by
  rw [Filter.make, Filter.ofFields_unary, child_of_validate rfl (Filter.validate_node f)]
  rfl

theorem make_binary (op : String) (l r : Filter) :
    Filter.make .binary [("operator", .text op), ("left", .node l), ("right", .node r)] =
      .ok (.binary op l r) := by
  rw [Filter.make, Filter.ofFields_binary, child_of_validate rfl (Filter.validate_node l),
    child_of_validate rfl (Filter.validate_node r)]
  rfl

/-- A match of a header is built as soon as its text is one. -/
theorem headerMatch_field (symbol operation header : String) (value : Value) :
    Filter.headerMatch symbol operation (.node (.field header)) value =
      (Filter.ofText value).map fun text => .binary symbol (.field header) text := by
  unfold Filter.headerMatch Filter.headerOf
  rw [ok_bind]
  rcases Filter.ofText value with fault | text
  · rfl
  · exact make_binary symbol (.field header) text

/-! ## The law -/

/-- Over any headers: a tree in which every match that is to fail is written as a negated match has
none of them left, and compiles or fails as before. At any place of a tree one such match may be
written so, whatever its sides are. In particular a header that excludes a value and the negation
of the header that contains it are both built, or fail with one fault, and what is built may stand
for each other in any filter. -/
theorem a_failing_match_is_a_negated_match (name : String) (headers : List String) :
    (∀ f : Filter, f.affirmed.Affirmative ∧
      (Compiler.ofHeaders name headers).compile (.node f.affirmed) =
        (Compiler.ofHeaders name headers).compile (.node f)) ∧
    (∀ (c : Frame) (l r : Filter),
      (Compiler.ofHeaders name headers).compile (.node (c.fill (.binary "!~" l r))) =
        (Compiler.ofHeaders name headers).compile
          (.node (c.fill (.unary "NOT" (.binary "=~" l r))))) ∧
    ∀ (c : Frame) (header : String) (value : Value),
      match Filter.excludes (.node (.field header)) value,
        Filter.contains (.node (.field header)) value >>= fun has => Filter.negated (.node has) with
      | .ok f, .ok g =>
        (Compiler.ofHeaders name headers).compile (.node (c.fill f)) =
          (Compiler.ofHeaders name headers).compile (.node (c.fill g))
      | .error fault, .error other => fault = other
      | _, _ => False := by
  have hplace : ∀ (c : Frame) (l r : Filter),
      (Compiler.ofHeaders name headers).compile (.node (c.fill (.binary "!~" l r))) =
        (Compiler.ofHeaders name headers).compile
          (.node (c.fill (.unary "NOT" (.binary "=~" l r)))) := by
    intro c l r
    exact compile_fill_congr (Filter.spelling_hasNot headers l r) name c
  refine ⟨?_, hplace, ?_⟩
  · intro f
    exact ⟨affirmative_affirmed f, compile_congr (spelling_affirmed headers f) name⟩
  · intro c header value
    unfold Filter.excludes Filter.contains
    rw [headerMatch_field, headerMatch_field]
    rcases Filter.ofText value with fault | text
    · rfl
    · rw [map_ok, map_ok, ok_bind, Filter.negated, make_unary]
      exact hplace c (.field header) text

end MailSearch
