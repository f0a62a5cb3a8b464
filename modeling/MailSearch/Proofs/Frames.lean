-- What a part of a tree does to the expression of the whole. A frame is a tree with a hole, so
-- every place at which a part may stand is a frame. The expression of the part stands in that of
-- the whole, a part may be changed for another one with the same expression, and a part without
-- an expression leaves the whole without one.
import MailSearch.Proofs.SourceLanguage

namespace MailSearch

/-! ## Trees with a hole -/

/-- A tree with a hole at the place of one of its parts. -/
inductive Frame where
  | hole
  | operand (op : String) (inner : Frame)
  | left (op : String) (inner : Frame) (r : Filter)
  | right (op : String) (l : Filter) (inner : Frame)

def Frame.fill : Frame → Filter → Filter
  | .hole, f => f
  | .operand op inner, f => .unary op (inner.fill f)
  | .left op inner r, f => .binary op (inner.fill f) r
  | .right op l inner, f => .binary op l (inner.fill f)

/-- Two parts that are spelled alike, or refused alike, leave the whole as it is. -/
theorem spelling_fill_congr {headers : List String} {f g : Filter}
    (h : f.spelling headers = g.spelling headers) (c : Frame) :
    (c.fill f).spelling headers = (c.fill g).spelling headers := by
  induction c with
  | hole => exact h
  | operand op inner ih =>
    unfold Frame.fill Filter.spelling
    rw [ih]
  | left op inner r ih =>
    unfold Frame.fill Filter.spelling
    rw [ih]
  | right op l inner ih =>
    unfold Frame.fill Filter.spelling
    rw [ih]

theorem compile_fill_congr {headers : List String} {f g : Filter}
    (h : f.spelling headers = g.spelling headers) (name : String) (c : Frame) :
    (Compiler.ofHeaders name headers).compile (.node (c.fill f)) =
      (Compiler.ofHeaders name headers).compile (.node (c.fill g)) :=
  compile_congr (spelling_fill_congr h c) name

/-! ## Spellings in spellings -/

/-- The first text stands in the second one, in one piece. -/
def Within (w s : String) : Prop := ∃ before behind, s = before ++ w ++ behind

theorem Within.refl (s : String) : Within s s := ⟨"", "", by simp⟩

theorem Within.trans {u v w : String} (huv : Within u v) (hvw : Within v w) : Within u w := by
  obtain ⟨a, b, rfl⟩ := huv
  obtain ⟨c, d, rfl⟩ := hvw
  exact ⟨c ++ a, b ++ d, by simp only [String.append_assoc]⟩

theorem within_append (before s behind : String) : Within s (before ++ s ++ behind) :=
  ⟨before, behind, rfl⟩

/-- The operand of a negation is spelled inside it. -/
theorem Spelled.of_unary {headers : List String} {op s : String} {x : Filter}
    (h : Spelled headers (.unary op x) s) : ∃ w, Spelled headers x w ∧ Within w s := by
  cases h with
  | @negated x w hx _ => exact ⟨w, hx, "-", "", by simp⟩

theorem Spelled.of_binary {headers : List String} {op s : String} {l r : Filter}
    (h : Spelled headers (.binary op l r) s) :
    ∃ a b, Spelled headers l a ∧ Spelled headers r b ∧ Within a s ∧ Within b s := by
  cases h with
  | @both l r a b hl hr =>
    refine ⟨a, b, hl, hr, ⟨"(", " " ++ b ++ ")", ?_⟩, within_append ("(" ++ a ++ " ") b ")"⟩
    simp only [String.append_assoc]
  | @either l r a b hl hr =>
    refine ⟨a, b, hl, hr, ⟨"(", " OR " ++ b ++ ")", ?_⟩, within_append ("(" ++ a ++ " OR ") b ")"⟩
    simp only [String.append_assoc]
  | @has l r a b hl hr =>
    refine ⟨a, b, hl, hr, ⟨"", ":\"" ++ b ++ "\"", ?_⟩, within_append (a ++ ":\"") b "\""⟩
    simp [String.append_assoc]
  | @hasNot l r a b hl hr =>
    refine ⟨a, b, hl, hr, ⟨"-", ":\"" ++ b ++ "\"", ?_⟩, within_append ("-" ++ a ++ ":\"") b "\""⟩
    simp only [String.append_assoc]

/-- Wherever a part stands, it is spelled inside the spelling of the whole. -/
theorem Spelled.of_fill {headers : List String} {c : Frame} {f : Filter} {s : String}
    (h : Spelled headers (c.fill f) s) : ∃ w, Spelled headers f w ∧ Within w s := by
  induction c generalizing s with
  | hole => exact ⟨s, h, .refl s⟩
  | operand op inner ih =>
    obtain ⟨a, ha, has⟩ := h.of_unary
    obtain ⟨w, hw, hwa⟩ := ih ha
    exact ⟨w, hw, hwa.trans has⟩
  | left op inner r ih =>
    obtain ⟨a, -, ha, -, has, -⟩ := h.of_binary
    obtain ⟨w, hw, hwa⟩ := ih ha
    exact ⟨w, hw, hwa.trans has⟩
  | right op l inner ih =>
    obtain ⟨-, b, -, hb, -, hbs⟩ := h.of_binary
    obtain ⟨w, hw, hwb⟩ := ih hb
    exact ⟨w, hw, hwb.trans hbs⟩

/-! ## Refused parts -/

/-- A part that is refused leaves the whole refused: for the same reason, or for one that comes
before the part in the walk, and then it makes no difference what stands there. -/
theorem Refused.fill {headers : List String} {f : Filter} {refusal : Refusal}
    (h : Refused headers f refusal) (c : Frame) :
    Refused headers (c.fill f) refusal ∨ ∃ other, ∀ g, Refused headers (c.fill g) other := by
  induction c with
  | hole => exact .inl h
  | operand op inner ih =>
    by_cases hop : op = "NOT"
    · subst hop
      rcases ih with hsame | ⟨other, hother⟩
      · exact .inl (.operand hsame)
      · exact .inr ⟨other, fun g => .operand (hother g)⟩
    · exact .inr ⟨.operator op, fun g => .negation hop⟩
  | left op inner r ih =>
    by_cases hop : op ∈ ["AND", "OR", "=~", "!~"]
    · rcases ih with hsame | ⟨other, hother⟩
      · exact .inl (.left hop hsame)
      · exact .inr ⟨other, fun g => .left hop (hother g)⟩
    · exact .inr ⟨.operator op, fun g => .joint hop⟩
  | right op l inner ih =>
    by_cases hop : op ∈ ["AND", "OR", "=~", "!~"]
    · rcases spelled_or_refused headers l with ⟨a, hl⟩ | ⟨first, hl⟩
      · rcases ih with hsame | ⟨other, hother⟩
        · exact .inl (.right hop hl hsame)
        · exact .inr ⟨other, fun g => .right hop hl (hother g)⟩
      · exact .inr ⟨first, fun g => .left hop hl⟩
    · exact .inr ⟨.operator op, fun g => .joint hop⟩

/-! ## The law -/

/-- A tree that is more than an empty text compiles to its spelling. -/
theorem Spelled.compile {headers : List String} {f : Filter} {s : String}
    (h : Spelled headers f s) (hnamed : f.Named) (hne : f ≠ .string "") (name : String) :
    (Compiler.ofHeaders name headers).compile (.node f) = .ok s :=
  compile_ofHeaders_eq_ok_iff.mpr ⟨h, fun hs => hne ((h.eq_empty_iff hnamed).mp hs)⟩

/-- Over any headers and at any place of a tree: if the whole compiles, so does the part, and its
expression stands in that of the whole, where an empty text counts as the empty expression. A part
may be changed for another one with the same expression, and the whole compiles or fails as before.
A part that fails and is no empty text makes the whole fail, either with its own fault or with one
that comes up whatever stands at its place. Every filter that can come to be is named. -/
theorem a_part_counts_by_its_expression (name : String) (headers : List String) (c : Frame)
    {f : Filter} (hnamed : f.Named) :
    (∀ s, (Compiler.ofHeaders name headers).compile (.node (c.fill f)) = .ok s →
      ∃ w, ((Compiler.ofHeaders name headers).compile (.node f) = .ok w ∨
        f = .string "" ∧ w = "") ∧ Within w s) ∧
    (∀ g w, (Compiler.ofHeaders name headers).compile (.node f) = .ok w →
      (Compiler.ofHeaders name headers).compile (.node g) = .ok w →
      (Compiler.ofHeaders name headers).compile (.node (c.fill f)) =
        (Compiler.ofHeaders name headers).compile (.node (c.fill g))) ∧
    ∀ fault, f ≠ .string "" → (Compiler.ofHeaders name headers).compile (.node f) = .error fault →
      ∃ other, (Compiler.ofHeaders name headers).compile (.node (c.fill f)) = .error other ∧
        (other = fault ∨
          ∀ g, (Compiler.ofHeaders name headers).compile (.node (c.fill g)) = .error other) := by
  refine ⟨?_, ?_, ?_⟩
  · intro s hs
    obtain ⟨w, hw, hwithin⟩ := (compile_ofHeaders_eq_ok_iff.mp hs).1.of_fill
    refine ⟨w, ?_, hwithin⟩
    by_cases hempty : f = .string ""
    · exact .inr ⟨hempty, (hw.eq_empty_iff hnamed).mpr hempty⟩
    · exact .inl (hw.compile hnamed hempty name)
  · intro g w hf hg
    have hf := spelling_of_spelled (compile_ofHeaders_eq_ok_iff.mp hf).1
    have hg := spelling_of_spelled (compile_ofHeaders_eq_ok_iff.mp hg).1
    exact compile_fill_congr (hf.trans hg.symm) name c
  · intro fault hne hfault
    rcases spelled_or_refused headers f with ⟨s, hs⟩ | ⟨refusal, hrefused⟩
    · rw [hs.compile hnamed hne name] at hfault
      cases hfault
    · rw [hrefused.compile name] at hfault
      cases hfault
      rcases hrefused.fill c with hsame | ⟨other, hother⟩
      · exact ⟨_, hsame.compile name, .inl rfl⟩
      · refine ⟨_, (hother f).compile name, .inr ?_⟩
        intro g
        exact (hother g).compile name

/-- One of two terms as the value of a match that is negated. -/
def valueFrame : Frame :=
  .operand "NOT" (.right "=~" (.field "subject") (.left "OR" .hole (.phrase "now")))

theorem a_negated_word_counts_by_its_expression :
    (Filter.unary "NOT" (.string "late")).Named ∧
      Compiler.standard.compile (.node (valueFrame.fill (.unary "NOT" (.string "late")))) =
        .ok "-subject:\"(-late OR \"now\")\"" ∧
      Within "-late" "-subject:\"(-late OR \"now\")\"" ∧
      Compiler.standard.compile (.node (valueFrame.fill (.string "-late"))) =
        .ok "-subject:\"(-late OR \"now\")\"" ∧
      (Filter.number (.int 5)).Named ∧
      ∃ fault, Compiler.standard.compile (.node (valueFrame.fill (.number (.int 5)))) =
        .error fault := by
  have hpart : Compiler.standard.compile (.node (.unary "NOT" (.string "late"))) =
      .ok "-late" := compile_node _
  have hword : Compiler.standard.compile (.node (.string "-late")) = .ok "-late" := compile_node _
  have hnumber : Compiler.standard.compile (.node (.number (.int 5))) =
      .error (.inexpressible (.refused (.literal .number))) := compile_node _
  have hwhole : Compiler.standard.compile
      (.node (valueFrame.fill (.unary "NOT" (.string "late")))) =
        .ok "-subject:\"(-late OR \"now\")\"" := compile_node _
  obtain ⟨hstands, hchange, -⟩ := a_part_counts_by_its_expression "GmailFilterCompiler"
    standardHeaders valueFrame (f := .unary "NOT" (.string "late")) trivial
  obtain ⟨-, -, hfails⟩ := a_part_counts_by_its_expression "GmailFilterCompiler"
    standardHeaders valueFrame (f := .number (.int 5)) trivial
  obtain ⟨w, hw, hwithin⟩ := hstands _ hwhole
  have hlate : w = "-late" := by
    rcases hw with hw | ⟨hempty, -⟩
    · exact (Except.ok.inj (hpart.symm.trans hw)).symm
    · cases hempty
  obtain ⟨fault, hfault, -⟩ := hfails _ (by simp) hnumber
  exact ⟨trivial, hwhole, hlate ▸ hwithin, (hchange _ _ hpart hword).symm.trans hwhole, trivial,
    fault, hfault⟩

end MailSearch
