-- Spellings as derivations. A tree has a spelling if one of eight rules gives it, from the
-- spellings of its operands, and it is refused if one of nine rules says why. So a law of all
-- spellings, or of all refusals, is shown by one induction, rule by rule.
import MailSearch.Proofs.WalkMeaning

namespace MailSearch

/-- The tree is spelled as the text, over the given headers. -/
inductive Spelled (headers : List String) : Filter → String → Prop
  | string (value : String) : Spelled headers (.string value) value
  | field (name : String) : Spelled headers (.field name) name
  | phrase (text : String) : Spelled headers (.phrase text) ("\"" ++ text ++ "\"")
  | negated {x : Filter} {s : String} : Spelled headers x s → s ≠ "" →
      Spelled headers (.unary "NOT" x) ("-" ++ s)
  | both {l r : Filter} {a b : String} : Spelled headers l a → Spelled headers r b →
      a ≠ "" → b ≠ "" → Spelled headers (.binary "AND" l r) ("(" ++ a ++ " " ++ b ++ ")")
  | either {l r : Filter} {a b : String} : Spelled headers l a → Spelled headers r b →
      a ≠ "" → b ≠ "" → Spelled headers (.binary "OR" l r) ("(" ++ a ++ " OR " ++ b ++ ")")
  | has {l r : Filter} {a b : String} : Spelled headers l a → Spelled headers r b →
      a ∈ headers → Spelled headers (.binary "=~" l r) (a ++ ":\"" ++ b ++ "\"")
  | hasNot {l r : Filter} {a b : String} : Spelled headers l a → Spelled headers r b →
      a ∈ headers → Spelled headers (.binary "!~" l r) ("-" ++ a ++ ":\"" ++ b ++ "\"")

theorem spelling_of_spelled {headers : List String} {f : Filter} {s : String}
    (h : Spelled headers f s) : f.spelling headers = .ok s := by
  induction h with
  | string | field | phrase => rfl
  | negated _ hs ih => simp [Filter.spelling, ih, hs]
  | both _ _ ha hb ihl ihr | either _ _ ha hb ihl ihr => simp [Filter.spelling, ihl, ihr, ha, hb]
  | has _ _ ha ihl ihr | hasNot _ _ ha ihl ihr => simp [Filter.spelling, ihl, ihr, ha]

/-- A tree has one spelling at most. -/
theorem Spelled.eq {headers : List String} {f : Filter} {s t : String}
    (hs : Spelled headers f s) (ht : Spelled headers f t) : s = t := by
  have h := spelling_of_spelled hs
  rw [spelling_of_spelled ht] at h
  exact (Except.ok.inj h).symm

/-! ## Refusals -/

/-- The kinds of literals that a search cannot hold. -/
def Kind.refused : List Kind :=
  [number, boolean, null, regExp, moment, duration, array, object, infinity, nan]

/-- The tree is refused for this part, over the given headers: for an operator before its operands,
for the left operand before the right one, and for what does not fit together last. -/
inductive Refused (headers : List String) : Filter → Refusal → Prop
  | literal {f : Filter} : f.kind ∈ Kind.refused → Refused headers f (.literal f.kind)
  | negation {op : String} {x : Filter} : op ≠ "NOT" →
      Refused headers (.unary op x) (.operator op)
  | operand {x : Filter} {refusal : Refusal} : Refused headers x refusal →
      Refused headers (.unary "NOT" x) refusal
  | blankOperand {x : Filter} : Spelled headers x "" →
      Refused headers (.unary "NOT" x) (.literal .string)
  | joint {op : String} {l r : Filter} : op ∉ ["AND", "OR", "=~", "!~"] →
      Refused headers (.binary op l r) (.operator op)
  | left {op : String} {l r : Filter} {refusal : Refusal} : op ∈ ["AND", "OR", "=~", "!~"] →
      Refused headers l refusal → Refused headers (.binary op l r) refusal
  | right {op : String} {l r : Filter} {a : String} {refusal : Refusal} :
      op ∈ ["AND", "OR", "=~", "!~"] → Spelled headers l a → Refused headers r refusal →
      Refused headers (.binary op l r) refusal
  | blankTerm {op : String} {l r : Filter} {a b : String} : op = "AND" ∨ op = "OR" →
      Spelled headers l a → Spelled headers r b → a = "" ∨ b = "" →
      Refused headers (.binary op l r) (.literal .string)
  | header {op : String} {l r : Filter} {a b : String} : op = "=~" ∨ op = "!~" →
      Spelled headers l a → Spelled headers r b → a ∉ headers →
      Refused headers (.binary op l r) (.header a)

theorem spelling_of_operand_error {headers : List String} {x : Filter} {refusal : Refusal}
    (hx : x.spelling headers = .error refusal) :
    (Filter.unary "NOT" x).spelling headers = .error refusal := by
  rw [Filter.spelling, if_neg (not_not_intro rfl), hx]

theorem spelling_of_left_error {headers : List String} {op : String} {l r : Filter}
    {refusal : Refusal} (hop : op ∈ ["AND", "OR", "=~", "!~"])
    (hl : l.spelling headers = .error refusal) :
    (Filter.binary op l r).spelling headers = .error refusal := by
  rw [Filter.spelling, if_neg (not_not_intro hop), hl]

theorem spelling_of_right_error {headers : List String} {op a : String} {l r : Filter}
    {refusal : Refusal} (hop : op ∈ ["AND", "OR", "=~", "!~"]) (hl : l.spelling headers = .ok a)
    (hr : r.spelling headers = .error refusal) :
    (Filter.binary op l r).spelling headers = .error refusal := by
  rw [Filter.spelling, if_neg (not_not_intro hop), hl, hr]

theorem spelling_of_blank_term {headers : List String} {op a b : String} {l r : Filter}
    (hop : op = "AND" ∨ op = "OR") (hl : l.spelling headers = .ok a)
    (hr : r.spelling headers = .ok b) (hblank : a = "" ∨ b = "") :
    (Filter.binary op l r).spelling headers = .error (.literal .string) := by
  by_cases ha : a = ""
  · rcases hop with rfl | rfl <;> simp [Filter.spelling, hl, hr, ha]
  · have hb : b = "" := hblank.resolve_left ha
    rcases hop with rfl | rfl <;> simp [Filter.spelling, hl, hr, hb]

theorem spelling_of_match_error {headers : List String} {op a b : String} {l r : Filter}
    (hop : op = "=~" ∨ op = "!~") (hl : l.spelling headers = .ok a)
    (hr : r.spelling headers = .ok b) (ha : a ∉ headers) :
    (Filter.binary op l r).spelling headers = .error (.header a) := by
  rcases hop with rfl | rfl <;> simp [Filter.spelling, hl, hr, ha]

theorem spelling_of_refused {headers : List String} {f : Filter} {refusal : Refusal}
    (h : Refused headers f refusal) : f.spelling headers = .error refusal := by
  induction h with
  | @literal f hkind =>
    cases f with
    | string | field | phrase | unary | binary => simp [Filter.kind, Kind.refused] at hkind
    | _ => rfl
  | negation hop => exact if_pos hop
  | operand _ ih => exact spelling_of_operand_error ih
  | blankOperand hx => simp [Filter.spelling, spelling_of_spelled hx]
  | joint hop => exact if_pos hop
  | left hop _ ih => exact spelling_of_left_error hop ih
  | right hop hl _ ih => exact spelling_of_right_error hop (spelling_of_spelled hl) ih
  | blankTerm hop hl hr hblank =>
    exact spelling_of_blank_term hop (spelling_of_spelled hl) (spelling_of_spelled hr) hblank
  | header hop hl hr ha =>
    exact spelling_of_match_error hop (spelling_of_spelled hl) (spelling_of_spelled hr) ha

/-! ## One rule for every tree -/

/-- Two operands with spellings make a pair or a match, or do not fit together. -/
theorem joined_or_refused {headers : List String} {op a b : String} {l r : Filter}
    (hop : op ∈ ["AND", "OR", "=~", "!~"]) (hl : Spelled headers l a) (hr : Spelled headers r b) :
    (∃ s, Spelled headers (.binary op l r) s) ∨
      ∃ refusal, Refused headers (.binary op l r) refusal := by
  by_cases hpair : op = "AND" ∨ op = "OR"
  · by_cases hblank : a = "" ∨ b = ""
    · exact .inr ⟨_, .blankTerm hpair hl hr hblank⟩
    · obtain ⟨ha, hb⟩ := not_or.mp hblank
      rcases hpair with rfl | rfl
      · exact .inl ⟨_, .both hl hr ha hb⟩
      · exact .inl ⟨_, .either hl hr ha hb⟩
  · have hmatch : op = "=~" ∨ op = "!~" := by
      simp only [not_or] at hpair
      simpa [hpair] using hop
    by_cases hheader : a ∈ headers
    · rcases hmatch with rfl | rfl
      · exact .inl ⟨_, .has hl hr hheader⟩
      · exact .inl ⟨_, .hasNot hl hr hheader⟩
    · exact .inr ⟨_, .header hmatch hl hr hheader⟩

/-- A tree that no rule spells is refused by a rule. -/
theorem spelled_or_refused (headers : List String) (f : Filter) :
    (∃ s, Spelled headers f s) ∨ ∃ refusal, Refused headers f refusal := by
  induction f with
  | string value => exact .inl ⟨_, .string value⟩
  | field name => exact .inl ⟨_, .field name⟩
  | phrase text => exact .inl ⟨_, .phrase text⟩
  | unary op x ih =>
    by_cases hop : op = "NOT"
    · subst hop
      rcases ih with ⟨s, hs⟩ | ⟨refusal, hx⟩
      · by_cases hblank : s = ""
        · exact .inr ⟨_, .blankOperand (hblank ▸ hs)⟩
        · exact .inl ⟨_, .negated hs hblank⟩
      · exact .inr ⟨_, .operand hx⟩
    · exact .inr ⟨_, .negation hop⟩
  | binary op l r ihl ihr =>
    by_cases hop : op ∈ ["AND", "OR", "=~", "!~"]
    · rcases ihl with ⟨a, ha⟩ | ⟨refusal, hl⟩
      · rcases ihr with ⟨b, hb⟩ | ⟨refusal, hr⟩
        · exact joined_or_refused hop ha hb
        · exact .inr ⟨_, .right hop ha hr⟩
      · exact .inr ⟨_, .left hop hl⟩
    · exact .inr ⟨_, .joint hop⟩
  | _ => exact .inr ⟨_, .literal (by simp [Filter.kind, Kind.refused])⟩

theorem spelling_eq_ok_iff {headers : List String} {f : Filter} {s : String} :
    f.spelling headers = .ok s ↔ Spelled headers f s := by
  refine ⟨fun h => ?_, spelling_of_spelled⟩
  rcases spelled_or_refused headers f with ⟨t, ht⟩ | ⟨refusal, hrefused⟩
  · rw [spelling_of_spelled ht] at h
    cases h
    exact ht
  · rw [spelling_of_refused hrefused] at h
    cases h

theorem spelling_eq_error_iff {headers : List String} {f : Filter} {refusal : Refusal} :
    f.spelling headers = .error refusal ↔ Refused headers f refusal := by
  refine ⟨fun h => ?_, spelling_of_refused⟩
  rcases spelled_or_refused headers f with ⟨s, hs⟩ | ⟨other, hother⟩
  · rw [spelling_of_spelled hs] at h
    cases h
  · rw [spelling_of_refused hother] at h
    cases h
    exact hother

/-! ## Answers -/

theorem answer_eq_ok_iff {headers : List String} {f : Filter} {s : String} :
    f.answer headers = .ok s ↔ Spelled headers f s ∧ s ≠ "" := by
  rw [← spelling_eq_ok_iff, Filter.answer]
  rcases f.spelling headers with refusal | t
  · simp
  · simp only [error_if_eq_ok_iff, Except.ok.injEq]
    constructor
    · rintro ⟨ht, rfl⟩
      exact ⟨rfl, ht⟩
    · rintro ⟨rfl, ht⟩
      exact ⟨ht, rfl⟩

/-- A tree compiles to its spelling, if it has one that is not empty. -/
theorem express_eq_ok_iff {headers : List String} {f : Filter} {s : String} :
    Node.express headers (.known f) = .ok s ↔ Spelled headers f s ∧ s ≠ "" := by
  rw [← answer_eq_ok_iff, express_known]
  rcases f.answer headers with refusal | t <;> simp

theorem compile_ofHeaders_eq_ok_iff {name : String} {headers : List String} {f : Filter}
    {s : String} :
    (Compiler.ofHeaders name headers).compile (.node f) = .ok s ↔
      Spelled headers f s ∧ s ≠ "" := by
  rw [← answer_eq_ok_iff, compile_ofHeaders]
  rcases f.answer headers with refusal | t <;> simp

theorem compile_eq_ok_iff {f : Filter} {s : String} :
    Compiler.standard.compile (.node f) = .ok s ↔ Spelled standardHeaders f s ∧ s ≠ "" :=
  compile_ofHeaders_eq_ok_iff

theorem Refused.compile {headers : List String} {f : Filter} {refusal : Refusal}
    (h : Refused headers f refusal) (name : String) :
    (Compiler.ofHeaders name headers).compile (.node f) =
      .error (.inexpressible (.refused refusal)) := by
  rw [compile_ofHeaders, Filter.answer, spelling_of_refused h]

end MailSearch
