-- Which trees the search language can express. A tree is judged by its shape and by the texts that
-- stand in it, without a look at any fragment. The compiler gives an expression to exactly the
-- trees that pass, and the expression is never empty.
import MailSearch.Proofs.BuiltFilters
import MailSearch.Proofs.Spelling

namespace MailSearch

/-! ## The source language -/

/-- The text of a filter that is nothing but a text. -/
def Filter.text? : Filter → Option String
  | .string value => some value
  | .field name => some name
  | _ => none

def Filter.IsHeader (f : Filter) : Prop := ∃ header ∈ standardHeaders, f.text? = some header

/-- A filter of the source language. What stands as a term is no empty text, and a match has a
header on its left. -/
def Filter.Expressible : Filter → Prop
  | .string _ | .field _ | .phrase _ => True
  | .unary op operand => op = "NOT" ∧ operand.Expressible ∧ operand ≠ .string ""
  | .binary op left right =>
    left.Expressible ∧ right.Expressible ∧
      ((op = "AND" ∨ op = "OR") ∧ left ≠ .string "" ∧ right ≠ .string "" ∨
        (op = "=~" ∨ op = "!~") ∧ left.IsHeader)
  | _ => False

/-! ## What a spelling says about its tree -/

/-- A text with a sign of the search language in it. -/
def HasSign (s : String) : Prop := '"' ∈ s.toList ∨ '(' ∈ s.toList ∨ '-' ∈ s.toList

theorem HasSign.ne_empty {s : String} (h : HasSign s) : s ≠ "" := by
  rintro rfl
  simp [HasSign] at h

theorem HasSign.not_header {s : String} (h : HasSign s) : s ∉ standardHeaders := by
  intro hs
  simp only [standardHeaders, List.mem_cons, List.not_mem_nil, or_false] at hs
  rcases hs with rfl | rfl | rfl | rfl | rfl <;> simp [HasSign] at h

/-- A spelling is the very text of its tree, or it was put together and has a sign in it. -/
theorem Spelled.text_or_sign {headers : List String} {f : Filter} {s : String}
    (h : Spelled headers f s) : f.text? = some s ∨ f.text? = none ∧ HasSign s := by
  cases h with
  | string | field => exact .inl rfl
  | _ => exact .inr ⟨rfl, by simp [HasSign]⟩

/-- Only an empty text has an empty spelling. -/
theorem Spelled.eq_empty_iff {headers : List String} {f : Filter} {s : String}
    (h : Spelled headers f s) (hnamed : f.Named) : s = "" ↔ f = .string "" := by
  constructor
  · rintro rfl
    rcases h.text_or_sign with htext | ⟨-, hsign⟩
    · cases f with
      | string value => simpa [Filter.text?] using htext
      | field name => exact absurd (by simpa [Filter.text?] using htext) hnamed
      | _ => simp [Filter.text?] at htext
    · exact absurd rfl hsign.ne_empty
  · rintro rfl
    cases h
    rfl

/-- Only a header has the spelling of one. -/
theorem Spelled.mem_headers_iff {f : Filter} {s : String} (h : Spelled standardHeaders f s) :
    s ∈ standardHeaders ↔ f.IsHeader := by
  constructor
  · intro hs
    rcases h.text_or_sign with htext | ⟨-, hsign⟩
    · exact ⟨s, hs, htext⟩
    · exact absurd hs hsign.not_header
  · rintro ⟨header, hheader, htext⟩
    rcases h.text_or_sign with hs | ⟨hnone, -⟩
    · rw [hs] at htext
      cases htext
      exact hheader
    · simp [hnone] at htext

/-! ## What is spelled is expressible -/

theorem Spelled.expressible {f : Filter} {s : String} (h : Spelled standardHeaders f s)
    (hnamed : f.Named) : f.Expressible := by
  induction h with
  | string | field | phrase => trivial
  | negated hx hs ih =>
    exact ⟨rfl, ih hnamed, fun hempty => hs ((hx.eq_empty_iff hnamed).mpr hempty)⟩
  | both hl hr ha hb ihl ihr =>
    refine ⟨ihl hnamed.1, ihr hnamed.2, .inl ⟨.inl rfl, fun hempty => ?_, fun hempty => ?_⟩⟩
    · exact ha ((hl.eq_empty_iff hnamed.1).mpr hempty)
    · exact hb ((hr.eq_empty_iff hnamed.2).mpr hempty)
  | either hl hr ha hb ihl ihr =>
    refine ⟨ihl hnamed.1, ihr hnamed.2, .inl ⟨.inr rfl, fun hempty => ?_, fun hempty => ?_⟩⟩
    · exact ha ((hl.eq_empty_iff hnamed.1).mpr hempty)
    · exact hb ((hr.eq_empty_iff hnamed.2).mpr hempty)
  | has hl _ ha ihl ihr =>
    exact ⟨ihl hnamed.1, ihr hnamed.2, .inr ⟨.inl rfl, hl.mem_headers_iff.mp ha⟩⟩
  | hasNot hl _ ha ihl ihr =>
    exact ⟨ihl hnamed.1, ihr hnamed.2, .inr ⟨.inr rfl, hl.mem_headers_iff.mp ha⟩⟩

theorem Filter.Expressible.spelled {f : Filter} (h : f.Expressible) (hnamed : f.Named) :
    ∃ s, Spelled standardHeaders f s := by
  induction f with
  | string value => exact ⟨_, .string value⟩
  | field name => exact ⟨_, .field name⟩
  | phrase text => exact ⟨_, .phrase text⟩
  | unary op x ih =>
    obtain ⟨rfl, hx, hne⟩ := h
    obtain ⟨s, hs⟩ := ih hx hnamed
    exact ⟨_, .negated hs (fun hempty => hne ((hs.eq_empty_iff hnamed).mp hempty))⟩
  | binary op l r ihl ihr =>
    obtain ⟨hl, hr, hop⟩ := h
    obtain ⟨a, ha⟩ := ihl hl hnamed.1
    obtain ⟨b, hb⟩ := ihr hr hnamed.2
    rcases hop with ⟨hop, hnel, hner⟩ | ⟨hop, hheader⟩
    · have hane : a ≠ "" := fun hempty => hnel ((ha.eq_empty_iff hnamed.1).mp hempty)
      have hbne : b ≠ "" := fun hempty => hner ((hb.eq_empty_iff hnamed.2).mp hempty)
      rcases hop with rfl | rfl
      · exact ⟨_, .both ha hb hane hbne⟩
      · exact ⟨_, .either ha hb hane hbne⟩
    · have hmem : a ∈ standardHeaders := ha.mem_headers_iff.mpr hheader
      rcases hop with rfl | rfl
      · exact ⟨_, .has ha hb hmem⟩
      · exact ⟨_, .hasNot ha hb hmem⟩
  | _ => exact h.elim

/-! ## The law -/

/-- The standard compiler gives an expression to a tree exactly if the tree belongs to the source
language and is no empty text, and what it gives is never empty. Every filter that can come to be
is named. -/
theorem the_source_language_is_what_compiles {f : Filter} (hnamed : f.Named) :
    ((∃ s, Compiler.standard.compile (.node f) = .ok s) ↔ f.Expressible ∧ f ≠ .string "") ∧
      ∀ s, Compiler.standard.compile (.node f) = .ok s → s ≠ "" := by
  refine ⟨⟨?_, ?_⟩, fun s h => (compile_eq_ok_iff.mp h).2⟩
  · rintro ⟨s, hs⟩
    obtain ⟨hspelled, hne⟩ := compile_eq_ok_iff.mp hs
    exact ⟨hspelled.expressible hnamed, fun hf => hne ((hspelled.eq_empty_iff hnamed).mpr hf)⟩
  · rintro ⟨hf, hne⟩
    obtain ⟨s, hs⟩ := hf.spelled hnamed
    exact ⟨s, compile_eq_ok_iff.mpr ⟨hs, fun h => hne ((hs.eq_empty_iff hnamed).mp h)⟩⟩

/-- Not a match of a text that names a header with nothing, or a phrase of nothing. -/
def sparseFilter : Filter :=
  .binary "OR" (.unary "NOT" (.binary "!~" (.string "cc") (.string ""))) (.phrase "")

theorem a_sparse_filter_compiles :
    sparseFilter.Named ∧ sparseFilter.Expressible ∧
      ∃ s, Compiler.standard.compile (.node sparseFilter) = .ok s ∧ s ≠ "" := by
  have hnamed : sparseFilter.Named := ⟨⟨trivial, trivial⟩, trivial⟩
  have hheader : (Filter.string "cc").IsHeader := ⟨"cc", by decide, rfl⟩
  have hexpressible : sparseFilter.Expressible := by
    simp [sparseFilter, Filter.Expressible, hheader]
  have hlaw := the_source_language_is_what_compiles hnamed
  obtain ⟨s, hs⟩ := hlaw.1.mpr ⟨hexpressible, by simp [sparseFilter]⟩
  exact ⟨hnamed, hexpressible, s, hs, hlaw.2 s hs⟩

end MailSearch
