-- What the list of headers does to a search expression. A longer list lets more matches through,
-- and that is all: whatever compiled before compiles to the same expression, and every refusal
-- stays, but for a refusal of a header that the longer list has. So neither the order of the list
-- nor a header that it has twice makes a difference.
import MailSearch.Proofs.Spelling

namespace MailSearch

/-! ## Two lists of headers -/

section

variable {headers more : List String}

theorem Spelled.of_more (hmore : ∀ x ∈ headers, x ∈ more) {f : Filter} {s : String}
    (h : Spelled headers f s) : Spelled more f s := by
  induction h with
  | string value => exact .string value
  | field name => exact .field name
  | phrase text => exact .phrase text
  | negated _ hs ih => exact .negated ih hs
  | both _ _ ha hb ihl ihr => exact .both ihl ihr ha hb
  | either _ _ ha hb ihl ihr => exact .either ihl ihr ha hb
  | has _ _ ha ihl ihr => exact .has ihl ihr (hmore _ ha)
  | hasNot _ _ ha ihl ihr => exact .hasNot ihl ihr (hmore _ ha)

/-- Only the last rule looks at the headers, and what it refuses is a header that the longer list
may have. -/
theorem Refused.of_more (hmore : ∀ x ∈ headers, x ∈ more) {f : Filter} {refusal : Refusal}
    (h : Refused headers f refusal) (hnot : ∀ x ∈ more, refusal ≠ .header x) :
    Refused more f refusal := by
  induction h with
  | literal hkind => exact .literal hkind
  | negation hop => exact .negation hop
  | operand _ ih => exact .operand (ih hnot)
  | blankOperand hx => exact .blankOperand (hx.of_more hmore)
  | joint hop => exact .joint hop
  | left hop _ ih => exact .left hop (ih hnot)
  | right hop hl _ ih => exact .right hop (hl.of_more hmore) (ih hnot)
  | blankTerm hop hl hr hblank =>
    exact .blankTerm hop (hl.of_more hmore) (hr.of_more hmore) hblank
  | header hop hl hr _ =>
    exact .header hop (hl.of_more hmore) (hr.of_more hmore) fun hmem => hnot _ hmem rfl

/-- A header is refused only if the list does not have it. -/
theorem Refused.notMem {f : Filter} {x : String} (h : Refused headers f (.header x)) :
    x ∉ headers := by
  generalize hrefusal : Refusal.header x = refusal at h
  induction h with
  | operand _ ih => exact ih hrefusal
  | left _ _ ih => exact ih hrefusal
  | right _ _ _ ih => exact ih hrefusal
  | header _ _ _ ha =>
    cases hrefusal
    exact ha
  | _ => cases hrefusal

/-- A tree is spelled, or refused, over the longer list as over the shorter one, or the shorter one
lacks a header that the longer one has. -/
theorem spelling_of_more (hmore : ∀ x ∈ headers, x ∈ more) (f : Filter) :
    f.spelling more = f.spelling headers ∨ ∃ x ∈ more, Refused headers f (.header x) := by
  rcases spelled_or_refused headers f with ⟨s, hs⟩ | ⟨refusal, hrefused⟩
  · left
    rw [spelling_of_spelled hs, spelling_of_spelled (hs.of_more hmore)]
  · by_cases hlifted : ∃ x ∈ more, refusal = .header x
    · obtain ⟨x, hx, rfl⟩ := hlifted
      exact .inr ⟨x, hx, hrefused⟩
    · left
      have hstays : Refused more f refusal := by
        apply hrefused.of_more hmore
        intro x hx hheader
        exact hlifted ⟨x, hx, hheader⟩
      rw [spelling_of_refused hrefused, spelling_of_refused hstays]

/-! ## Compilers over the two lists -/

theorem compile_eq_header_iff {name x : String} {f : Filter} :
    (Compiler.ofHeaders name headers).compile (.node f) =
        .error (.inexpressible (.refused (.header x))) ↔
      Refused headers f (.header x) := by
  rw [compile_ofHeaders, ← spelling_eq_error_iff]
  unfold Filter.answer
  rcases f.spelling headers with refusal | s
  · simp
  · by_cases hs : s = "" <;> simp [hs]

namespace Compiler

theorem compile_of_nodeOf {v : Value} {node : Node} (h : nodeOf v = .ok node) (c : Compiler) :
    c.compile v = c.compile node.toValue := by
  have hnode : nodeOf node.toValue = .ok node := by cases node <;> rfl
  unfold CompilerOf.compile
  rw [h, hnode]

theorem compile_of_nodeOf_error {v : Value} {fault : CompileFault} (h : nodeOf v = .error fault)
    (c : Compiler) : c.compile v = .error fault := by
  unfold CompilerOf.compile
  rw [h]
  rfl

theorem nodeOf_ne_inexpressible {v : Value} {fault : ExpressFault} :
    nodeOf v ≠ .error (.inexpressible fault) := by
  intro h
  unfold nodeOf at h
  split at h
  · cases h
  · cases h
  · split at h <;> cases h
  · cases h

/-- What is no filter, or a node of an unknown kind, fails without a look at the headers. -/
theorem compile_of_more (hmore : ∀ x ∈ headers, x ∈ more) (name other : String) (v : Value) :
    (ofHeaders other more).compile v = (ofHeaders name headers).compile v ∨
      ∃ x ∈ more, (ofHeaders name headers).compile v =
        .error (.inexpressible (.refused (.header x))) := by
  rcases hv : nodeOf v with fault | f | n
  · left
    rw [compile_of_nodeOf_error hv, compile_of_nodeOf_error hv]
  · rw [compile_of_nodeOf hv, compile_of_nodeOf hv, Node.toValue]
    rcases spelling_of_more hmore f with hsame | ⟨x, hx, hrefused⟩
    · left
      rw [compile_ofHeaders, compile_ofHeaders, Filter.answer, Filter.answer, hsame]
    · exact .inr ⟨x, hx, compile_eq_header_iff.mpr hrefused⟩
  · left
    rw [compile_of_nodeOf hv, compile_of_nodeOf hv, Node.toValue, compile_foreign, compile_foreign]

theorem notMem_of_compile_error {name x : String} {v : Value}
    (h : (ofHeaders name headers).compile v = .error (.inexpressible (.refused (.header x)))) :
    x ∉ headers := by
  rcases hv : nodeOf v with fault | f | n
  · rw [compile_of_nodeOf_error hv] at h
    injection h with h
    exact absurd (h ▸ hv) nodeOf_ne_inexpressible
  · rw [compile_of_nodeOf hv, Node.toValue] at h
    exact (compile_eq_header_iff.mp h).notMem
  · rw [compile_of_nodeOf hv, Node.toValue, compile_foreign] at h
    cases h

end Compiler

end

/-! ## The law -/

/-- Let every header of a compiler be among those of another one. The two compilers answer a value
alike, be it a tree, a record or neither, exactly if the first one does not refuse it for a header
that the second one has. If they have the same headers, in any order and number, they answer alike
always. -/
theorem more_headers_lift_header_refusals_only {headers more : List String}
    (hmore : ∀ x ∈ headers, x ∈ more) (name other : String) (v : Value) :
    ((Compiler.ofHeaders other more).compile v = (Compiler.ofHeaders name headers).compile v ↔
      ∀ x ∈ more, (Compiler.ofHeaders name headers).compile v ≠
        .error (.inexpressible (.refused (.header x)))) ∧
    ((∀ x ∈ more, x ∈ headers) →
      (Compiler.ofHeaders other more).compile v = (Compiler.ofHeaders name headers).compile v) := by
  have hlift : (Compiler.ofHeaders other more).compile v =
        (Compiler.ofHeaders name headers).compile v ↔
      ∀ x ∈ more, (Compiler.ofHeaders name headers).compile v ≠
        .error (.inexpressible (.refused (.header x))) := by
    constructor
    · intro hsame x hx hrefused
      exact Compiler.notMem_of_compile_error (hsame.trans hrefused) hx
    · intro hnot
      rcases Compiler.compile_of_more hmore name other v with hsame | ⟨x, hx, hrefused⟩
      · exact hsame
      · exact absurd hrefused (hnot x hx)
  refine ⟨hlift, ?_⟩
  intro hless
  apply hlift.mpr
  intro x hx hrefused
  exact Compiler.notMem_of_compile_error hrefused (hless x hx)

/-- A match of a sender beside a match of a list of mail. -/
def listFilter : Filter :=
  .binary "AND" (.binary "=~" (.field "from") (.string "bob"))
    (.binary "!~" (.field "list-id") (.string "dev"))

theorem a_list_of_mail_needs_its_header :
    (∀ x ∈ ["from"], x ∈ ["list-id", "from", "from"]) ∧
      (Compiler.ofHeaders "short" ["from"]).compile (.node listFilter) =
        .error (.inexpressible (.refused (.header "list-id"))) ∧
      (Compiler.ofHeaders "long" ["list-id", "from", "from"]).compile (.node listFilter) ≠
        (Compiler.ofHeaders "short" ["from"]).compile (.node listFilter) ∧
      (Compiler.ofHeaders "short" ["from"]).compile (.node (.unary "NOT" (.phrase "bob"))) =
        .ok "-\"bob\"" ∧
      (Compiler.ofHeaders "long" ["list-id", "from", "from"]).compile
          (.node (.unary "NOT" (.phrase "bob"))) =
        (Compiler.ofHeaders "short" ["from"]).compile (.node (.unary "NOT" (.phrase "bob"))) := by
  have hmore : ∀ x ∈ ["from"], x ∈ ["list-id", "from", "from"] := by decide
  have hlist : "list-id" ∈ ["list-id", "from", "from"] := by decide
  have hrefused : (Compiler.ofHeaders "short" ["from"]).compile (.node listFilter) =
      .error (.inexpressible (.refused (.header "list-id"))) := compile_ofHeaders _ _ _
  have hphrase : (Compiler.ofHeaders "short" ["from"]).compile
      (.node (.unary "NOT" (.phrase "bob"))) = .ok "-\"bob\"" := compile_ofHeaders _ _ _
  refine ⟨hmore, hrefused, ?_, hphrase, ?_⟩
  · intro hsame
    exact (more_headers_lift_header_refusals_only hmore "short" "long" (.node listFilter)).1.mp
      hsame "list-id" hlist hrefused
  · apply (more_headers_lift_header_refusals_only hmore "short" "long" _).1.mpr
    intro x _ hheader
    rw [hphrase] at hheader
    cases hheader

end MailSearch
