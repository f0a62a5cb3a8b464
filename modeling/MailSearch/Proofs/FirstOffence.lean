-- Which part of a tree a refusal names. The parts that a search cannot express are listed in the
-- order of a walk from left to right. The compiler names the first of them, with one exception: it
-- looks at an empty text on the left of a pair only after the right operand, so whatever is at
-- fault there comes before it.
import MailSearch.Proofs.SourceLanguage

namespace MailSearch

namespace Filter

/-! ## Offences in order -/

/-- An empty text cannot stand as a term. -/
def blank : Filter → List Refusal
  | .string value => if value = "" then [.literal .string] else []
  | _ => []

/-- What stands on the left of a match has to be spelled like a header. -/
def headerOffence (headers : List String) (f : Filter) : List Refusal :=
  match f.spelling headers with
  | .ok s => if s ∈ headers then [] else [.header s]
  | .error _ => []

/-- What a search cannot express in the parts of a tree. An operator stands before its operands,
the left operand before the right one, a header behind both sides of its match. An empty operand
of a pair stands at its own place, or behind both operands if the flag is set. -/
def offences (headers : List String) (late : Bool) : Filter → List Refusal
  | .string _ | .field _ | .phrase _ => []
  | .unary op x =>
    if op = "NOT" then x.offences headers late ++ x.blank
    else .operator op :: x.offences headers late
  | .binary op l r =>
    if op = "AND" ∨ op = "OR" then
      if late then l.offences headers late ++ (r.offences headers late ++ (l.blank ++ r.blank))
      else l.offences headers late ++ l.blank ++ (r.offences headers late ++ r.blank)
    else if op = "=~" ∨ op = "!~" then
      l.offences headers late ++ (r.offences headers late ++ l.headerOffence headers)
    else .operator op :: (l.offences headers late ++ r.offences headers late)
  | f => [.literal f.kind]

/-- What a search cannot express in a tree that stands as a term. A tree that is an empty text has
no other parts. -/
def termOffences (headers : List String) (late : Bool) (f : Filter) : List Refusal :=
  f.offences headers late ++ f.blank

end Filter

/-! ## The refusal of a spelling -/

def refusalOf : Except Refusal α → Option Refusal
  | .ok _ => none
  | .error refusal => some refusal

@[simp]
theorem refusalOf_ok (a : α) : refusalOf (.ok a) = none := rfl

@[simp]
theorem refusalOf_error (refusal : Refusal) :
    refusalOf (.error refusal : Except Refusal α) = some refusal := rfl

theorem blank_of_spelling {headers : List String} {f : Filter} {s : String} (hnamed : f.Named)
    (h : f.spelling headers = .ok s) : f.blank = if s = "" then [.literal .string] else [] := by
  have hiff := (spelling_eq_ok_iff.mp h).eq_empty_iff hnamed
  by_cases hs : s = ""
  · rw [if_pos hs, hiff.mp hs]
    rfl
  · rw [if_neg hs]
    cases f with
    | string value =>
      have hvalue : value ≠ "" := fun hv => hs (hiff.mpr (by rw [hv]))
      simp [Filter.blank, hvalue]
    | _ => rfl

theorem head?_offences_unary {headers : List String} {op : String} {x : Filter}
    (hnamed : x.Named) (ih : (x.offences headers true).head? = refusalOf (x.spelling headers)) :
    ((Filter.unary op x).offences headers true).head? =
      refusalOf ((Filter.unary op x).spelling headers) := by
  by_cases hop : op = "NOT"
  · rw [Filter.offences, if_pos hop, Filter.spelling, if_neg (not_not_intro hop),
      List.head?_append, ih]
    rcases hx : x.spelling headers with refusal | s
    · rfl
    · rw [blank_of_spelling hnamed hx]
      by_cases hs : s = "" <;> simp [hs]
  · simp [Filter.offences, Filter.spelling, hop]

theorem refusalOf_pair {headers : List String} {op a b : String} {l r : Filter}
    (hop : op = "AND" ∨ op = "OR") (hl : l.spelling headers = .ok a)
    (hr : r.spelling headers = .ok b) :
    refusalOf ((Filter.binary op l r).spelling headers) =
      if a = "" ∨ b = "" then some (.literal .string) else none := by
  by_cases ha : a = "" <;> by_cases hb : b = "" <;> rcases hop with rfl | rfl <;>
    simp [Filter.spelling, hl, hr, ha, hb]

theorem refusalOf_match {headers : List String} {op a b : String} {l r : Filter}
    (hop : op = "=~" ∨ op = "!~") (hl : l.spelling headers = .ok a)
    (hr : r.spelling headers = .ok b) :
    refusalOf ((Filter.binary op l r).spelling headers) =
      if a ∈ headers then none else some (.header a) := by
  by_cases ha : a ∈ headers <;> rcases hop with rfl | rfl <;>
    simp [Filter.spelling, hl, hr, ha]

theorem head?_offences_pair {headers : List String} {op : String} {l r : Filter}
    (hop : op = "AND" ∨ op = "OR") (hnamed : (Filter.binary op l r).Named)
    (ihl : (l.offences headers true).head? = refusalOf (l.spelling headers))
    (ihr : (r.offences headers true).head? = refusalOf (r.spelling headers)) :
    ((Filter.binary op l r).offences headers true).head? =
      refusalOf ((Filter.binary op l r).spelling headers) := by
  have hknown : op ∈ ["AND", "OR", "=~", "!~"] := by
    rcases hop with rfl | rfl <;> decide
  rw [Filter.offences, if_pos hop, if_pos rfl, List.head?_append, List.head?_append, ihl, ihr]
  rcases hl : l.spelling headers with refusal | a
  · rw [spelling_of_left_error hknown hl]
    rfl
  rcases hr : r.spelling headers with refusal | b
  · rw [spelling_of_right_error hknown hl hr]
    rfl
  rw [refusalOf_pair hop hl hr, blank_of_spelling hnamed.1 hl, blank_of_spelling hnamed.2 hr]
  by_cases ha : a = "" <;> by_cases hb : b = "" <;> simp [ha, hb]

theorem head?_offences_match {headers : List String} {op : String} {l r : Filter}
    (hop : op = "=~" ∨ op = "!~")
    (ihl : (l.offences headers true).head? = refusalOf (l.spelling headers))
    (ihr : (r.offences headers true).head? = refusalOf (r.spelling headers)) :
    ((Filter.binary op l r).offences headers true).head? =
      refusalOf ((Filter.binary op l r).spelling headers) := by
  have hknown : op ∈ ["AND", "OR", "=~", "!~"] := by
    rcases hop with rfl | rfl <;> decide
  have hpair : ¬ (op = "AND" ∨ op = "OR") := by
    rcases hop with rfl | rfl <;> decide
  rw [Filter.offences, if_neg hpair, if_pos hop, List.head?_append, List.head?_append, ihl, ihr]
  rcases hl : l.spelling headers with refusal | a
  · rw [spelling_of_left_error hknown hl]
    rfl
  rcases hr : r.spelling headers with refusal | b
  · rw [spelling_of_right_error hknown hl hr]
    rfl
  rw [refusalOf_match hop hl hr, Filter.headerOffence, hl]
  by_cases ha : a ∈ headers <;> simp [ha]

/-- The spelling of a tree is refused for the first of its offences, empty operands of a pair
behind both operands. -/
theorem head?_offences {headers : List String} {f : Filter} (hnamed : f.Named) :
    (f.offences headers true).head? = refusalOf (f.spelling headers) := by
  induction f with
  | unary op x ih => exact head?_offences_unary hnamed (ih hnamed)
  | binary op l r ihl ihr =>
    by_cases hpair : op = "AND" ∨ op = "OR"
    · exact head?_offences_pair hpair hnamed (ihl hnamed.1) (ihr hnamed.2)
    by_cases hmatch : op = "=~" ∨ op = "!~"
    · exact head?_offences_match hmatch (ihl hnamed.1) (ihr hnamed.2)
    have hunknown : op ∉ ["AND", "OR", "=~", "!~"] := by
      simp only [not_or] at hpair hmatch
      simp [hpair, hmatch]
    rw [Filter.offences, if_neg hpair, if_neg hmatch, Filter.spelling, if_pos hunknown]
    rfl
  | _ => rfl

theorem head?_termOffences {headers : List String} {f : Filter} (hnamed : f.Named) :
    (f.termOffences headers true).head? = refusalOf (f.answer headers) := by
  rw [Filter.termOffences, List.head?_append, head?_offences hnamed, Filter.answer]
  rcases hf : f.spelling headers with refusal | s
  · rfl
  · rw [blank_of_spelling hnamed hf]
    by_cases hs : s = "" <;> simp [hs]

/-! ## The two orders -/

/-- The flag moves offences to other places, and takes none away. -/
theorem offences_perm (headers : List String) (f : Filter) :
    (f.offences headers true).Perm (f.offences headers false) := by
  induction f with
  | unary op x ih =>
    by_cases hop : op = "NOT"
    · rw [Filter.offences, if_pos hop, Filter.offences, if_pos hop]
      exact ih.append_right _
    · rw [Filter.offences, if_neg hop, Filter.offences, if_neg hop]
      exact ih.cons _
  | binary op l r ihl ihr =>
    rw [Filter.offences, Filter.offences]
    by_cases hpair : op = "AND" ∨ op = "OR"
    · rw [if_pos hpair, if_pos hpair, if_pos rfl, if_neg Bool.false_ne_true, List.append_assoc]
      refine ihl.append ?_
      have hswap : (r.offences headers true ++ (l.blank ++ r.blank)).Perm
          (l.blank ++ (r.offences headers true ++ r.blank)) := List.perm_append_comm_assoc _ _ _
      exact hswap.trans ((ihr.append_right _).append_left _)
    by_cases hmatch : op = "=~" ∨ op = "!~"
    · rw [if_neg hpair, if_neg hpair, if_pos hmatch, if_pos hmatch]
      exact ihl.append (ihr.append_right _)
    · rw [if_neg hpair, if_neg hpair, if_neg hmatch, if_neg hmatch]
      exact (ihl.append ihr).cons _
  | _ => exact .rfl

/-- The first offence of a tree stands first in both orders: no empty text on the left of a pair
waits for another offence on the right. -/
def Filter.InOrder (headers : List String) : Filter → Prop
  | .unary op x => op = "NOT" → x.InOrder headers
  | .binary op l r =>
    if op = "AND" ∨ op = "OR" then
      if l.blank = [] then
        l.InOrder headers ∧ (l.offences headers true = [] → r.InOrder headers)
      else ∀ refusal, (r.offences headers true).head? = some refusal → refusal = .literal .string
    else if op = "=~" ∨ op = "!~" then
      l.InOrder headers ∧ (l.offences headers true = [] → r.InOrder headers)
    else True
  | _ => True

theorem head?_append_eq_iff {x y u v : List α} (h : x.Perm y) :
    (x ++ u).head? = (y ++ v).head? ↔ x.head? = y.head? ∧ (x = [] → u.head? = v.head?) := by
  cases x with
  | nil =>
    obtain rfl := List.nil_perm.mp h
    simp
  | cons a x =>
    cases y with
    | nil => exact absurd (List.perm_nil.mp h) (List.cons_ne_nil a x)
    | cons b y => simp

theorem blank_cases (f : Filter) :
    f.blank = [] ∨ f.blank = [.literal .string] ∧ f = .string "" := by
  cases f with
  | string value =>
    by_cases hvalue : value = ""
    · exact .inr ⟨by rw [Filter.blank, if_pos hvalue], by rw [hvalue]⟩
    · exact .inl (by rw [Filter.blank, if_neg hvalue])
  | _ => exact .inl rfl

theorem head?_pair_eq_iff {headers : List String} {op : String} {l r : Filter}
    (hop : op = "AND" ∨ op = "OR")
    (ihl : (l.offences headers true).head? = (l.offences headers false).head? ↔ l.InOrder headers)
    (ihr : (r.offences headers true).head? = (r.offences headers false).head? ↔
      r.InOrder headers) :
    ((Filter.binary op l r).offences headers true).head? =
        ((Filter.binary op l r).offences headers false).head? ↔
      (Filter.binary op l r).InOrder headers := by
  rw [Filter.offences, Filter.offences, Filter.InOrder, if_pos hop, if_pos hop, if_pos hop,
    if_pos rfl, if_neg Bool.false_ne_true]
  rcases blank_cases l with hblank | ⟨hblank, rfl⟩
  · rw [if_pos hblank, hblank, List.nil_append, List.append_nil,
      head?_append_eq_iff (offences_perm headers l), head?_append_eq_iff (offences_perm headers r),
      ihl, ihr]
    simp
  · rw [if_neg (by simp [hblank]), hblank]
    rcases hr : (r.offences headers true).head? with _ | refusal
    · simp [Filter.offences, hr]
    · simp [Filter.offences, hr]

/-- The two orders agree on what comes first exactly for the trees in order. -/
theorem head?_offences_eq_iff (headers : List String) (f : Filter) :
    (f.offences headers true).head? = (f.offences headers false).head? ↔ f.InOrder headers := by
  induction f with
  | unary op x ih =>
    rw [Filter.offences, Filter.offences, Filter.InOrder]
    by_cases hop : op = "NOT"
    · rw [if_pos hop, if_pos hop, head?_append_eq_iff (offences_perm headers x), ih]
      simp [hop]
    · simp [hop]
  | binary op l r ihl ihr =>
    by_cases hpair : op = "AND" ∨ op = "OR"
    · exact head?_pair_eq_iff hpair ihl ihr
    rw [Filter.offences, Filter.offences, Filter.InOrder, if_neg hpair, if_neg hpair, if_neg hpair]
    by_cases hmatch : op = "=~" ∨ op = "!~"
    · rw [if_pos hmatch, if_pos hmatch, if_pos hmatch,
        head?_append_eq_iff (offences_perm headers l),
        head?_append_eq_iff (offences_perm headers r), ihl, ihr]
      simp
    · simp [hmatch]
  | _ => simp [Filter.offences, Filter.InOrder]

/-! ## The law -/

/-- The compiler refuses a tree for the first of its offences, where an empty operand of a pair
stands behind both operands. A walk from left to right, in which an empty operand stands at its own
place, meets the same offences, and it meets that one first exactly if the tree is in order. -/
theorem the_first_offence_is_the_one_refused {headers : List String} {f : Filter}
    (hnamed : f.Named) :
    (∀ refusal, Node.express headers (.known f) = .error (.refused refusal) ↔
        (f.termOffences headers true).head? = some refusal) ∧
      (f.termOffences headers true).Perm (f.termOffences headers false) ∧
      ((f.termOffences headers true).head? = (f.termOffences headers false).head? ↔
        f.InOrder headers) := by
  refine ⟨fun refusal => ?_, (offences_perm headers f).append_right _, ?_⟩
  · rw [head?_termOffences hnamed, express_known]
    rcases f.answer headers with other | s <;> simp
  · rw [Filter.termOffences, Filter.termOffences, head?_append_eq_iff (offences_perm headers f),
      head?_offences_eq_iff]
    simp

/-- A header that no search has, behind an empty text that is no offence, and a number. -/
def faultyFilter : Filter :=
  .binary "AND" (.unary "NOT" (.binary "=~" (.field "x-mailer") (.string "")))
    (.binary "OR" (.string "") (.number (.int 5)))

theorem a_faulty_filter_is_refused_for_its_header :
    faultyFilter.Named ∧ faultyFilter.InOrder standardHeaders ∧
      Node.express standardHeaders (.known faultyFilter) =
        .error (.refused (.header "x-mailer")) ∧
      (faultyFilter.termOffences standardHeaders false).head? = some (.header "x-mailer") := by
  have hheader : "x-mailer" ≠ "" := by decide
  have hnamed : faultyFilter.Named := ⟨⟨hheader, trivial⟩, trivial, trivial⟩
  obtain ⟨hrefused, -, horder⟩ :=
    @the_first_offence_is_the_one_refused standardHeaders faultyFilter hnamed
  have hlate : (faultyFilter.termOffences standardHeaders true).head? =
      some (.header "x-mailer") := by decide
  have hearly : (faultyFilter.termOffences standardHeaders false).head? =
      some (.header "x-mailer") := by decide
  exact ⟨hnamed, horder.mp (hlate.trans hearly.symm), (hrefused _).mpr hlate, hearly⟩

/-- An empty text on the left of a pair is passed over for a number on the right. -/
theorem an_empty_text_is_passed_over :
    Node.express standardHeaders (.known (.binary "AND" (.string "") (.number (.int 5)))) =
        .error (.refused (.literal .number)) ∧
      ((Filter.binary "AND" (.string "") (.number (.int 5))).termOffences standardHeaders
        false).head? = some (.literal .string) := by
  refine ⟨?_, by decide⟩
  rw [express_known]
  rfl

end MailSearch
