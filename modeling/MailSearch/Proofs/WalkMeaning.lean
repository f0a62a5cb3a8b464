-- What the walk answers. The rules of the search language are said once more, tree by tree and
-- without the parts that the walk is made of, and the walk answers what the rules say. The law
-- of one visit holds for whatever stands on the two stacks, so the visits of a tree compose.
import MailSearch.Compiler
import MailSearch.Proofs.Outcome
import MailSearch.Proofs.Tree

namespace MailSearch

/-! ## The rules -/

/-- How a tree is spelled. An operator is judged first, then the left operand and then the right
one are spelled, and what the operator asks of its operands is looked at last. -/
def Filter.spelling (headers : List String) : Filter → Except Refusal String
  | .string value => .ok value
  | .field name => .ok name
  | .phrase text => .ok ("\"" ++ text ++ "\"")
  | .unary op operand =>
    if op ≠ "NOT" then .error (.operator op)
    else
      match operand.spelling headers with
      | .error refusal => .error refusal
      | .ok s => if s = "" then .error (.literal .string) else .ok ("-" ++ s)
  | .binary op left right =>
    if op ∉ ["AND", "OR", "=~", "!~"] then .error (.operator op)
    else
      match left.spelling headers with
      | .error refusal => .error refusal
      | .ok l =>
        match right.spelling headers with
        | .error refusal => .error refusal
        | .ok r =>
          if op = "AND" ∨ op = "OR" then
            if l = "" then .error (.literal .string)
            else if r = "" then .error (.literal .string)
            else if op = "AND" then .ok ("(" ++ l ++ " " ++ r ++ ")")
            else .ok ("(" ++ l ++ " OR " ++ r ++ ")")
          else if l ∉ headers then .error (.header l)
          else if op = "=~" then .ok (l ++ ":\"" ++ r ++ "\"")
          else .ok ("-" ++ l ++ ":\"" ++ r ++ "\"")
  | f => .error (.literal f.kind)

/-- The answer to a whole tree: how it is spelled, which must not be empty. -/
def Filter.answer (headers : List String) (f : Filter) : Except Refusal String :=
  match f.spelling headers with
  | .error refusal => .error refusal
  | .ok s => if s = "" then .error (.literal .string) else .ok s

/-! ## The pieces follow the rules -/

theorem asTerm_eq (s : String) :
    asTerm s = if s = "" then .error (.literal .string) else .ok s := by
  simp [asTerm]

theorem negateFragment_eq (s : String) :
    negateFragment s = if s = "" then .error (.literal .string) else .ok ("-" ++ s) := by
  rw [negateFragment, asTerm_eq]
  split <;> rfl

theorem directive_eq (headers : List String) (header value : String) :
    directive headers header value =
      if header ∉ headers then .error (.header header)
      else .ok (header ++ ":\"" ++ value ++ "\"") := by
  have hcolon : header ++ ":" ++ phraseFragment value = header ++ ":\"" ++ value ++ "\"" := by
    simp [phraseFragment, ← String.toList_inj]
  by_cases h : header ∈ headers
  · simp [directive, h, hcolon]
  · simp [directive, h]

theorem ofSymbol?_eq_none {op : String} (h : Connective.ofSymbol? op = none) :
    op ∉ ["AND", "OR", "=~", "!~"] := by
  intro hop
  simp only [List.mem_cons, List.not_mem_nil, or_false] at hop
  rcases hop with rfl | rfl | rfl | rfl <;> simp [Connective.ofSymbol?, Connective.symbol] at h

theorem joinFragments_eq (headers : List String) (c : Connective) (l r : String) :
    joinFragments headers c l r =
      if c.symbol = "AND" ∨ c.symbol = "OR" then
        if l = "" then .error (.literal .string)
        else if r = "" then .error (.literal .string)
        else if c.symbol = "AND" then .ok ("(" ++ l ++ " " ++ r ++ ")")
        else .ok ("(" ++ l ++ " OR " ++ r ++ ")")
      else if l ∉ headers then .error (.header l)
      else if c.symbol = "=~" then .ok (l ++ ":\"" ++ r ++ "\"")
      else .ok ("-" ++ l ++ ":\"" ++ r ++ "\"") := by
  cases c with
  | both =>
    by_cases hl : l = "" <;> by_cases hr : r = "" <;>
      simp [joinFragments, asTerm_eq, Connective.symbol, hl, hr]
  | either =>
    by_cases hl : l = "" <;> by_cases hr : r = "" <;>
      simp [joinFragments, asTerm_eq, Connective.symbol, hl, hr]
  | has => by_cases hl : l ∈ headers <;> simp [joinFragments, directive_eq, Connective.symbol, hl]
  | hasNot =>
    by_cases hl : l ∈ headers <;>
      simp [joinFragments, directive_eq, Connective.symbol, hl, String.append_assoc]

/-- A negation is spelled by its operand. -/
theorem spelling_unary {op : String} (h : op = notSymbol) (headers : List String)
    (operand : Filter) :
    (Filter.unary op operand).spelling headers = operand.spelling headers >>= negateFragment := by
  subst h
  rw [Filter.spelling, if_neg (fun h => h rfl)]
  rcases operand.spelling headers with _ | s
  · rfl
  · exact (negateFragment_eq s).symm

theorem spelling_unary_of_ne {op : String} (h : op ≠ notSymbol) (headers : List String)
    (operand : Filter) :
    (Filter.unary op operand).spelling headers = .error (.operator op) := by
  exact if_pos h

/-- An expression with a connective is spelled by its operands, the left one first. -/
theorem spelling_binary {op : String} {c : Connective} (h : Connective.ofSymbol? op = some c)
    (headers : List String) (left right : Filter) :
    (Filter.binary op left right).spelling headers =
      left.spelling headers >>= fun l => right.spelling headers >>= fun r =>
        joinFragments headers c l r := by
  obtain rfl := Connective.symbol_of_ofSymbol? h
  have hop : c.symbol ∈ ["AND", "OR", "=~", "!~"] := by cases c <;> decide
  rw [Filter.spelling, if_neg (fun h => h hop)]
  rcases left.spelling headers with _ | l
  · rfl
  rcases right.spelling headers with _ | r
  · rfl
  exact (joinFragments_eq headers c l r).symm

theorem spelling_binary_of_none {op : String} (h : Connective.ofSymbol? op = none)
    (headers : List String) (left right : Filter) :
    (Filter.binary op left right).spelling headers = .error (.operator op) := by
  rw [Filter.spelling, if_pos (ofSymbol?_eq_none h)]

theorem answer_eq (headers : List String) (f : Filter) :
    f.answer headers = f.spelling headers >>= asTerm := by
  rw [Filter.answer]
  rcases f.spelling headers with _ | s
  · rfl
  · exact (asTerm_eq s).symm

/-! ## The walk follows the rules -/

namespace Walk

@[simp]
theorem accepted_ok (a : α) : accepted (.ok a) = .ok a := rfl

@[simp]
theorem accepted_error (refusal : Refusal) :
    (accepted (.error refusal) : Except ExpressFault α) = .error (.refused refusal) := rfl

theorem accepted_bind (x : Except Refusal α) (next : α → Except Refusal β) :
    accepted (x >>= next) = accepted x >>= fun a => accepted (next a) := by
  cases x <;> rfl

theorem run_cons (headers : List String) (task : Task) (tasks : List Task)
    (fragments : List String) :
    run headers (task :: tasks) fragments =
      step headers task fragments >>= fun after => run headers (after.1 ++ tasks) after.2 := by
  rw [run]
  split <;> simp_all

/-- The law of one visit: a visit ends in a refusal, or leaves the stacks as they were with one
fragment more. -/
theorem run_visit (headers : List String) (f : Filter) (tasks : List Task)
    (fragments : List String) :
    run headers (.visit (.known f) :: tasks) fragments =
      accepted (f.spelling headers) >>= fun s => run headers tasks (s :: fragments) := by
  induction f generalizing tasks fragments with
  | unary op operand ih =>
    rw [run_cons]
    by_cases hop : op = notSymbol
    · simp only [step, visit, if_pos hop, ok_bind, List.cons_append, List.nil_append]
      rw [ih, spelling_unary hop, accepted_bind]
      rcases operand.spelling headers with _ | s
      · rfl
      · simp [run_cons, step]
    · simp [step, visit, hop, spelling_unary_of_ne hop]
  | binary op left right ihl ihr =>
    rw [run_cons]
    rcases hc : Connective.ofSymbol? op with _ | c
    · simp [step, visit, hc, spelling_binary_of_none hc]
    · simp only [step, visit, hc, ok_bind, List.cons_append, List.nil_append]
      rw [ihl, spelling_binary hc, accepted_bind]
      rcases left.spelling headers with _ | l
      · rfl
      simp only [accepted_ok, ok_bind]
      rw [ihr, accepted_bind]
      rcases right.spelling headers with _ | r
      · rfl
      simp [run_cons, step]
  | phrase text => simp [run_cons, step, visit, Filter.spelling, phraseFragment]
  | _ => simp [run_cons, step, visit, Filter.spelling]

end Walk

theorem express_known (headers : List String) (f : Filter) :
    Node.express headers (.known f) = Walk.accepted (f.answer headers) := by
  rw [Node.express, Walk.run_visit, answer_eq, Walk.accepted_bind]
  rcases f.spelling headers with _ | s
  · rfl
  · simp [Walk.run]

/-- A compiler over any headers gives a tree its answer. -/
theorem compile_ofHeaders (name : String) (headers : List String) (f : Filter) :
    (Compiler.ofHeaders name headers).compile (.node f) =
      match f.answer headers with
      | .ok s => .ok s
      | .error refusal => .error (.inexpressible (.refused refusal)) := by
  simp only [CompilerOf.compile, Compiler.nodeOf, Compiler.ofHeaders, ok_bind, express_known]
  rcases f.answer headers with _ | s <;> rfl

theorem compile_node (f : Filter) :
    Compiler.standard.compile (.node f) =
      match f.answer standardHeaders with
      | .ok s => .ok s
      | .error refusal => .error (.inexpressible (.refused refusal)) :=
  compile_ofHeaders "GmailFilterCompiler" standardHeaders f

/-- A node of an unknown kind is refused by its name. -/
theorem Compiler.compile_foreign (name : String) (headers : List String) (n : Foreign) :
    (ofHeaders name headers).compile (.foreign n) =
      .error (.inexpressible (.unknownNode n.name)) := by
  unfold CompilerOf.compile ofHeaders Node.express
  rw [nodeOf, ok_bind]
  simp only [Walk.run_cons]
  rfl

/-- A compiler makes the same of two trees that are spelled alike. -/
theorem compile_congr {headers : List String} {f g : Filter}
    (h : f.spelling headers = g.spelling headers) (name : String) :
    (Compiler.ofHeaders name headers).compile (.node f) =
      (Compiler.ofHeaders name headers).compile (.node g) := by
  rw [compile_ofHeaders, compile_ofHeaders, Filter.answer, Filter.answer, h]

/-- The walk answers every tree over every list of headers as the rules do. -/
theorem the_walk_answers_as_the_rules_say (headers : List String) (f : Filter) :
    Node.express headers (.known f) =
      match f.answer headers with
      | .ok s => .ok s
      | .error refusal => .error (.refused refusal) := by
  rw [express_known]
  rcases f.answer headers with _ | s <;> rfl

end MailSearch
