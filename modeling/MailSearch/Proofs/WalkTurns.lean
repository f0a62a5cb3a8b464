-- The walk turn by turn. A visit goes on above what it finds on the two stacks: within two turns
-- for each node of its tree it fails, or it is done and has left one fragment. No task of it ever
-- takes a fragment from below, so no fragment is ever lacking.
import MailSearch.Proofs.TwoStacks
import MailSearch.Proofs.WalkMeaning

namespace MailSearch

/-! ## Nodes -/

/-- How many nodes a tree has. A node of an unknown kind stands alone. -/
def Node.size : Node → Nat
  | .known f => f.size
  | .foreign _ => 1

/-- The fragment of a node, by recursion. -/
def Node.fragment (headers : List String) : Node → Except ExpressFault String
  | .known f => Walk.accepted (f.spelling headers)
  | .foreign n => .error (.unknownNode n.name)

namespace Walk

open TwoStacks

/-! ## What tasks take -/

theorem suffices_visit (headers : List String) (node : Node) :
    Suffices (step headers) (.visit node) [] := by
  intro below
  cases node with
  | foreign n => rfl
  | known f =>
    cases f with
    | unary op operand => by_cases hop : op = notSymbol <;> simp [step, visit, hop]
    | binary op left right =>
      rcases hc : Connective.ofSymbol? op with _ | c <;> simp [step, visit, hc]
    | _ => rfl

theorem suffices_negate (headers : List String) (fragment : String) :
    Suffices (step headers) .negate [fragment] := by
  intro below
  simp only [step, List.cons_append, List.nil_append]
  rcases accepted (negateFragment fragment) with fault | s <;> rfl

theorem suffices_join (headers : List String) (c : Connective) (left right : String) :
    Suffices (step headers) (.join c) [right, left] := by
  intro below
  simp only [step, List.cons_append, List.nil_append]
  rcases accepted (joinFragments headers c left right) with fault | s <;> rfl

/-! ## Turns -/

section Turns

variable (headers : List String) (rest : List Task) (base : List String)

theorem above_visit (node : Node) : Above (step headers) rest base (.visit node :: rest, base) :=
  ⟨.visit node, [], [], rfl, suffices_visit headers node⟩

/-- A visit that comes to its end at once. -/
theorem settles_of_visit {node : Node} {outcome : Except ExpressFault String}
    (h : step headers (.visit node) base = outcome.map fun s => ([], s :: base)) :
    Settles (step headers) rest base 1 (.visit node :: rest, base) outcome := by
  apply Settles.of_turn (above_visit headers rest base node)
  rw [turn, h]
  cases outcome <;> rfl

theorem settles_of_visit_known {f : Filter}
    (h : visit f base = (accepted (f.spelling headers)).map fun s => ([], s :: base)) :
    Settles (step headers) rest base (2 * f.size) (.visit (.known f) :: rest, base)
      (accepted (f.spelling headers)) := by
  have hpos := f.size_pos
  have hvisit : Settles (step headers) rest base 1 (.visit (.known f) :: rest, base)
      (accepted (f.spelling headers)) := by
    apply settles_of_visit
    exact h
  exact hvisit.mono (by omega)

/-- A visit that brings new tasks. -/
theorem turn_visit {node : Node} {new : List Task}
    (h : step headers (.visit node) base = .ok (new, base)) :
    turn (step headers) (.visit node :: rest, base) = .ok (new ++ rest, base) := by
  rw [turn, h, map_ok]

theorem settles_negate (fragment : String) :
    Settles (step headers) rest base 1 (.negate :: rest, fragment :: base)
      (accepted (negateFragment fragment)) := by
  apply Settles.of_turn
  · exact ⟨.negate, [], [fragment], rfl, suffices_negate headers fragment⟩
  · simp only [turn, step]
    rcases accepted (negateFragment fragment) with fault | s <;> rfl

theorem settles_join (c : Connective) (left right : String) :
    Settles (step headers) rest base 1 (.join c :: rest, right :: left :: base)
      (accepted (joinFragments headers c left right)) := by
  apply Settles.of_turn
  · exact ⟨.join c, [], [right, left], rfl, suffices_join headers c left right⟩
  · simp only [turn, step]
    rcases accepted (joinFragments headers c left right) with fault | s <;> rfl

end Turns

/-! ## Visits -/

theorem accepted_fragment_negation (headers : List String) {op : String} {operand : Filter}
    (hop : op = notSymbol) :
    accepted ((Filter.unary op operand).spelling headers) =
      accepted (operand.spelling headers) >>= fun s => accepted (negateFragment s) := by
  rw [spelling_unary hop, accepted_bind]

theorem accepted_fragment_pair (headers : List String) {op : String} {left right : Filter}
    {c : Connective} (hc : Connective.ofSymbol? op = some c) :
    accepted ((Filter.binary op left right).spelling headers) =
      accepted (left.spelling headers) >>= fun l => accepted (right.spelling headers) >>=
        fun r => accepted (joinFragments headers c l r) := by
  rw [spelling_binary hc, accepted_bind]
  congr 1
  funext l
  rw [accepted_bind]

/-- The induction is on the tree, for all stacks: the operands of an expression are visited above
the task that waits for them, and the right one above the fragment of the left one too. -/
theorem settles_visit (headers : List String) (f : Filter) (rest : List Task)
    (base : List String) :
    Settles (step headers) rest base (2 * f.size) (.visit (.known f) :: rest, base)
      (accepted (f.spelling headers)) := by
  induction f generalizing rest base with
  | unary op operand ih =>
    by_cases hop : op = notSymbol
    · have hvisit : step headers (.visit (.known (.unary op operand))) base =
          .ok ([.visit (.known operand), .negate], base) := by simp [step, visit, hop]
      have hoperand : Settles (step headers) rest base (2 * operand.size + 1)
          (.visit (.known operand) :: .negate :: rest, base)
          (accepted (operand.spelling headers) >>= fun s => accepted (negateFragment s)) :=
        Settles.bind [Task.negate] [] (ih (.negate :: rest) base)
          (settles_negate headers rest base)
      rw [accepted_fragment_negation headers hop, Filter.size]
      exact (hoperand.after_turn (above_visit headers rest base _)
        (turn_visit headers rest base hvisit)).mono (by omega)
    · apply settles_of_visit_known
      simp [visit, spelling_unary_of_ne hop, hop]
  | binary op left right ihl ihr =>
    rcases hc : Connective.ofSymbol? op with _ | c
    · apply settles_of_visit_known
      simp [visit, spelling_binary_of_none hc, hc]
    · have hvisit : step headers (.visit (.known (.binary op left right))) base =
          .ok ([.visit (.known left), .visit (.known right), .join c], base) := by
        simp [step, visit, hc]
      have hright : ∀ l, Settles (step headers) rest base (2 * right.size + 1)
          (.visit (.known right) :: .join c :: rest, l :: base)
          (accepted (right.spelling headers) >>= fun r =>
            accepted (joinFragments headers c l r)) := by
        intro l
        exact Settles.bind [Task.join c] [l] (ihr (.join c :: rest) (l :: base))
          (settles_join headers rest base c l)
      have hleft : Settles (step headers) rest base (2 * left.size + (2 * right.size + 1))
          (.visit (.known left) :: .visit (.known right) :: .join c :: rest, base)
          (accepted (left.spelling headers) >>= fun l => accepted (right.spelling headers) >>=
            fun r => accepted (joinFragments headers c l r)) :=
        Settles.bind [Task.visit (.known right), Task.join c] []
          (ihl (.visit (.known right) :: .join c :: rest) base) hright
      rw [accepted_fragment_pair headers hc, Filter.size]
      exact (hleft.after_turn (above_visit headers rest base _)
        (turn_visit headers rest base hvisit)).mono (by omega)
  | _ =>
    apply settles_of_visit_known
    rfl

theorem settles_node (headers : List String) (node : Node) (rest : List Task)
    (base : List String) :
    Settles (step headers) rest base (2 * node.size) (.visit node :: rest, base)
      (node.fragment headers) := by
  cases node with
  | known f => exact settles_visit headers f rest base
  | foreign n =>
    have hvisit : Settles (step headers) rest base 1 (.visit (.foreign n) :: rest, base)
        (.error (.unknownNode n.name)) := by
      apply settles_of_visit
      rfl
    exact hvisit.mono (Nat.le_succ 1)

theorem fragment_ne_noFragment (headers : List String) (node : Node) :
    node.fragment headers ≠ .error .noFragment := by
  cases node with
  | known f =>
    rw [Node.fragment]
    rcases f.spelling headers with refusal | s <;> simp
  | foreign n => simp [Node.fragment]

/-! ## The whole walk -/

/-- Some turns of a walk may be done first. -/
theorem run_eq_turns (headers : List String) (n : Nat) (tasks : List Task)
    (fragments : List String) :
    run headers tasks fragments =
      turns (step headers) n (tasks, fragments) >>= fun state =>
        run headers state.1 state.2 := by
  induction n generalizing tasks fragments with
  | zero => rfl
  | succ n ih =>
    cases tasks with
    | nil => rw [turns_nil, ok_bind]
    | cons task tasks =>
      rw [run_cons, turns, turn]
      rcases step headers task fragments with fault | after
      · rfl
      · rw [map_ok, ok_bind, ok_bind]
        exact ih (after.1 ++ tasks) after.2

end Walk

/-! ## The law -/

/-- A visit goes on above whatever it finds on the two stacks. After at most two turns for each
node it has failed, or has left everything as it was with one fragment on top. A fragment is
never lacking. So after that many turns a whole walk has no task left and one fragment, and
answers with this fragment if it stands as a term. -/
theorem every_visit_leaves_one_fragment (headers : List String) (node : Node) :
    (∀ rest base, TwoStacks.Settles (Walk.step headers) rest base (2 * node.size)
      (.visit node :: rest, base) (node.fragment headers)) ∧
    node.fragment headers ≠ .error .noFragment ∧
    (∀ n ≥ 2 * node.size, TwoStacks.turns (Walk.step headers) n ([.visit node], []) =
      (node.fragment headers).map fun s => ([], [s])) ∧
    Node.express headers node =
      (node.fragment headers >>= fun s => Walk.accepted (asTerm s)) ∧
    Node.express headers node ≠ .error .noFragment := by
  have hsettles := Walk.settles_node headers node
  have hlacks := Walk.fragment_ne_noFragment headers node
  have hend : ∀ n ≥ 2 * node.size, TwoStacks.turns (Walk.step headers) n ([.visit node], []) =
      (node.fragment headers).map fun s => ([], [s]) := by
    intro n hn
    exact (hsettles [] []).turns_eq hn
  have hexpress : Node.express headers node =
      (node.fragment headers >>= fun s => Walk.accepted (asTerm s)) := by
    rw [Node.express, Walk.run_eq_turns headers (2 * node.size), hend _ (Nat.le_refl _)]
    rcases node.fragment headers with fault | s
    · rfl
    · simp [Walk.run]
  refine ⟨hsettles, hlacks, hend, hexpress, ?_⟩
  rw [hexpress]
  rcases hnode : node.fragment headers with fault | s
  · rw [hnode] at hlacks
    exact hlacks
  · rw [ok_bind, asTerm_eq]
    split <;> simp

/-- A negated text takes three turns, above a task and a fragment that were there before. -/
example : TwoStacks.turns (Walk.step standardHeaders) 3
    ([.visit (.known (.unary "NOT" (.string "a"))), .negate], ["b"]) =
      .ok ([.negate], ["-a", "b"]) := rfl

end MailSearch
