-- The reading turn by turn. Around the item that is read, every open expression waits with the
-- children that are still to be read and with the nodes of those that are read already. Each turn
-- keeps to this, so an expression finds the nodes of its own children on top when it is put
-- together, each one for its own field, and a reading goes on above whatever it finds on the two
-- stacks.
import MailSearch.Proofs.BuiltFilters
import MailSearch.Proofs.TwoStacks

namespace MailSearch

/-- The filters that an expression is made of, with the names of their fields. -/
def Filter.operands : Filter → List (String × Filter)
  | .unary _ operand => [("operand", operand)]
  | .binary _ left right => [("left", left), ("right", right)]
  | _ => []

namespace Reading

open TwoStacks

/-! ## An expression is put together -/

/-- An expression is put together from its own record. The nodes of its children lie on top, in
order, and are all that is taken. In the record that is checked, each of them stands in the field
that it was read from, and so it does in the filter. -/
structure PutsTogether (k : Kind) (fs gs : Fields) (tasks : List Task) (built below : List Node) :
    Prop where
  isExpression : expression? (.record fs) = .ok (some (k, fs))
  taken : ∃ nodes, readAll (childrenIn k fs) = .ok nodes ∧ built = nodes.reverse ++ below
  refilled : Refilled k fs gs
  turn_eq : turn step (.assemble k fs :: tasks, built) =
    (titled k.name (Filter.ofFields k gs)).map fun f => (tasks, .known f :: below)
  operands {f : Filter} : Filter.ofFields k gs = .ok f →
    f.operands.map (·.1) = k.childNames ∧
      ∀ name operand, (name, operand) ∈ f.operands →
        ∃ v, Fields.get? fs name = some v ∧ v.read = .ok (.known operand)

/-- If an expression is put together next, this is done from its own record. -/
def KeepsToRecords (state : List Task × List Node) : Prop :=
  ∀ k fs tasks, state.1 = .assemble k fs :: tasks →
    ∃ gs below, PutsTogether k fs gs tasks state.2 below

/-- A check takes a node that stands in the place of a child as the filter that it is. -/
theorem Refilled.read_of_child {k : Kind} {fs gs : Fields} (h : Refilled k fs gs) {name : String}
    {f : Filter} (hname : name ∈ k.childNames) (hf : Filter.child gs name = .ok f) :
    ∃ v, Fields.get? fs name = some v ∧ v.read = .ok (.known f) := by
  obtain ⟨w, hw, hcheck⟩ := Filter.validate_of_child hf
  rcases hv : Fields.get? fs name with _ | v
  · rw [h.get?_eq_none hv] at hw
    cases hw
  · obtain ⟨node, hread, hget⟩ := h.child hname hv
    obtain rfl : node.toValue = w := Option.some.inj (hget.symm.trans hw)
    cases node with
    | known g =>
      rw [Node.toValue, Filter.validate] at hcheck
      cases hcheck
      exact ⟨v, rfl, hread⟩
    | foreign n =>
      rw [Node.toValue, Filter.validate] at hcheck
      exact absurd hcheck (n.validate_ne_ok f)

theorem Refilled.operands {k : Kind} {fs gs : Fields} (h : Refilled k fs gs) {f : Filter}
    (hk : k.childNames ≠ []) (hf : Filter.ofFields k gs = .ok f) :
    f.operands.map (·.1) = k.childNames ∧
      ∀ name operand, (name, operand) ∈ f.operands →
        ∃ v, Fields.get? fs name = some v ∧ v.read = .ok (.known operand) := by
  cases k with
  | unary =>
    rw [Filter.ofFields_unary] at hf
    obtain ⟨op, x, _, hx, rfl⟩ := Checked.both_eq_ok_iff.mp (Fields.own_of_ofKind hf)
    have hx := h.read_of_child (by simp [Kind.childNames]) hx
    refine ⟨rfl, ?_⟩
    intro name operand hmem
    obtain ⟨rfl, rfl⟩ : name = "operand" ∧ operand = x := by simpa [Filter.operands] using hmem
    exact hx
  | binary =>
    rw [Filter.ofFields_binary] at hf
    obtain ⟨op, both, _, hboth, rfl⟩ := Checked.both_eq_ok_iff.mp (Fields.own_of_ofKind hf)
    obtain ⟨l, r, hl, hr, rfl⟩ := Checked.both_eq_ok_iff.mp hboth
    have hl := h.read_of_child (by simp [Kind.childNames]) hl
    have hr := h.read_of_child (by simp [Kind.childNames]) hr
    refine ⟨rfl, ?_⟩
    intro name operand hmem
    have hmem : name = "left" ∧ operand = l ∨ name = "right" ∧ operand = r := by
      simpa [Filter.operands] using hmem
    rcases hmem with ⟨rfl, rfl⟩ | ⟨rfl, rfl⟩
    · exact hl
    · exact hr
  | _ => exact absurd rfl hk

theorem putsTogether {k : Kind} {fs : Fields} {nodes : List Node} (tasks : List Task)
    (below : List Node) (h : expression? (.record fs) = .ok (some (k, fs)))
    (hnodes : readAll (childrenIn k fs) = .ok nodes) :
    PutsTogether k fs (filled (childNamesIn k fs) nodes fs) tasks (nodes.reverse ++ below)
      below := by
  obtain ⟨-, -, hk⟩ := expression?_eq_some_iff.mp h
  have hrefilled := refilled_filled hnodes
  refine ⟨h, ⟨nodes, hnodes, rfl⟩, hrefilled, ?_, hrefilled.operands hk⟩
  rw [turn, step_assemble k fs nodes below (length_of_readAll hnodes), assembled]
  rcases titled k.name (Filter.ofFields k (filled _ nodes fs)) with fault | f <;> rfl

/-! ## What tasks take -/

/-- An item that is no expression is done with at once. -/
theorem step_read_leaf {v : Value} (h : ¬ ∃ e, expression? v = .ok (some e))
    (built : List Node) :
    step (.read v) built = v.read.map fun node => ([], node :: built) := by
  rcases he : expression? v with fault | _ | e
  · rw [read_noKey he]
    cases v with
    | record fs => simp [step, he]
    | _ => simp [expression?] at he
  · rw [read_eq]
    cases v with
    | node f => rfl
    | foreign n => rfl
    | _ =>
      simp only [step, outcome, he, ok_bind]
      rcases titled "FilterNode" _ with fault | f <;> rfl
  · exact absurd ⟨e, he⟩ h

/-- The children of an expression are to be read in order, and after them it is put together. -/
theorem step_read_expression {v : Value} {k : Kind} {fs : Fields}
    (h : expression? v = .ok (some (k, fs))) (built : List Node) :
    step (.read v) built =
      .ok ((childrenIn k fs).map .read ++ [.assemble k fs], built) := by
  obtain ⟨rfl, -⟩ := expression?_eq_some_iff.mp h
  simp [step, h, childrenIn]

theorem suffices_read (v : Value) : Suffices step (.read v) [] := by
  intro below
  by_cases h : ∃ e, expression? v = .ok (some e)
  · obtain ⟨⟨k, fs⟩, h⟩ := h
    simp [step_read_expression h]
  · rw [step_read_leaf h, step_read_leaf h]
    rcases v.read with fault | node <;> rfl

theorem suffices_assemble {k : Kind} {fs : Fields} {nodes : List Node}
    (h : nodes.length = (childrenIn k fs).length) :
    Suffices step (.assemble k fs) nodes.reverse := by
  intro below
  have hempty := step_assemble k fs nodes [] h
  rw [List.append_nil] at hempty
  rw [step_assemble k fs nodes below h, hempty]
  rcases assembled k fs nodes with fault | f <;> rfl

/-! ## Open expressions -/

section Underway

variable (v : Value) (rest : List Task) (base : List Node)

/-- What is on the two stacks while an item is read as a part of `v`. Each open expression around
the item waits to be put together, behind the children on the right of the part that is read. The
nodes of the children on the left are built already. -/
inductive Awaits : Value → List Task → List Node → Prop
  | whole : Awaits v rest base
  | part {item child : Value} {tasks : List Task} {built : List Node} {k : Kind} {fs : Fields}
      {before after : List Value} {nodes : List Node} :
      Awaits item tasks built → expression? item = .ok (some (k, fs)) →
      childrenIn k fs = before ++ child :: after → readAll before = .ok nodes →
      Awaits child (after.map .read ++ .assemble k fs :: tasks) (nodes.reverse ++ built)

/-- A reading goes on: an item is to be read, or an expression is to be put together, and all its
children are read. -/
inductive Underway : List Task × List Node → Prop
  | read {item : Value} {tasks : List Task} {built : List Node} :
      Awaits v rest base item tasks built → Underway (.read item :: tasks, built)
  | assemble {item : Value} {tasks : List Task} {built : List Node} {k : Kind} {fs : Fields}
      {nodes : List Node} :
      Awaits v rest base item tasks built → expression? item = .ok (some (k, fs)) →
      readAll (childrenIn k fs) = .ok nodes →
      Underway (.assemble k fs :: tasks, nodes.reverse ++ built)

end Underway

section Turns

variable {v item : Value} {rest tasks : List Task} {base built : List Node}

/-- Open expressions lie above what was there before. -/
theorem Awaits.above (h : Awaits v rest base item tasks built) :
    ∃ more top, tasks = more ++ rest ∧ built = top ++ base := by
  induction h with
  | whole => exact ⟨[], [], rfl, rfl⟩
  | @part _ _ _ _ k fs _ after nodes _ _ _ _ ih =>
    obtain ⟨more, top, rfl, rfl⟩ := ih
    exact ⟨after.map .read ++ .assemble k fs :: more, nodes.reverse ++ top, by simp, by simp⟩

/-- A part that cannot be read is what the whole cannot be read for. The parts on the left of it
can be read. -/
theorem Awaits.fails (h : Awaits v rest base item tasks built) {fault : ReadFault}
    (hfault : item.read = .error fault) : v.read = .error fault := by
  induction h with
  | whole => exact hfault
  | @part _ child _ _ _ _ before after _ _ hitem hchildren hbefore ih =>
    apply ih
    have hall : readAll (before ++ child :: after) = .error fault :=
      readAll_eq_error_of (read_of_readAll hbefore) hfault
    rw [read_expression hitem, hchildren, hall]
    rfl

/-- With the node of an item the reading goes on behind it, unless the item was the whole. -/
theorem Awaits.goesOn (h : Awaits v rest base item tasks built) {node : Node}
    (hnode : item.read = .ok node) :
    Underway v rest base (tasks, node :: built) ∨
      v.read = .ok node ∧ (tasks, node :: built) = (rest, node :: base) := by
  cases h with
  | whole => exact .inr ⟨hnode, rfl⟩
  | @part outer _ tasks built k fs before after nodes houter hitem hchildren hbefore =>
    left
    have hone : readAll [item] = .ok [node] := by simp [readAll, hnode]
    have hdone := readAll_append hbefore hone
    cases after with
    | nil =>
      -- the item was the last child
      rw [← hchildren] at hdone
      simpa using Underway.assemble houter hitem hdone
    | cons next after =>
      have hsplit : childrenIn k fs = (before ++ [item]) ++ next :: after := by simp [hchildren]
      simpa using Underway.read (Awaits.part houter hitem hsplit hdone)

/-- The children of an expression are taken up from the left. -/
theorem Awaits.opens (h : Awaits v rest base item tasks built) {k : Kind} {fs : Fields}
    (hitem : expression? item = .ok (some (k, fs))) :
    Underway v rest base ((childrenIn k fs).map .read ++ .assemble k fs :: tasks, built) := by
  have hnone : readAll [] = .ok [] := rfl
  rcases hchildren : childrenIn k fs with _ | ⟨first, after⟩
  · exact Underway.assemble h hitem (hchildren ▸ hnone)
  · exact Underway.read (Awaits.part h hitem hchildren hnone)

/-! ## One turn -/

theorem Underway.above {state : List Task × List Node} (h : Underway v rest base state) :
    Above step rest base state := by
  cases h with
  | @read item tasks built h =>
    obtain ⟨more, top, rfl, rfl⟩ := h.above
    exact ⟨.read item, more, top, rfl, (suffices_read item).append top⟩
  | @assemble item tasks built k fs nodes h _ hnodes =>
    obtain ⟨more, top, rfl, rfl⟩ := h.above
    have henough := suffices_assemble (length_of_readAll hnodes)
    refine ⟨.assemble k fs, more, nodes.reverse ++ top, ?_, henough.append top⟩
    rw [List.append_assoc]

theorem Underway.keepsToRecords {state : List Task × List Node} (h : Underway v rest base state) :
    KeepsToRecords state := by
  intro k fs tasks htasks
  cases h with
  | read h => cases htasks
  | assemble h hitem hnodes =>
    cases htasks
    obtain ⟨rfl, -⟩ := expression?_eq_some hitem
    exact ⟨_, _, putsTogether _ _ hitem hnodes⟩

/-- A turn hands the node of an item on, or fails as the reading of the item does, or opens an
expression. -/
theorem Underway.turn_cases {state : List Task × List Node} (h : Underway v rest base state) :
    (∃ item tasks built, Awaits v rest base item tasks built ∧
      turn step state = item.read.map fun node => (tasks, node :: built)) ∨
    ∃ next, Underway v rest base next ∧ turn step state = .ok next := by
  cases h with
  | @read item tasks built h =>
    by_cases hitem : ∃ e, expression? item = .ok (some e)
    · obtain ⟨⟨k, fs⟩, hitem⟩ := hitem
      right
      refine ⟨_, h.opens hitem, ?_⟩
      rw [turn, step_read_expression hitem]
      simp
    · left
      refine ⟨item, tasks, built, h, ?_⟩
      rw [turn, step_read_leaf hitem]
      rcases item.read with fault | node <;> rfl
  | @assemble item tasks built k fs nodes h hitem hnodes =>
    left
    refine ⟨item, tasks, built, h, ?_⟩
    rw [turn, step_assemble k fs nodes built (length_of_readAll hnodes), read_expression hitem,
      hnodes, ok_bind]
    rcases assembled k fs nodes with fault | f <;> rfl

/-- The reading of the whole fails as a turn of it does. -/
theorem Underway.fails {state : List Task × List Node} (h : Underway v rest base state)
    {fault : ReadFault} (hturn : turn step state = .error fault) : v.read = .error fault := by
  rcases h.turn_cases with ⟨item, tasks, built, hawaits, heq⟩ | ⟨next, -, heq⟩
  · apply hawaits.fails
    rw [heq] at hturn
    rcases hread : item.read with other | node
    · simpa [hread] using hturn
    · simp [hread] at hturn
  · rw [heq] at hturn
    cases hturn

/-- After any other turn the reading goes on, or it is done. -/
theorem Underway.goesOn {state next : List Task × List Node} (h : Underway v rest base state)
    (hturn : turn step state = .ok next) :
    Underway v rest base next ∨ ∃ node, v.read = .ok node ∧ next = (rest, node :: base) := by
  rcases h.turn_cases with ⟨item, tasks, built, hawaits, heq⟩ | ⟨other, hother, heq⟩
  · rw [heq] at hturn
    obtain ⟨node, hnode, rfl⟩ := map_eq_ok_iff.mp hturn
    rcases hawaits.goesOn hnode with hnext | ⟨hv, hend⟩
    · exact .inl hnext
    · exact .inr ⟨node, hv, hend⟩
  · rw [heq] at hturn
    cases hturn
    exact .inl hother

/-! ## The work that is left -/

theorem Task.weight_pos (task : Task) : 0 < task.weight := by
  cases task with
  | read v =>
    have := v.size_pos
    simp only [weight]
    omega
  | assemble k fs => exact Nat.one_pos

theorem Underway.weight_lt {state : List Task × List Node} (h : Underway v rest base state) :
    Reading.weight rest < Reading.weight state.1 := by
  obtain ⟨task, more, top, rfl, -⟩ := h.above
  have := task.weight_pos
  simp only [Reading.weight, weight_append]
  omega

/-- Every turn does away with more work than it brings. -/
theorem Underway.weight_turn {state next : List Task × List Node} (h : Underway v rest base state)
    (hturn : turn step state = .ok next) : Reading.weight next.1 < Reading.weight state.1 := by
  obtain ⟨task, more, top, rfl, -⟩ := h.above
  obtain ⟨after, hafter, rfl⟩ := map_eq_ok_iff.mp hturn
  have := weight_step hafter
  rw [weight_append, Reading.weight]
  omega

end Turns

/-! ## The whole reading -/

theorem onTheWay (v : Value) (rest : List Task) (base : List Node) :
    OnTheWay step (Underway v rest base) (fun state => weight state.1 - weight rest) rest base
      v.read := by
  constructor
  · intro state h
    exact h.above
  · intro state h
    have := h.weight_lt
    omega
  · intro state fault h hturn
    exact h.fails hturn
  · intro state next h hturn
    have hstate := h.weight_lt
    have hless := h.weight_turn hturn
    rcases h.goesOn hturn with hnext | hend
    · exact .inl ⟨hnext, by omega⟩
    · exact .inr hend

theorem settles_read (v : Value) (rest : List Task) (base : List Node) :
    SettlesWith step KeepsToRecords rest base (2 * v.size) (.read v :: rest, base) v.read := by
  have hsettles := (onTheWay v rest base).settlesWith (Underway.read Awaits.whole)
  have hbound : weight (.read v :: rest) - weight rest = 2 * v.size := by
    simp [weight, Task.weight]
  rw [hbound] at hsettles
  exact hsettles.imp fun _ => Underway.keepsToRecords

theorem read_ne_nothingBuilt (v : Value) : v.read ≠ .error .nothingBuilt := by
  intro h
  obtain ⟨_, _, _, hfault⟩ := exists_atFault h
  exact (finds_of_atFault hfault).1 rfl

end Reading

/-! ## The law -/

/-- A reading goes on above whatever it finds on the two stacks. After at most two turns for each
value in it, it has failed, or has left everything as it was with one node on top. Whenever it puts
an expression together, it does so from the expression's own record, with the nodes of the own
children in their places. A node is never lacking. So after that many turns a whole reading has no
task left and one node, which is what the value is read as. -/
theorem a_reading_never_mixes_up_children (v : Value) :
    (∀ rest base, TwoStacks.SettlesWith Reading.step Reading.KeepsToRecords rest base (2 * v.size)
      (.read v :: rest, base) v.read) ∧
    v.read ≠ .error .nothingBuilt ∧
    (∀ n ≥ 2 * v.size, TwoStacks.turns Reading.step n ([.read v], []) =
      v.read.map fun node => ([], [node])) ∧
    v.read = Reading.outcome v := by
  have hsettles := Reading.settles_read v
  refine ⟨hsettles, Reading.read_ne_nothingBuilt v, ?_, Reading.read_eq v⟩
  intro n hn
  exact (hsettles [] []).settles.turns_eq hn

/-- Both sides of an expression get to their places, also if the right one is written first. -/
example : TwoStacks.turns Reading.step 4
    ([.read (.record [("right", .node (.string "b")), ("type", .text "BinaryExpr"),
      ("left", .node (.string "a")), ("operator", .text "OR")])], [.known .null]) =
      .ok ([], [.known (.binary "OR" (.string "a") (.string "b")), .known .null]) := by
  cbv

end MailSearch
