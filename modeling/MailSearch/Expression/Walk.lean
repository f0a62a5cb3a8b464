-- The walk that compiles a tree of any depth. One stack holds what is left to do, the other the
-- fragments that are done. Every step does away with more work than it brings, so the walk ends
-- after at most two steps for each node.
import MailSearch.Expression.Basic

namespace MailSearch

/-- How a compilation fails. -/
inductive ExpressFault where
  | refused (refusal : Refusal)
  /-- The node is of a kind that nobody can express. -/
  | unknownNode (name : String)
  /-- The compiler has no rule for anything. -/
  | unfinished
  /-- A fragment was asked for and none was left. -/
  | noFragment
deriving DecidableEq

namespace Walk

/-! ## One step -/

/-- What is left to do: visit a node, negate the last fragment, or join the last two. -/
inductive Task where
  | visit (node : Node)
  | negate
  | join (c : Connective)

def accepted : Except Refusal α → Except ExpressFault α
  | .ok a => .ok a
  | .error refusal => .error (.refused refusal)

/-- Visits a filter. The operands of an expression come before the work that needs them. -/
def visit (f : Filter) (fragments : List String) :
    Except ExpressFault (List Task × List String) :=
  match f with
  | .string value => .ok ([], value :: fragments)
  | .field name => .ok ([], name :: fragments)
  | .phrase text => .ok ([], phraseFragment text :: fragments)
  | .unary op operand =>
    if op = notSymbol then .ok ([.visit (.known operand), .negate], fragments)
    else .error (.refused (.operator op))
  | .binary op left right =>
    match Connective.ofSymbol? op with
    | some c => .ok ([.visit (.known left), .visit (.known right), .join c], fragments)
    | none => .error (.refused (.operator op))
  | f => .error (.refused (.literal f.kind))

/-- Does one task: new tasks in front, and the fragments that are there then. -/
def step (headers : List String) (task : Task) (fragments : List String) :
    Except ExpressFault (List Task × List String) :=
  match task, fragments with
  | .visit (.known f), fragments => visit f fragments
  | .visit (.foreign n), _ => .error (.unknownNode n.name)
  | .negate, fragment :: rest => do
    return ([], (← accepted (negateFragment fragment)) :: rest)
  | .join c, right :: left :: rest => do
    return ([], (← accepted (joinFragments headers c left right)) :: rest)
  | .negate, [] | .join _, [] | .join _, [_] => .error .noFragment

/-! ## The end of the walk -/

/-- A bound on the steps that a task leads to: two for each node of a filter. -/
def Task.weight : Task → Nat
  | .visit (.known f) => 2 * f.size
  | .visit (.foreign _) | .negate | .join _ => 1

def weight : List Task → Nat
  | [] => 0
  | task :: rest => task.weight + weight rest

theorem weight_append (xs ys : List Task) : weight (xs ++ ys) = weight xs + weight ys := by
  induction xs with
  | nil => simp [weight]
  | cons task xs ih => simp [weight, ih, Nat.add_assoc]

theorem weight_visit {f : Filter} {fragments fragments' : List String} {new : List Task}
    (h : visit f fragments = .ok (new, fragments')) : weight new < 2 * f.size := by
  have := f.size_pos
  cases f with
  | unary op operand =>
    by_cases hop : op = notSymbol
    · simp [visit, hop] at h
      rw [← h.1]; simp [weight, Task.weight, Filter.size]; omega
    · simp [visit, hop] at h
  | binary op left right =>
    rcases hc : Connective.ofSymbol? op with _ | c
    · simp [visit, hc] at h
    · simp [visit, hc] at h
      rw [← h.1]; simp [weight, Task.weight, Filter.size]; omega
  | _ => simp_all [visit, weight]

/-- Every step does away with more work than it brings. -/
theorem weight_step {headers : List String} {task : Task} {fragments fragments' : List String}
    {new : List Task} (h : step headers task fragments = .ok (new, fragments')) :
    weight new < task.weight := by
  unfold step at h
  split at h
  · exact weight_visit h
  · simp at h
  · rename_i fragment rest
    rcases hn : accepted (negateFragment fragment) with _ | s
    · simp [hn, bind, Except.bind] at h
    · simp [hn, bind, Except.bind, pure, Except.pure] at h
      rw [h.1]; simp [weight, Task.weight]
  · rename_i c right left rest
    rcases hj : accepted (joinFragments headers c left right) with _ | s
    · simp [hj, bind, Except.bind] at h
    · simp [hj, bind, Except.bind, pure, Except.pure] at h
      rw [h.1]; simp [weight, Task.weight]
  all_goals simp at h

/-! ## The whole walk -/

/-- Does every task and hands back the fragment on top, which has to stand as a term. -/
def run (headers : List String) (tasks : List Task) (fragments : List String) :
    Except ExpressFault String :=
  match tasks with
  | [] =>
    match fragments with
    | fragment :: _ => accepted (asTerm fragment)
    | [] => .error .noFragment
  | task :: rest =>
    match h : step headers task fragments with
    | .error fault => .error fault
    | .ok (new, fragments') =>
      have : weight (new ++ rest) < weight (task :: rest) := by
        have := weight_step h
        rw [weight_append]; simp [weight] at this ⊢; omega
      run headers (new ++ rest) fragments'
termination_by weight tasks

end Walk

/-- Compiles a node into a search expression over the given headers. -/
def Node.express (headers : List String) (node : Node) : Except ExpressFault String :=
  Walk.run headers [.visit node] []

end MailSearch
