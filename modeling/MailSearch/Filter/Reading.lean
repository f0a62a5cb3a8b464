-- Reading a filter from its record form. The children of an expression are read first and the
-- expression is put together from the finished nodes, so each record is checked by itself. Two
-- stacks hold what is left to do and what is done; no step goes deeper than one record, and the
-- first fault ends the reading.
import MailSearch.Filter.Same
import MailSearch.Filter.Validation

namespace MailSearch

/-- Why a value could not be read as a filter. -/
inductive ReadFault where
  /-- A record of the named type breaks the rules. -/
  | invalid (title : String) (faults : List Fault)
  /-- The type field of a record holds something that is no key. -/
  | typeNotAKey (typeName : String)
  /-- A finished node was asked for and none was left. -/
  | nothingBuilt

namespace Reading

/-! ## One step -/

/-- What is left to do: read a value, or put an expression together from the nodes that its
children became. -/
inductive Task where
  | read (v : Value)
  | assemble (k : Kind) (fs : Fields)

/-- The children that a record has, in the order of a walk. -/
def presentChildren (k : Kind) (fs : Fields) : List (String × Value) :=
  k.childNames.filterMap fun name => (Fields.get? fs name).map (name, ·)

/-- The kind of an expression record. Other values have none, and a type field has to be a key. -/
def expression? : Value → Except ReadFault (Option (Kind × Fields))
  | .record fs =>
    match Fields.get? fs "type" with
    | none => .ok none
    | some t =>
      match t.notAKey? with
      | some typeName => .error (.typeNotAKey typeName)
      | none =>
        match t with
        | .text s =>
          if s = Kind.unary.name then .ok (some (.unary, fs))
          else if s = Kind.binary.name then .ok (some (.binary, fs))
          else .ok none
        | _ => .ok none
  | _ => .ok none

/-- Puts finished nodes in the place of children, the last child first. -/
def refill : List String → Fields → List Node → Except ReadFault (Fields × List Node)
  | [], fs, built => .ok (fs, built)
  | name :: names, fs, node :: built => refill names (fs.set name node.toValue) built
  | _ :: _, _, [] => .error .nothingBuilt

/-- Names the record whose faults these are. -/
def titled (title : String) : Checked Filter → Except ReadFault Filter
  | .ok f => .ok f
  | .error faults => .error (.invalid title faults)

/-- Does one task: new tasks in front, and the nodes that are built then. -/
def step (task : Task) (built : List Node) : Except ReadFault (List Task × List Node) :=
  match task with
  | .read (.node f) => .ok ([], .known f :: built)
  | .read (.foreign n) => .ok ([], .foreign n :: built)
  | .read v => do
    match ← expression? v with
    | none =>
      let f ← titled "FilterNode" (Filter.validate v)
      return ([], .known f :: built)
    | some (k, fs) =>
      return ((presentChildren k fs).map (fun child => .read child.2) ++ [.assemble k fs], built)
  | .assemble k fs => do
    let names := (presentChildren k fs).map (·.1)
    let (filled, rest) ← refill names.reverse fs built
    let f ← titled k.name (Filter.ofFields k filled)
    return ([], .known f :: rest)

/-! ## The end of the reading -/

/-- A bound on the steps that a task leads to. -/
def Task.weight : Task → Nat
  | .read v => 2 * v.size
  | .assemble _ _ => 1

def weight : List Task → Nat
  | [] => 0
  | task :: rest => task.weight + weight rest

theorem weight_append (xs ys : List Task) : weight (xs ++ ys) = weight xs + weight ys := by
  induction xs with
  | nil => simp [weight]
  | cons task xs ih => simp [weight, ih, Nat.add_assoc]

theorem expression?_eq_some {v : Value} {k : Kind} {fs : Fields}
    (h : expression? v = .ok (some (k, fs))) : v = .record fs ∧ (k = .unary ∨ k = .binary) := by
  unfold expression? at h
  split at h
  · split at h
    · simp at h
    · split at h
      · simp at h
      · split at h
        · split at h
          · simp at h; grind
          · split at h
            · simp at h; grind
            · simp at h
        · simp at h
  · simp at h

/-- The children of a record are smaller together than the record. -/
theorem weight_children {k : Kind} (fs : Fields) (hk : k = .unary ∨ k = .binary) :
    weight ((presentChildren k fs).map (fun child => .read child.2)) ≤ 2 * sizeOfFields fs := by
  rcases hk with rfl | rfl
  · rcases h : Fields.get? fs "operand" with _ | v
    · simp [presentChildren, Kind.childNames, h, weight]
    · have := Fields.size_get? h
      simp [presentChildren, Kind.childNames, h, weight, Task.weight]
      omega
  · rcases hl : Fields.get? fs "left" with _ | v <;> rcases hr : Fields.get? fs "right" with _ | w
    · simp [presentChildren, Kind.childNames, hl, hr, weight]
    · have := Fields.size_get? hr
      simp [presentChildren, Kind.childNames, hl, hr, weight, Task.weight]
      omega
    · have := Fields.size_get? hl
      simp [presentChildren, Kind.childNames, hl, hr, weight, Task.weight]
      omega
    · have := Fields.size_get?_add (by decide) hl hr
      simp [presentChildren, Kind.childNames, hl, hr, weight, Task.weight]
      omega

/-- Every step does away with more work than it brings. -/
theorem weight_step {task : Task} {built built' : List Node} {new : List Task}
    (h : step task built = .ok (new, built')) : weight new < task.weight := by
  have done : ∀ task : Task, weight [] < task.weight := by
    intro task
    cases task with
    | read v => have := v.size_pos; simp [weight, Task.weight]; omega
    | assemble k fs => simp [weight, Task.weight]
  unfold step at h
  split at h
  · simp at h; rw [h.1]; exact done _
  · simp at h; rw [h.1]; exact done _
  · rename_i v _ _
    rcases he : expression? v with _ | o
    · simp [he, bind, Except.bind] at h
    · rcases o with _ | ⟨k, fs⟩
      · rcases ht : titled "FilterNode" (Filter.validate v) with _ | f
        · simp [he, ht, bind, Except.bind] at h
        · simp [he, ht, bind, Except.bind, pure, Except.pure] at h
          rw [h.1]; exact done _
      · simp [he, bind, Except.bind, pure, Except.pure] at h
        obtain ⟨hv, hk⟩ := expression?_eq_some he
        have := weight_children fs hk
        rw [← h.1, weight_append, hv]
        simp [weight, Task.weight, Value.size] at this ⊢
        omega
  · rename_i k fs
    rcases hr : refill ((presentChildren k fs).map (·.1)).reverse fs built with _ | ⟨filled, rest⟩
    · simp [hr, bind, Except.bind] at h
    · rcases ht : titled k.name (Filter.ofFields k filled) with _ | f
      · simp [hr, ht, bind, Except.bind] at h
      · simp [hr, ht, bind, Except.bind, pure, Except.pure] at h
        rw [h.1]; exact done _

/-! ## The whole reading -/

/-- Does every task and hands back the node on top. -/
def run (tasks : List Task) (built : List Node) : Except ReadFault Node :=
  match tasks with
  | [] =>
    match built with
    | node :: _ => .ok node
    | [] => .error .nothingBuilt
  | task :: rest =>
    match h : step task built with
    | .error fault => .error fault
    | .ok (new, built') =>
      have : weight (new ++ rest) < weight (task :: rest) := by
        have := weight_step h
        rw [weight_append]; simp [weight] at this ⊢; omega
      run (new ++ rest) built'
termination_by weight tasks

end Reading

/-- Reads a filter from a value. A finished node is taken as it is. -/
def Value.read (v : Value) : Except ReadFault Node := Reading.run [.read v] []

end MailSearch
