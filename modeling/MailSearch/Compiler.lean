-- Compilers turn a filter, or the record form of one, into a search expression. A compiler is a
-- name and a rule for nodes; every compiler reads records in the same way first. What it answers
-- ought to be a text.
import MailSearch.Expression.Walk
import MailSearch.Filter.Reading

namespace MailSearch

/-- A compiler: its name, and what it makes of a node. -/
structure CompilerOf (α : Type) where
  name : String
  express : Node → Except ExpressFault α

/-- A compiler that answers with texts. -/
abbrev Compiler := CompilerOf String

/-- Why a value could not be compiled. -/
inductive CompileFault where
  /-- The value is neither a node nor a record. -/
  | notAFilter (typeName : String)
  | unreadable (fault : ReadFault)
  | inexpressible (fault : ExpressFault)

/-- The node that a value stands for. -/
def Compiler.nodeOf : Value → Except CompileFault Node
  | .node f => .ok (.known f)
  | .foreign n => .ok (.foreign n)
  | .record fs =>
    match (Value.record fs).read with
    | .ok node => .ok node
    | .error fault => .error (.unreadable fault)
  | v => .error (.notAFilter v.typeName)

namespace CompilerOf

/-- Compiles a node or the record form of one. -/
def compile (c : CompilerOf α) (v : Value) : Except CompileFault α := do
  let node ← Compiler.nodeOf v
  match c.express node with
  | .ok expression => .ok expression
  | .error fault => .error (.inexpressible fault)

/-- The same compiler with other answers. -/
def map (f : α → β) (c : CompilerOf α) : CompilerOf β := ⟨c.name, fun node => (c.express node).map f⟩

theorem compile_map (f : α → β) (c : CompilerOf α) (v : Value) :
    (c.map f).compile v = (c.compile v).map f := by
  unfold compile
  rcases Compiler.nodeOf v with fault | node
  · rfl
  · rcases h : c.express node with fault | expression <;> simp [map, h, bind, Except.bind, Except.map]

end CompilerOf

namespace Compiler

/-! ## Some compilers -/

/-- A compiler for the mail search grammar with a list of headers of its own. -/
def ofHeaders (name : String) (headers : List String) : Compiler := ⟨name, Node.express headers⟩

/-- The compiler for the mail search grammar. -/
def standard : Compiler := ofHeaders "GmailFilterCompiler" standardHeaders

/-- A compiler that answers every node alike. -/
def constant (name : String) (answer : α) : CompilerOf α := ⟨name, fun _ => .ok answer⟩

/-- A compiler that has no rule for any node. -/
def unfinished (name : String) : CompilerOf α := ⟨name, fun _ => .error .unfinished⟩

end Compiler

end MailSearch
