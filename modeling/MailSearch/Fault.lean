-- Faults of a record, and checks that collect them. A check of several fields reports the faults
-- of every one, in the order of the fields.

namespace MailSearch

/-- What is wrong at one place of a record. -/
inductive FaultKind where
  | missing
  | extraField
  | wrongType
  | notText
  | textTooShort
  | notAList
  | notATruthValue
  | unreadableTruthValue
  | notAnInt
  | unreadableInt
  | notAFloat
  | unreadableFloat
  | notANode
  | notOfKind
  | noTag
  | unknownTag
  | frozen
deriving DecidableEq

/-- The code of a fault, as reports name it. -/
def FaultKind.code : FaultKind → String
  | missing => "missing"
  | extraField => "extra_forbidden"
  | wrongType => "literal_error"
  | notText => "string_type"
  | textTooShort => "string_too_short"
  | notAList => "list_type"
  | notATruthValue => "bool_type"
  | unreadableTruthValue => "bool_parsing"
  | notAnInt => "int_type"
  | unreadableInt => "int_parsing"
  | notAFloat => "float_type"
  | unreadableFloat => "float_parsing"
  | notANode => "model_attributes_type"
  | notOfKind => "model_type"
  | noTag => "union_tag_not_found"
  | unknownTag => "union_tag_invalid"
  | frozen => "frozen_instance"

/-- A fault and the way to it, from the outside in. -/
structure Fault where
  kind : FaultKind
  path : List String
deriving DecidableEq

/-- The same fault, seen from further out. -/
def Fault.under (outer : List String) (f : Fault) : Fault := ⟨f.kind, outer ++ f.path⟩

/-! ## Checks -/

/-- A check gives a value or all the faults it found. -/
abbrev Checked (α : Type) := Except (List Fault) α

namespace Checked

def fault (kind : FaultKind) : Checked α := .error [⟨kind, []⟩]

/-- Moves the faults of a check further in. -/
def under (outer : List String) : Checked α → Checked α
  | .ok a => .ok a
  | .error faults => .error (faults.map (·.under outer))

/-- Joins two checks. If either fails, the faults of both stand in a row. -/
def both (combine : α → β → γ) : Checked α → Checked β → Checked γ
  | .ok a, .ok b => .ok (combine a b)
  | .ok _, .error faults => .error faults
  | .error faults, .ok _ => .error faults
  | .error first, .error second => .error (first ++ second)

/-- A check after which nothing is left but its faults. -/
def require : List Fault → Checked Unit
  | [] => .ok ()
  | faults => .error faults

def faults : Checked α → List Fault
  | .ok _ => []
  | .error faults => faults

theorem both_eq_ok_iff {combine : α → β → γ} {x : Checked α} {y : Checked β} {c : γ} :
    both combine x y = .ok c ↔ ∃ a b, x = .ok a ∧ y = .ok b ∧ combine a b = c := by
  cases x <;> cases y <;> simp [both]

@[simp]
theorem under_ok (outer : List String) (a : α) : under outer (.ok a) = .ok a := rfl

theorem under_eq_ok_iff {outer : List String} {x : Checked α} {a : α} :
    under outer x = .ok a ↔ x = .ok a := by
  cases x <;> simp [under]

end Checked

end MailSearch
