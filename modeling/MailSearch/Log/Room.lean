-- What can be written out in a message. To write a value takes room on the stack, more of it the
-- deeper the value goes, and how much is left depends on who asks. A value may also be refused, such
-- as a number of too many digits.
import MailSearch.Filter.Basic

namespace MailSearch

/-- Why a message has no text. -/
inductive Unwritten where
  /-- The template and the arguments do not fit, or an argument is refused. -/
  | misfit
  /-- An argument goes deeper than there is room for. -/
  | tooDeep
deriving DecidableEq

/-- What there is room for. A text by itself can always be written. -/
structure Room where
  allow : Value → Except Unwritten Unit
  allow_text : ∀ s, allow (.text s) = .ok ()

/-! ## Rooms with limits -/

/-- How much deeper a node goes than a record. -/
def stepsOfNode : Nat := 4

mutual

/-- Goes through a value as it is written out, with so many steps to go down at most. Whole numbers
have so many digits at most. -/
def Value.fit (digits : Nat) : Nat → Value → Except Unwritten Unit
  | 0, _ => .error .tooDeep
  | left + 1, .list items => fitItems digits left items
  | left + 1, .record fields => fitFields digits left fields
  | left + 1, .pair _ v => v.fit digits left
  | left + 1, .node f => f.fit digits (left + 1 - stepsOfNode)
  | left + 1, .foreign n => n.fit digits (left + 1 - stepsOfNode)
  | _ + 1, .int n => if n.natAbs < Nat.pow 10 digits then .ok () else .error .misfit
  | _ + 1, _ => .ok ()

def fitItems (digits left : Nat) : List Value → Except Unwritten Unit
  | [] => .ok ()
  | v :: rest => do
    v.fit digits left
    fitItems digits left rest

def fitFields (digits left : Nat) : Fields → Except Unwritten Unit
  | [] => .ok ()
  | (_, v) :: rest => do
    v.fit digits left
    fitFields digits left rest

/-- Goes through the fields of a filter. -/
def Filter.fit (digits : Nat) : Nat → Filter → Except Unwritten Unit
  | 0, _ => .error .tooDeep
  | left + 1, .unary _ operand => operand.fit digits (left + 1 - stepsOfNode)
  | left + 1, .binary _ l r => do
    l.fit digits (left + 1 - stepsOfNode)
    r.fit digits (left + 1 - stepsOfNode)
  | left + 1, .array vs => fitItems digits left vs
  | left + 1, .object vs => fitItems digits left vs
  | _ + 1, .number (.int n) => if n.natAbs < Nat.pow 10 digits then .ok () else .error .misfit
  | _ + 1, _ => .ok ()

def Foreign.fit (digits left : Nat) : Foreign → Except Unwritten Unit
  | ⟨_, _, fields⟩ => fitFields digits left fields

end

/-- Room for values of a limited depth, with numbers of a limited length. -/
def Room.limited (depth digits : Nat) : Room where
  allow
    | .text _ => .ok ()
    | v => v.fit digits depth
  allow_text _ := rfl

end MailSearch
