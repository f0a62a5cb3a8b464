-- Induction over filter trees. Filters and raw values are defined together, but only the
-- operands of an expression are trees again, so an induction has to look at no raw value.
import MailSearch.Filter.Basic

namespace MailSearch

@[induction_eliminator]
theorem Filter.tree_induction {motive : Filter → Prop}
    (string : ∀ value, motive (.string value))
    (field : ∀ name, motive (.field name))
    (phrase : ∀ text, motive (.phrase text))
    (unary : ∀ op operand, motive operand → motive (.unary op operand))
    (binary : ∀ op left right, motive left → motive right → motive (.binary op left right))
    (number : ∀ value, motive (.number value))
    (boolean : ∀ value, motive (.boolean value))
    (null : motive .null)
    (regExp : ∀ pattern flags, motive (.regExp pattern flags))
    (moment : ∀ value, motive (.moment value))
    (duration : ∀ value, motive (.duration value))
    (array : ∀ elements, motive (.array elements))
    (object : ∀ properties, motive (.object properties))
    (infinity : ∀ negative, motive (.infinity negative))
    (nan : motive .nan) (f : Filter) : motive f := by
  induction h : f.size using Nat.strongRecOn generalizing f with
  | ind n ih =>
    subst h
    cases f with
    | unary op operand =>
      exact unary op operand (ih _ (by rw [Filter.size]; omega) operand rfl)
    | binary op left right =>
      exact binary op left right (ih _ (by rw [Filter.size]; omega) left rfl)
        (ih _ (by rw [Filter.size]; omega) right rfl)
    | string value => exact string value
    | field name => exact field name
    | phrase text => exact phrase text
    | number value => exact number value
    | boolean value => exact boolean value
    | null => exact null
    | regExp pattern flags => exact regExp pattern flags
    | moment value => exact moment value
    | duration value => exact duration value
    | array elements => exact array elements
    | object properties => exact object properties
    | infinity negative => exact infinity negative
    | nan => exact nan

end MailSearch
