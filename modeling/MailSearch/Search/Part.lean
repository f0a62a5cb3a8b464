-- What search strings are put together of. A part ought to be a text, but what is given for one, or
-- what a compiler answers, may be anything, and this shows when it is trimmed, or when the parts
-- are joined.
import MailSearch.Filter.Basic
import MailSearch.Text.Octets

namespace MailSearch

/-- A part of a search string, or what stands in its place. Octets are no text, but they can be
trimmed like one. -/
inductive Part where
  | value (v : Value)
  | bytes (octets : List UInt8)

namespace Part

def text (s : String) : Part := .value (.text s)

def text? : Part → Option String
  | .value (.text s) => some s
  | _ => none

def isTruthy : Part → Bool
  | .value v => v.isTruthy
  | .bytes octets => !octets.isEmpty

def typeName : Part → String
  | .value v => v.typeName
  | .bytes _ => "bytes"

/-- What a message shows of a part. -/
def toValue : Part → Value
  | .value v => v
  | .bytes octets => .text (Octets.written octets)

/-- A part without blanks at its ends. The type of what cannot be trimmed is named instead. -/
def trimmed : Part → Except String Part
  | .value (.text s) => .ok (.text (String.ofList (trim isBlank s.toList)))
  | .bytes octets => .ok (.bytes (trim Octets.isBlank octets))
  | .value v => .error v.typeName

/-! ## Joining -/

/-- The first part that is no text: its place, counted from `place` on, and its type. -/
def firstNoText? (place : Nat) : List Part → Option (Nat × String)
  | [] => none
  | part :: rest =>
    match part.text? with
    | some _ => firstNoText? (place + 1) rest
    | none => some (place, part.typeName)

/-- The parts that are something, with one blank between them. The first one of these that is no
text is named instead, by its place among them and its type. -/
def joinAll (parts : List Part) : Except (Nat × String) String :=
  let kept := parts.filter isTruthy
  match firstNoText? 0 kept with
  | none => .ok (" ".intercalate (kept.filterMap text?))
  | some found => .error found

end Part

end MailSearch
