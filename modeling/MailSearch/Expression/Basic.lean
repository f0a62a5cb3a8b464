-- The expressions of a mail search, piece by piece. Terms beside each other must all match, `OR`
-- joins alternatives, a leading minus negates, and a header directive looks for a text inside one
-- header. A filter that the search cannot express is refused, and the refusal names the part that
-- is at fault.
import MailSearch.Filter.Basic

namespace MailSearch

/-- The headers that a search can look into, in the order in which they are listed. -/
def standardHeaders : List String := ["from", "to", "subject", "cc", "bcc"]

/-- Why a filter cannot be expressed: an operator, a header or a kind of literal that the search
does not have. -/
inductive Refusal where
  | operator (symbol : String)
  | header (name : String)
  | literal (kind : Kind)
deriving DecidableEq

/-- The binary operators that a search can express. -/
inductive Connective where
  | both
  | either
  | has
  | hasNot
deriving DecidableEq

namespace Connective

def symbol : Connective → String
  | both => "AND"
  | either => "OR"
  | has => "=~"
  | hasNot => "!~"

def ofSymbol? (s : String) : Option Connective :=
  [both, either, has, hasNot].find? (·.symbol = s)

@[simp]
theorem ofSymbol?_symbol (c : Connective) : ofSymbol? c.symbol = some c := by cases c <;> rfl

theorem symbol_of_ofSymbol? {s : String} {c : Connective} (h : ofSymbol? s = some c) :
    c.symbol = s := by
  simpa using List.find?_some h

end Connective

/-- The symbol of the only unary operator that a search can express. -/
def notSymbol : String := "NOT"

/-! ## Fragments -/

/-- A phrase stands in double quotes. There is no way to write a double quote inside. -/
def phraseFragment (s : String) : String := "\"" ++ s ++ "\""

/-- A fragment that stands as a term. Only an empty text literal has an empty fragment, and it
is no term. -/
def asTerm (fragment : String) : Except Refusal String :=
  if fragment.isEmpty then .error (.literal .string) else .ok fragment

def negateFragment (fragment : String) : Except Refusal String :=
  (asTerm fragment).map ("-" ++ ·)

/-- A header directive: the header, a colon and the text to look for. -/
def directive (headers : List String) (header value : String) : Except Refusal String :=
  if headers.contains header then .ok (header ++ ":" ++ phraseFragment value)
  else .error (.header header)

/-- Two fragments joined. The left one is looked at first. -/
def joinFragments (headers : List String) (c : Connective) (left right : String) :
    Except Refusal String :=
  match c with
  | .both => do return "(" ++ (← asTerm left) ++ " " ++ (← asTerm right) ++ ")"
  | .either => do return "(" ++ (← asTerm left) ++ " OR " ++ (← asTerm right) ++ ")"
  | .has => directive headers left right
  | .hasNot => (directive headers left right).map ("-" ++ ·)

end MailSearch
