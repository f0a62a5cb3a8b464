-- When two values or two filters are the same. Numbers are compared by value, so that a whole
-- number, a binary number and a truth value may be the same; the order of the fields of a record
-- does not count; a filter is the same only as a filter of its kind.
import MailSearch.Filter.Basic

namespace MailSearch

/-- The number that a value counts as. -/
def Value.number? : Value → Option Number
  | .bool b => some (.int (if b then 1 else 0))
  | .int n => some (.int n)
  | .float x => some (.float x)
  | _ => none

/-- Are two values numbers, and the same number? -/
def sameNumbers (v w : Value) : Bool :=
  match v.number?, w.number? with
  | some m, some n => m.same n
  | _, _ => false

mutual

def Value.same : Value → Value → Bool
  | .null, .null => true
  | .text s, .text t => decide (s = t)
  | .list xs, .list ys => sameItems xs ys
  | .record fs, .record gs => decide (fs.length = gs.length) && sameFields fs gs
  | .pair a v, .pair b w => decide (a = b) && v.same w
  | .node f, .node g => f.same g
  | .foreign m, .foreign n => m.same n
  | v, w => sameNumbers v w

def sameItems : List Value → List Value → Bool
  | [], [] => true
  | v :: vs, w :: ws => v.same w && sameItems vs ws
  | _, _ => false

/-- Does a record hold every one of these fields, with the same value? -/
def sameFields : Fields → Fields → Bool
  | [], _ => true
  | (key, v) :: rest, gs =>
    (match Fields.get? gs key with
      | some w => v.same w
      | none => false) && sameFields rest gs

def Filter.same : Filter → Filter → Bool
  | .string v, .string w => decide (v = w)
  | .field m, .field n => decide (m = n)
  | .phrase s, .phrase t => decide (s = t)
  | .unary o x, .unary p y => decide (o = p) && x.same y
  | .binary o l r, .binary p l' r' => decide (o = p) && l.same l' && r.same r'
  | .number m, .number n => m.same n
  | .boolean a, .boolean b => decide (a = b)
  | .null, .null => true
  | .regExp p f, .regExp q g => decide (p = q) && decide (f = g)
  | .moment v, .moment w => decide (v = w)
  | .duration v, .duration w => decide (v = w)
  | .array vs, .array ws => sameItems vs ws
  | .object vs, .object ws => sameItems vs ws
  | .infinity a, .infinity b => decide (a = b)
  | .nan, .nan => true
  | _, _ => false

def Foreign.same : Foreign → Foreign → Bool
  | ⟨name, serial, fs⟩, ⟨name', serial', gs⟩ =>
    decide (name = name') && decide (serial = serial') && decide (fs.length = gs.length) &&
      sameFields fs gs

end

theorem Filter.kind_eq_of_same {f g : Filter} (h : f.same g = true) : f.kind = g.kind := by
  cases f <;> cases g <;> simp_all [Filter.same, Filter.kind]

theorem Foreign.name_eq_of_same {m n : Foreign} (h : m.same n = true) : m.name = n.name := by
  cases m
  cases n
  simp_all [Foreign.same]

/-! ## Keys -/

mutual

/-- The name of the type that keeps a value from being a key, if one does: lists and records are
no keys, and neither is what holds one as a part. -/
def Value.notAKey? : Value → Option String
  | .list _ => some "list"
  | .record _ => some "dict"
  | .pair _ v => v.notAKey?
  | .node f => f.notAKey?
  | .foreign n => n.notAKey?
  | _ => none

def Filter.notAKey? : Filter → Option String
  | .unary _ x => x.notAKey?
  | .binary _ l r => l.notAKey?.or r.notAKey?
  | .array _ | .object _ => some "list"
  | _ => none

def Foreign.notAKey? : Foreign → Option String
  | ⟨_, _, fields⟩ => firstNotAKey? fields

def firstNotAKey? : Fields → Option String
  | [] => none
  | (_, v) :: rest => v.notAKey?.or (firstNotAKey? rest)

end

/-- Two values agree as keys if they are the same. The first one that is no key is named
instead. -/
def Value.sameKey (v w : Value) : Except String Bool :=
  match v.notAKey?.or w.notAKey? with
  | some typeName => .error typeName
  | none => .ok (v.same w)

end MailSearch
