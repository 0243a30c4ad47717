import Workgraph.Number.Basic

/-!
# Values

The values that workflow states are made of. A record keeps its fields in the order in which they were
first set.

Values have no identity. A record or a list that stands in two places of a state is two values, and a change to
one of them leaves the other as it is. So states in which a step could see that two places hold one object are left
out. The one exception are the feature flags of an experiment, whose link a session keeps as a mark of its own.
-/

namespace Workgraph

/-- A value of a workflow state. -/
inductive Value where
  | null
  | bool (b : Bool)
  | int (n : Int)
  | float (x : Float)
  | text (s : String)
  | list (items : List Value)
  | record (fields : List (String × Value))
  deriving Inhabited

instance : Coe String Value := ⟨Value.text⟩

instance : Coe Bool Value := ⟨Value.bool⟩

abbrev Fields := List (String × Value)

namespace Fields

def get? (key : String) : Fields → Option Value
  | [] => none
  | (k, v) :: rest => if k = key then some v else get? key rest

/-- Sets a field where it stands, or at the end if it is new. -/
def set (key : String) (value : Value) : Fields → Fields
  | [] => [(key, value)]
  | (k, v) :: rest => if k = key then (k, value) :: rest else (k, v) :: set key value rest

/-- Sets the fields of a second record one after the other. -/
def update (fields : Fields) (new : Fields) : Fields :=
  new.foldl (fun all entry => set entry.1 entry.2 all) fields

def has (key : String) (fields : Fields) : Bool := (get? key fields).isSome

@[simp]
theorem get?_nil (key : String) : get? key [] = none := rfl

theorem get?_set (fields : Fields) (key other : String) (value : Value) :
    get? other (set key value fields) = if key = other then some value else get? other fields := by
  induction fields with
  | nil => simp [set, get?]
  | cons entry rest ih =>
      obtain ⟨k, v⟩ := entry
      by_cases hk : k = key
      · subst hk
        by_cases ho : k = other <;> simp [set, get?, ho]
      · by_cases ho : k = other
        · subst ho
          simp [set, get?, hk, Ne.symm hk]
        · simp [set, get?, hk, ho, ih]

@[simp]
theorem get?_set_self (fields : Fields) (key : String) (value : Value) :
    get? key (set key value fields) = some value := by
  simp [get?_set]

theorem get?_set_of_ne (fields : Fields) {key other : String} (h : key ≠ other) (value : Value) :
    get? other (set key value fields) = get? other fields := by
  simp [get?_set, h]

end Fields

namespace Value

/-- The number that a value is; a truth value counts as one or zero. -/
def number? : Value → Option Number
  | .bool b => some (.int b.toInt)
  | .int n => some (.int n)
  | .float x => some (.float x)
  | _ => none

def ofNumber : Number → Value
  | .int n => .int n
  | .float x => .float x

def ofNat (n : Nat) : Value := .int n

/-- Whether a condition takes the value as true: it is not null, zero, false or empty. -/
def truthy : Value → Bool
  | .null => false
  | .bool b => b
  | .int n => n != 0
  | .float x => x != 0
  | .text s => !s.isEmpty
  | .list items => !items.isEmpty
  | .record fields => !fields.isEmpty

/-- The number of characters, items or fields. -/
def size : Value → Except Fault Nat
  | .text s => .ok s.length
  | .list items => .ok items.length
  | .record fields => .ok fields.length
  | _ => .error .wrongKind

/-- The values that a loop over the value visits: the items of a list, the field names of a record, or
the characters of a text. -/
def members : Value → Except Fault (List Value)
  | .list items => .ok items
  | .record fields => .ok (fields.map fun entry => .text entry.1)
  | .text s => .ok (s.toList.map fun c => .text c.toString)
  | _ => .error .wrongKind

def field (v : Value) (key : String) : Except Fault Value :=
  match v with
  | .record fields =>
    match Fields.get? key fields with
    | some x => .ok x
    | none => .error (.missingKey key)
  | _ => .error .wrongKind

def setField (v : Value) (key : String) (x : Value) : Except Fault Value :=
  match v with
  | .record fields => .ok (.record (Fields.set key x fields))
  | _ => .error .wrongKind

def fieldOr (v : Value) (key : String) (default : Value) : Except Fault Value :=
  match v with
  | .record fields => .ok ((Fields.get? key fields).getD default)
  | _ => .error .noOperation

def chars : Value → Except Fault (List Char)
  | .text s => .ok s.toList
  | _ => .error .noOperation

def ofChars (s : List Char) : Value := .text (String.ofList s)

def items : Value → Except Fault (List Value)
  | .list items => .ok items
  | _ => .error .noOperation

def fields : Value → Except Fault Fields
  | .record fields => .ok fields
  | _ => .error .noOperation

/-- Whether a value can be a field name or a member of a set. -/
def isAtom : Value → Bool
  | .list _ | .record _ => false
  | _ => true

/-- The value itself if it can be copied: it is a list or a record. -/
def copy : Value → Except Fault Value
  | .list items => .ok (.list items)
  | .record fields => .ok (.record fields)
  | _ => .error .noOperation

/-- The first characters of a text or the first items of a list. -/
def takeFirst (n : Nat) : Value → Except Fault Value
  | .text s => .ok (ofChars (s.toList.take n))
  | .list items => .ok (.list (items.take n))
  | _ => .error .wrongKind

end Value

end Workgraph
