import Workgraph.Calendar
import Workgraph.Value.Arithmetic
import Workgraph.Value.Equality
import Workgraph.Value.Render

/-!
# Steps

A step works on the state of a session, draws hashes, random numbers, identifiers and the time from a
supply, and may fail. A step that fails leaves the changes it has made so far.
-/

namespace Workgraph

/-- What steps draw from outside. A supply that is used up gives zeros. -/
structure Supply where
  hashes : List Int := []
  randoms : List Float := []
  uuids : List Nat := []
  now : DateTime := DateTime.standard

/-- A score under a name that is not a text: the name, the position of the user who has it, and the
position of the score in the record of scores. -/
structure ScoreName where
  name : Value
  user : Nat
  position : Nat

structure Session where
  state : Value
  supply : Supply := {}
  /-- Whether the feature flags in the state and those in its experiment configuration are one
  record, so that what changes the ones changes the others. -/
  flagsLinked : Bool := false
  /-- The names of scores that are not texts. Equal numbers are one name, whichever way they are written. -/
  scoreNames : List ScoreName := []

/-- A computation on a session that may fail. -/
abbrev Step := EStateM Fault Session

namespace Step

/-- A computation that needs no session. -/
def ofExcept : Except Fault α → Step α
  | .ok a => pure a
  | .error fault => throw fault

instance : MonadLift (Except Fault) Step := ⟨ofExcept⟩

/-- Whether both conditions hold; the second is looked at only if the first one does. -/
def both (first second : Step Bool) : Step Bool := do
  if ← first then second else return false

/-- Whether one of the conditions holds; the second is looked at only if the first one does not. -/
def either (first second : Step Bool) : Step Bool := do
  if ← first then return true else second

def read (key : String) : Step Value := fun session =>
  match session.state.field key with
  | .ok v => .ok v session
  | .error fault => .error fault session

def readOr (key : String) (default : Value) : Step Value := fun session =>
  match session.state.fieldOr key default with
  | .ok v => .ok v session
  | .error fault => .error fault session

def write (key : String) (v : Value) : Step Unit := fun session =>
  match session.state.setField key v with
  | .ok state => .ok () { session with state }
  | .error fault => .error fault session

/-- Sets a field of a record that is a field of the state. -/
def writeIn (key inner : String) (v : Value) : Step Unit := do
  write key (← (← read key).setField inner v)

/-- Adds to a field of the state. -/
def addTo (key : String) (amount : Step Value) : Step Unit := do
  let old ← read key
  write key (← old.add (← amount))

def increment (key : String) : Step Unit := addTo key (pure (.int 1))

/-- Adds entries to the end of a list that is a field of the state. -/
def extend (key : String) (entries : List Value) : Step Unit := do
  write key (.list ((← (← read key).items) ++ entries))

/-- Adds an entry to the end of a list that is a field of the state. -/
def append (key : String) (entry : Step Value) : Step Unit := do
  let items ← (← read key).items
  write key (.list (items ++ [← entry]))

def holds (key : String) (text : String) : Step Bool := do
  return (← read key).same text

def holdsOneOf (key : String) (texts : List String) : Step Bool := do
  return (← read key).isAmong (texts.map .text)

/-- Whether a condition takes a field of the state as true. -/
def isSet (key : String) : Step Bool := do
  return (← read key).truthy

def drawHash : Step Int := fun session =>
  .ok (session.supply.hashes.headD 0)
    { session with supply := { session.supply with hashes := session.supply.hashes.tail } }

def drawRandom : Step Float := fun session =>
  .ok (session.supply.randoms.headD 0)
    { session with supply := { session.supply with randoms := session.supply.randoms.tail } }

/-- Draws an identifier of 128 bits. -/
def drawUuid : Step Nat := fun session =>
  .ok (session.supply.uuids.headD 0)
    { session with supply := { session.supply with uuids := session.supply.uuids.tail } }

def now : Step DateTime := fun session => .ok session.supply.now session

end Step

end Workgraph
