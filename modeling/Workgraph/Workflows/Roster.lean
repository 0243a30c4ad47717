import Workgraph.Walk

/-!
# Roster

Users are marked and scored, and the scores are averaged.
-/

namespace Workgraph.Roster

open Step

def floatName (x : Float) : String :=
  if x.isNaN then "NaN"
  else if x.isInf then if x > 0 then "Infinity" else "-Infinity"
  else Decimal.text x

def keyName : Value → Except Fault String
  | .text s => .ok s
  | .null => .ok "null"
  | .bool b => .ok (if b then "true" else "false")
  | .int n => .ok (toString n)
  | .float x => .ok (floatName x)
  | _ => .error .wrongKind

/-- The items with the one at a position set; a negative position counts from the end. -/
def setAt (items : List Value) (position : Int) (v : Value) : Except Fault Value :=
  let index := if position < 0 then position + items.length else position
  if 0 ≤ index && index < items.length then .ok (.list (items.set index.toNat v))
  else .error .outOfBounds

/-- The scores and the names among them that are not texts, after a user has got a score. A name that is known,
from this user or as an equal one, keeps its place and its text. -/
def assign (scores : Fields) (names : List ScoreName) (user : Nat) (name score : Value) :
    Except Fault (Fields × List ScoreName) :=
  match name with
  | .text s => .ok (Fields.set s score scores, names)
  | _ => do
    let key ← keyName name
    match names.find? fun known => known.user == user || known.name.same name with
    | some known =>
      return (scores.modify known.position fun entry => (entry.1, score), names)
    | none => return (scores ++ [(key, score)], names ++ [⟨name, user, scores.length⟩])

/-- Sets the score of the user at a position. Scores are kept in a record by name or in a list by number. -/
def setScore (user : Nat) (name : Step Value) (score : Value) : Step Unit := do
  let scores ← read "scores"
  let name ← name
  match scores with
  | .record fields =>
    let (fields, scoreNames) ← assign fields (← get).scoreNames user name score
    write "scores" (.record fields)
    modify fun session => { session with scoreNames }
  | .list items =>
    match name.whole? with
    | some position => write "scores" (← setAt items position score)
    | none => throw .wrongKind
  | _ => throw .wrongKind

def begin : Step Unit := do
  writeIn "metadata" "initialized" true
  writeIn "metadata" "version" "1.0"

/-- Marks the users after those that are done and clears their scores. -/
def markFrom (done : List Value) : List Value → Step Unit
  | [] => return
  | user :: rest => do
    let marked ← user.setField "processed" true
    write "users" (.list (done ++ marked :: rest))
    setScore done.length (marked.field "name") (.float 0.0)
    markFrom (done ++ [marked]) rest

def markUsers : Step Unit := do
  markFrom [] (← (← read "users").members)
  match ← read "users" with
  | .list (first :: _) => write "current_user" first
  | _ => return

/-- Scores users by age, the first of them at a position. -/
def scoreFrom (position : Nat) : List Value → Step Unit
  | [] => return
  | user :: rest => do
    let name ← user.field "name"
    let age ← user.fieldOr "age" (.int 0)
    let score ← (← age.mul (.float 1.5)).toFloat
    setScore position (pure name) (.float score)
    scoreFrom (position + 1) rest

def scoreUsers : Step Unit := do
  scoreFrom 0 (← (← read "users").members)
  writeIn "flags" "scores_calculated" true

/-- The average of the scores, zero if there are none. -/
def averageScore : Step Value := do
  let scores ← read "scores"
  if scores.truthy then
    let sum ← Value.total ((← scores.fields).map Prod.snd)
    sum.divide (.ofNat (← scores.size))
  else return .float 0.0

def finish : Step Unit := do
  writeIn "metadata" "total_users" (.ofNat (← (← read "users").size))
  writeIn "metadata" "avg_score" (← averageScore)
  writeIn "flags" "complete" true

def workflow : Workflow where
  schema := "ComplexState"
  fields := ["users", "metadata", "current_user", "scores", "flags"]
  entry := "init"
  nodes := [
    ⟨"init", "init_node", "Initialize with complex data.", begin⟩,
    ⟨"process_users", "process_users", "Process user list.", markUsers⟩,
    ⟨"calculate_scores", "calculate_scores", "Calculate scores for users.", scoreUsers⟩,
    ⟨"finalize", "finalize", "Final processing.", finish⟩]
  edges := [
    ("init", "process_users"),
    ("process_users", "calculate_scores"),
    ("calculate_scores", "finalize"),
    ("finalize", terminal)]
  branchings := []

end Workgraph.Roster
