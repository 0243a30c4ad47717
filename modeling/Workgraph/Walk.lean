import Workgraph.Workflow

/-!
# Walks

A walk starts at the entry of a workflow, runs node after node, and ends when it is sent to the end, when
a node or router fails, or when the limit on the number of nodes is reached. Two more endings
belong to graphs with a gap: a name that is no node, and an answer of a router that has no
target.
-/

namespace Workgraph

/-- What a walk passes. -/
inductive Place where
  | node (name : String)
  | router (name : String)
  deriving DecidableEq

/-- What happened at one place of a walk: an answer of a router or a fault, and the state after it. -/
structure Event where
  place : Place
  answer : Option Value
  fault : Option Fault
  state : Value

inductive Ending where
  | finished
  | failed (fault : Fault)
  | limitReached
  | noNode (name : String)
  | noTarget (answer : Value)

/-- The events of a walk, its ending, and the session after it. -/
structure Walk where
  events : List Event
  ending : Ending
  session : Session

namespace Walk

/-- The walk with an event before its others. -/
def after (event : Event) (walk : Walk) : Walk := { walk with events := event :: walk.events }

/-- The nodes that a walk visits, in order. -/
def visited (walk : Walk) : List String :=
  walk.events.filterMap fun event =>
    match event.place with
    | .node name => some name
    | .router _ => none

end Walk

namespace Workflow

/-- Walks on from a name with a limit on the number of nodes to come. -/
def walkFrom (w : Workflow) : Nat → String → Session → Walk
  | limit, name, session =>
    if name = terminal then ⟨[], .finished, session⟩
    else
      match w.node? name with
      | none => ⟨[], .noNode name, session⟩
      | some node =>
        match limit with
        | 0 => ⟨[], .limitReached, session⟩
        | limit + 1 =>
          match node.run session with
          | .error fault session =>
            ⟨[⟨.node name, none, some fault, session.state⟩], .failed fault, session⟩
          | .ok () session =>
            Walk.after ⟨.node name, none, none, session.state⟩ <|
              match w.branching? name with
              | none =>
                match w.next? name with
                | none => ⟨[], .noNode name, session⟩
                | some target => walkFrom w limit target session
              | some branching =>
                match branching.router.decide session with
                | .error fault session =>
                  ⟨[⟨.router branching.router.name, none, some fault, session.state⟩],
                    .failed fault, session⟩
                | .ok answer session =>
                  Walk.after ⟨.router branching.router.name, some answer, none, session.state⟩ <|
                    match branching.target? answer with
                    | none => ⟨[], .noTarget answer, session⟩
                    | some target => walkFrom w limit target session

def walk (w : Workflow) (limit : Nat) (session : Session) : Walk :=
  w.walkFrom limit w.entry session

end Workflow

end Workgraph
