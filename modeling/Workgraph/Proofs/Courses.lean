import Workgraph.Proofs.Walks

/-!
# Courses of walks

Where it is known which nodes a walk runs through, it is known for all limits at once: a limit that is
too small cuts the walk off on its way, and every other one lets it finish.
-/

namespace Workgraph.Workflow

variable {w : Workflow} {name target : String} {node : Node} {session done decided last : Session}
  {course : List String}

/-- From a name on, the walks run through the nodes of a course and finish in the last session. A limit
below the length of the course cuts a walk off after so many nodes. -/
def RunsThrough (w : Workflow) (name : String) (session : Session) (course : List String)
    (last : Session) : Prop :=
  ∀ limit, (w.walkFrom limit name session).visited = course.take limit ∧
    (limit < course.length → (w.walkFrom limit name session).ending = .limitReached) ∧
    (course.length ≤ limit → (w.walkFrom limit name session).FinishesIn last)

namespace RunsThrough

theorem terminal (w : Workflow) (session : Session) :
    w.RunsThrough terminal session [] session := by
  intro limit
  rw [walkFrom_terminal]
  exact ⟨List.take_nil.symm, fun hlimit => absurd hlimit (Nat.not_lt_zero limit), fun _ => ⟨rfl, rfl⟩⟩

theorem turn (h : w.RunsThrough target (w.turn node session).session course last)
    (hname : name ≠ Workgraph.terminal) (hnode : w.node? name = some node)
    (honward : (w.turn node session).onward = .ok target) :
    w.RunsThrough name session (name :: course) last := by
  intro limit
  cases limit with
  | zero =>
      rw [walkFrom_zero hname hnode]
      exact ⟨rfl, fun _ => rfl, fun hlimit => absurd hlimit (Nat.not_succ_le_zero _)⟩
  | succ limit =>
      obtain ⟨hvisited, hcut, hfinishes⟩ := h limit
      have hwalk := walkFrom_succ hname hnode limit session
      simp only [honward] at hwalk
      rw [hwalk, Walk.visited_behind, visited_turn, name_of_node? hnode, hvisited, List.length_cons]
      exact ⟨rfl, fun hlimit => hcut (Nat.lt_of_succ_lt_succ hlimit),
        fun hlimit => hfinishes (Nat.le_of_succ_le_succ hlimit)⟩

theorem edge (h : w.RunsThrough target done course last) (hname : name ≠ Workgraph.terminal)
    (hnode : w.node? name = some node) (hrun : node.run session = .ok () done)
    (hbranching : w.branching? name = none) (hnext : w.next? name = some target) :
    w.RunsThrough name session (name :: course) last := by
  obtain rfl := name_of_node? hnode
  have hturn : w.turn node session = ⟨[⟨.node node.name, none, none, done.state⟩], done, .ok target⟩ := by
    simp only [Workflow.turn, hrun, hbranching, hnext]
  exact turn (by rwa [hturn]) hname hnode (by rw [hturn])

theorem branching {branching : Branching} {answer : Value}
    (h : w.RunsThrough target decided course last) (hname : name ≠ Workgraph.terminal)
    (hnode : w.node? name = some node) (hrun : node.run session = .ok () done)
    (hbranching : w.branching? name = some branching)
    (hanswer : branching.router.decide done = .ok answer decided)
    (htarget : branching.target? answer = some target) :
    w.RunsThrough name session (name :: course) last := by
  obtain rfl := name_of_node? hnode
  have hturn : w.turn node session = ⟨[⟨.node node.name, none, none, done.state⟩,
      ⟨.router branching.router.name, some answer, none, decided.state⟩], decided, .ok target⟩ := by
    simp only [Workflow.turn, hrun, hbranching, hanswer, htarget]
  exact turn (by rwa [hturn]) hname hnode (by rw [hturn])

theorem finishes (h : w.RunsThrough name session course last) (limit : Nat)
    (hlimit : course.length ≤ limit) :
    (w.walkFrom limit name session).ending = .finished ∧
      (w.walkFrom limit name session).visited = course ∧
      (w.walkFrom limit name session).session = last := by
  obtain ⟨hvisited, -, hfinishes⟩ := h limit
  rw [List.take_of_length_le hlimit] at hvisited
  exact ⟨(hfinishes hlimit).1, hvisited, (hfinishes hlimit).2⟩

end RunsThrough

end Workgraph.Workflow
