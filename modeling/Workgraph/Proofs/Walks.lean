import Mathlib.Data.List.Basic
import Workgraph.Proofs.Contracts

/-!
# Invariants of walks

A walk is taken apart into turns, one for each node. From what holds of every turn follows what holds of
a walk: a larger limit only lets it go further, what all nodes and routers keep is kept wherever it
comes, and what is asserted at each node, if every turn leads to the next assertion, is true at the end.
-/

namespace Workgraph

theorem Session.eq_holding {session : Session} {fields : Fields} (h : session.state = .record fields) :
    session = session.holding fields := by
  cases session
  cases h
  rfl

namespace Step

/-- The session after a step, whether the step has succeeded or failed. -/
def leaves (step : Step α) (session : Session) : Session :=
  match step session with
  | .ok _ done => done
  | .error _ done => done

/-- The step keeps a property of the state, also when it fails. -/
def Keeps (keep : Value → Prop) (step : Step α) : Prop :=
  ∀ session, keep session.state → keep (step.leaves session).state

/-- The step does not change the state. -/
def IsQuiet (step : Step α) : Prop := ∀ session, (step.leaves session).state = session.state

theorem leaves_of_ok {step : Step α} {session done : Session} {a : α}
    (h : step session = .ok a done) : step.leaves session = done := by
  simp only [leaves, h]

theorem leaves_of_error {step : Step α} {session done : Session} {fault : Fault}
    (h : step session = .error fault done) : step.leaves session = done := by
  simp only [leaves, h]

theorem leaves_bind_of_ok {first : Step β} {next : β → Step α} {session done : Session} {b : β}
    (h : first session = .ok b done) : (first >>= next).leaves session = (next b).leaves done := by
  simp only [leaves, bind_apply, h]

theorem leaves_bind_of_error {first : Step β} {next : β → Step α} {session done : Session}
    {fault : Fault} (h : first session = .error fault done) :
    (first >>= next).leaves session = done := by
  simp only [leaves, bind_apply, h]

theorem ensures_of_leaves {pre post : Value → Prop} {step : Step α}
    (h : ∀ session, pre session.state → post (step.leaves session).state) :
    Ensures (pre ·.state) step (fun _ session => post session.state) := by
  intro session hpre a done hrun
  have hpost := h session hpre
  rwa [leaves_of_ok hrun] at hpost

namespace Keeps

variable {keep : Value → Prop}

theorem bind {first : Step β} {next : β → Step α} (hfirst : first.Keeps keep)
    (hnext : ∀ b, (next b).Keeps keep) : (first >>= next).Keeps keep := by
  intro session hkeep
  have hbetween := hfirst session hkeep
  cases hrun : first session with
  | ok b done =>
      rw [leaves_bind_of_ok hrun]
      rw [leaves_of_ok hrun] at hbetween
      exact hnext b done hbetween
  | error fault done =>
      rw [leaves_bind_of_error hrun]
      rwa [leaves_of_error hrun] at hbetween

theorem ite {c : Prop} [Decidable c] {yes no : Step α} (hyes : yes.Keeps keep)
    (hno : no.Keeps keep) : (if c then yes else no).Keeps keep := by
  split
  · exact hyes
  · exact hno

theorem ensures {step : Step α} (h : step.Keeps keep) :
    Ensures (keep ·.state) step (fun _ session => keep session.state) :=
  ensures_of_leaves h

theorem write_other {key other : String} (hne : key ≠ other) (v w : Value) :
    (write key v).Keeps (·.field other = .ok w) := by
  intro session hfield
  unfold leaves write
  cases hset : session.state.setField key v with
  | error fault => exact hfield
  | ok state =>
      cases hstate : session.state with
      | record fields =>
          rw [hstate] at hset hfield
          cases hset
          simpa only [Value.field, Fields.get?_set_of_ne fields hne] using hfield
      | _ =>
          rw [hstate] at hset
          cases hset

end Keeps

namespace IsQuiet

theorem keeps {step : Step α} (h : step.IsQuiet) (keep : Value → Prop) : step.Keeps keep := by
  intro session hkeep
  rwa [h session]

theorem before {first : Step β} {next : β → Step α} {keep : Value → Prop} (h : first.IsQuiet)
    (hnext : ∀ b, (next b).Keeps keep) : (first >>= next).Keeps keep :=
  (h.keeps keep).bind hnext

theorem pure (a : α) : (pure a : Step α).IsQuiet := fun _ => rfl

theorem bind {first : Step β} {next : β → Step α} (hfirst : first.IsQuiet)
    (hnext : ∀ b, (next b).IsQuiet) : (first >>= next).IsQuiet := by
  intro session
  have hkeeps := hfirst.before fun b => (hnext b).keeps (· = session.state)
  exact hkeeps session rfl

theorem ite {c : Prop} [Decidable c] {yes no : Step α} (hyes : yes.IsQuiet) (hno : no.IsQuiet) :
    (if c then yes else no).IsQuiet := by
  split
  · exact hyes
  · exact hno

theorem lift (x : Except Fault α) : (liftM x : Step α).IsQuiet := by
  intro session
  cases x <;> rfl

theorem read (key : String) : (read key).IsQuiet := by
  intro session
  unfold leaves Step.read
  cases session.state.field key <;> rfl

theorem isSet (key : String) : (isSet key).IsQuiet := (read key).bind fun _ => pure _

theorem holds (key text : String) : (holds key text).IsQuiet := (read key).bind fun _ => pure _

theorem both {first second : Step Bool} (hfirst : first.IsQuiet) (hsecond : second.IsQuiet) :
    (both first second).IsQuiet :=
  hfirst.bind fun _ => hsecond.ite (pure false)

theorem either {first second : Step Bool} (hfirst : first.IsQuiet) (hsecond : second.IsQuiet) :
    (either first second).IsQuiet :=
  hfirst.bind fun _ => (pure true).ite hsecond

theorem drawUuid : drawUuid.IsQuiet := fun _ => rfl

theorem append_other {entry : Step Value} (h : entry.IsQuiet) {key other : String}
    (hne : key ≠ other) (w : Value) : (append key entry).Keeps (·.field other = .ok w) := by
  refine (read key).before fun _ => (lift _).before fun _ => h.before fun _ => ?_
  exact Keeps.write_other hne _ w

theorem mapM {f : α → Step β} (h : ∀ x, (f x).IsQuiet) (xs : List α) : (xs.mapM f).IsQuiet := by
  induction xs with
  | nil => exact pure []
  | cons x rest ih =>
      rw [List.mapM_cons]
      exact (h x).bind fun _ => ih.bind fun _ => pure _

end IsQuiet

end Step

/-- What comes of one node: the events there, the session after them, and where the walk goes on or how
it ends. -/
structure Turn where
  events : List Event
  session : Session
  onward : Except Ending String

namespace Walk

def behind (events : List Event) (walk : Walk) : Walk := { walk with events := events ++ walk.events }

theorem mem_visited_iff {walk : Walk} {name : String} : name ∈ walk.visited ↔
    ∃ before event later, walk.events = before ++ event :: later ∧ event.place = .node name := by
  constructor
  · intro h
    obtain ⟨event, hevent, hname⟩ := List.mem_filterMap.1 h
    obtain ⟨before, later, hsplit⟩ := List.append_of_mem hevent
    refine ⟨before, event, later, hsplit, ?_⟩
    split at hname <;> simp_all
  · rintro ⟨before, event, later, hsplit, hplace⟩
    refine List.mem_filterMap.2 ⟨event, ?_, ?_⟩
    · simp [hsplit]
    · simp [hplace]

theorem visited_behind (events : List Event) (walk : Walk) : (walk.behind events).visited =
    (Walk.mk events walk.ending walk.session).visited ++ walk.visited :=
  List.filterMap_append

end Walk

namespace Workflow

open Step

variable {w : Workflow} {name : String} {node : Node}

def turn (w : Workflow) (node : Node) (session : Session) : Turn :=
  match node.run session with
  | .error fault done =>
    ⟨[⟨.node node.name, none, some fault, done.state⟩], done, .error (.failed fault)⟩
  | .ok () done =>
    match w.branching? node.name with
    | none =>
      ⟨[⟨.node node.name, none, none, done.state⟩], done,
        match w.next? node.name with
        | some target => .ok target
        | none => .error (.noNode node.name)⟩
    | some branching =>
      match branching.router.decide done with
      | .error fault decided =>
        ⟨[⟨.node node.name, none, none, done.state⟩,
            ⟨.router branching.router.name, none, some fault, decided.state⟩], decided,
          .error (.failed fault)⟩
      | .ok answer decided =>
        ⟨[⟨.node node.name, none, none, done.state⟩,
            ⟨.router branching.router.name, some answer, none, decided.state⟩], decided,
          match branching.target? answer with
          | some target => .ok target
          | none => .error (.noTarget answer)⟩

theorem name_of_node? (h : w.node? name = some node) : node.name = name := by
  simpa using List.find?_some h

theorem walkFrom_noNode (hname : name ≠ terminal) (hnode : w.node? name = none) (limit : Nat)
    (session : Session) : w.walkFrom limit name session = ⟨[], .noNode name, session⟩ := by
  rw [walkFrom, if_neg hname]
  simp only [hnode]

theorem walkFrom_succ (hname : name ≠ terminal) (hnode : w.node? name = some node) (limit : Nat)
    (session : Session) : w.walkFrom (limit + 1) name session =
      match (w.turn node session).onward with
      | .ok target =>
        (w.walkFrom limit target (w.turn node session).session).behind (w.turn node session).events
      | .error ending => ⟨(w.turn node session).events, ending, (w.turn node session).session⟩ := by
  obtain rfl := name_of_node? hnode
  cases hrun : node.run session with
  | error fault done =>
      rw [walkFrom_node_fault hname hnode hrun]
      simp only [turn, hrun]
  | ok _ done =>
      rw [walkFrom, if_neg hname]
      simp only [hnode, hrun, turn]
      cases w.branching? node.name with
      | none => cases w.next? node.name <;> rfl
      | some branching =>
          simp only
          cases branching.router.decide done with
          | error fault decided => rfl
          | ok answer decided =>
              simp only
              cases branching.target? answer <;> rfl

theorem visited_turn (w : Workflow) (node : Node) (session last : Session) (ending : Ending) :
    (Walk.mk (w.turn node session).events ending last).visited = [node.name] := by
  unfold turn
  cases node.run session with
  | error fault done => rfl
  | ok _ done =>
      cases w.branching? node.name with
      | none => rfl
      | some branching =>
          simp only
          cases branching.router.decide done <;> rfl

private theorem events_turn (w : Workflow) (node : Node) (session : Session) : ∃ first others,
    (w.turn node session).events = first :: others ∧ first.place = .node node.name ∧
      ∀ event ∈ others, ∃ router, event.place = .router router := by
  unfold turn
  cases node.run session with
  | error fault done => exact ⟨_, [], rfl, rfl, by simp⟩
  | ok _ done =>
      cases w.branching? node.name with
      | none => exact ⟨_, [], rfl, rfl, by simp⟩
      | some branching =>
          simp only
          cases branching.router.decide done <;> exact ⟨_, [_], rfl, rfl, by simp⟩

private theorem onward_turn_ne (w : Workflow) (node : Node) (session : Session) :
    (w.turn node session).onward ≠ .error .finished := by
  unfold turn
  cases node.run session with
  | error fault done => simp
  | ok _ done =>
      cases w.branching? node.name with
      | none => cases w.next? node.name <;> simp
      | some branching =>
          simp only
          cases branching.router.decide done with
          | error fault decided => simp
          | ok answer decided =>
              simp only
              cases branching.target? answer <;> simp

/-- Induction along a walk: it is at its end or at no node, whatever the limit; or the limit cuts it
off; or the turn of its first node ends it; or the turn leads on. -/
theorem walk_induction {motive : Nat → String → Session → Prop}
    (halt : ∀ limit name session ending, ending = .finished ∧ name = terminal ∨ ending = .noNode name →
      (∀ n, w.walkFrom n name session = ⟨[], ending, session⟩) → motive limit name session)
    (cut : ∀ name session, w.walkFrom 0 name session = ⟨[], .limitReached, session⟩ →
      motive 0 name session)
    (stop : ∀ limit name session node ending, w.node? name = some node →
      (w.turn node session).onward = .error ending →
      (∀ n, w.walkFrom (n + 1) name session =
        ⟨(w.turn node session).events, ending, (w.turn node session).session⟩) →
      motive (limit + 1) name session)
    (goOn : ∀ limit name session node target, w.node? name = some node →
      (w.turn node session).onward = .ok target →
      (∀ n, w.walkFrom (n + 1) name session =
        (w.walkFrom n target (w.turn node session).session).behind (w.turn node session).events) →
      motive limit target (w.turn node session).session → motive (limit + 1) name session)
    (limit : Nat) (name : String) (session : Session) : motive limit name session := by
  induction limit generalizing name session with
  | zero =>
      by_cases hname : name = terminal
      · subst hname
        exact halt _ _ _ _ (.inl ⟨rfl, rfl⟩) fun n => walkFrom_terminal w n session
      cases hnode : w.node? name with
      | none => exact halt _ _ _ _ (.inr rfl) fun n => walkFrom_noNode hname hnode n session
      | some node => exact cut _ _ (walkFrom_zero hname hnode session)
  | succ limit ih =>
      by_cases hname : name = terminal
      · subst hname
        exact halt _ _ _ _ (.inl ⟨rfl, rfl⟩) fun n => walkFrom_terminal w n session
      cases hnode : w.node? name with
      | none => exact halt _ _ _ _ (.inr rfl) fun n => walkFrom_noNode hname hnode n session
      | some node =>
          have hwalk (n : Nat) := walkFrom_succ hname hnode n session
          cases honward : (w.turn node session).onward with
          | error ending =>
              simp only [honward] at hwalk
              exact stop _ _ _ node ending hnode honward hwalk
          | ok target =>
              simp only [honward] at hwalk
              exact goOn _ _ _ node target hnode honward hwalk (ih target _)

/-- A turn has one event at a node, its first. So a visit is this one or comes after the turn. -/
theorem split_turn {session : Session} {before later rest : List Event} {event : Event} {place : String}
    (h : (w.turn node session).events ++ rest = before ++ event :: later)
    (hplace : event.place = .node place) :
    place = node.name ∧ (w.turn node session).events ++ rest = event :: later ∨
      ∃ between, rest = between ++ event :: later := by
  obtain ⟨first, others, hevents, hfirst, hothers⟩ := events_turn w node session
  rw [hevents] at h ⊢
  cases before with
  | nil =>
      left
      refine ⟨?_, h⟩
      obtain ⟨rfl, -⟩ := List.cons.inj h
      exact Place.node.inj (hplace.symm.trans hfirst)
  | cons head before =>
      right
      obtain ⟨-, hrest⟩ := List.cons.inj h
      rcases List.append_eq_append_iff.1 hrest with ⟨between, -, hbetween⟩ | ⟨passed, rfl, hpassed⟩
      · exact ⟨between, hbetween⟩
      · cases passed with
        | nil => exact ⟨[], hpassed.symm⟩
        | cons router passed =>
            obtain ⟨rfl, -⟩ := List.cons.inj hpassed
            obtain ⟨name, hname⟩ := hothers event (by simp)
            cases hplace.symm.trans hname

/-- From each node that it visits a walk goes on like a walk that starts there. -/
theorem exists_walkFrom_of_visit (limit : Nat) (name : String) (session : Session)
    {before later : List Event} {event : Event} {place : String}
    (h : (w.walkFrom limit name session).events = before ++ event :: later)
    (hplace : event.place = .node place) :
    ∃ rest start, w.walkFrom rest place start = ⟨event :: later,
      (w.walkFrom limit name session).ending, (w.walkFrom limit name session).session⟩ := by
  induction limit, name, session using walk_induction (w := w) generalizing before with
  | halt limit name session ending _ hwalk => simp [hwalk] at h
  | cut name session hwalk => simp [hwalk] at h
  | stop limit name session node ending hnode _ hwalk =>
      obtain rfl := name_of_node? hnode
      rw [hwalk] at h ⊢
      rw [← List.append_nil (w.turn node session).events] at h
      rcases split_turn h hplace with ⟨rfl, hevents⟩ | ⟨between, hbetween⟩
      · refine ⟨limit + 1, session, ?_⟩
        rw [hwalk, ← hevents, List.append_nil]
      · simp at hbetween
  | goOn limit name session node target hnode _ hwalk ih =>
      obtain rfl := name_of_node? hnode
      rw [hwalk] at h ⊢
      rcases split_turn h hplace with ⟨rfl, hevents⟩ | ⟨between, hbetween⟩
      · refine ⟨limit + 1, session, ?_⟩
        rw [hwalk, ← hevents]
        rfl
      · exact ih hbetween

/-- Under a larger limit a walk is the same, unless its limit has cut it off; then it is a beginning of
the longer walk. -/
theorem walkFrom_add (w : Workflow) (limit more : Nat) (name : String) (session : Session) :
    w.walkFrom (limit + more) name session = w.walkFrom limit name session ∨
      (w.walkFrom limit name session).ending = .limitReached ∧
        (w.walkFrom limit name session).events <+:
          (w.walkFrom (limit + more) name session).events := by
  induction limit, name, session using walk_induction (w := w) with
  | halt limit name session ending _ hwalk => exact .inl ((hwalk _).trans (hwalk _).symm)
  | cut name session hwalk =>
      right
      rw [hwalk]
      exact ⟨rfl, List.nil_prefix⟩
  | stop limit name session node ending _ _ hwalk =>
      left
      rw [Nat.add_right_comm, hwalk, hwalk]
  | goOn limit name session node target _ _ hwalk ih =>
      rw [Nat.add_right_comm, hwalk, hwalk]
      rcases ih with hsame | ⟨hcut, hbegins⟩
      · left
        rw [hsame]
      · right
        exact ⟨hcut, (List.prefix_append_right_inj _).2 hbegins⟩

theorem same_or_cut {session : Session} {enough : Nat}
    (h : ∀ limit, enough ≤ limit → (w.walk limit session).ending ≠ .limitReached) (limit : Nat) :
    w.walk (limit + enough) session = w.walk limit session ∨
      limit < enough ∧ (w.walk limit session).ending = .limitReached ∧
        (w.walk limit session).events <+: (w.walk (limit + enough) session).events := by
  rcases w.walkFrom_add limit enough w.entry session with hsame | ⟨hcut, hbegins⟩
  · exact .inl hsame
  · refine .inr ⟨?_, hcut, hbegins⟩
    by_contra hlarge
    exact h limit (Nat.not_lt.1 hlarge) hcut

/-- What is true of every walk with so many nodes or more, once it has come to an end, is true of a
walk that no smaller limit cuts off. -/
theorem cut_or_of_enough {p : Walk → Prop} {session : Session} {enough : Nat}
    (hends : ∀ walk, p walk → walk.ending ≠ .limitReached)
    (h : ∀ limit, enough ≤ limit → p (w.walk limit session)) (limit : Nat) :
    limit < enough ∧ (w.walk limit session).ending = .limitReached ∨ p (w.walk limit session) := by
  have henough (n : Nat) (hn : enough ≤ n) : (w.walk n session).ending ≠ .limitReached :=
    hends _ (h n hn)
  rcases same_or_cut henough limit with hsame | ⟨hlimit, hcut, -⟩
  · right
    rw [← hsame]
    exact h _ (Nat.le_add_left _ _)
  · left
    exact ⟨hlimit, hcut⟩

/-- Every node and every router keeps a property of the state. -/
def Keeps (w : Workflow) (keep : Value → Prop) : Prop :=
  (w.nodes.Forall fun node => node.run.Keeps keep) ∧
    w.branchings.Forall fun branching => branching.router.decide.Keeps keep

variable {keep : Value → Prop}

theorem Keeps.turn (h : w.Keeps keep) (hnode : w.node? name = some node) {session : Session}
    (hkeep : keep session.state) :
    (∀ event ∈ (w.turn node session).events, keep event.state) ∧
      keep (w.turn node session).session.state := by
  have hrun := List.forall_iff_forall_mem.1 h.1 node (List.mem_of_find?_eq_some hnode) session hkeep
  unfold Workflow.turn
  cases hresult : node.run session with
  | error fault done =>
      rw [leaves_of_error hresult] at hrun
      simpa using hrun
  | ok _ done =>
      rw [leaves_of_ok hresult] at hrun
      cases hbranching : w.branching? node.name with
      | none => simpa using hrun
      | some branching =>
          have hdecide := List.forall_iff_forall_mem.1 h.2 branching
            (List.mem_of_find?_eq_some hbranching) done hrun
          cases hanswer : branching.router.decide done with
          | error fault decided =>
              rw [leaves_of_error hanswer] at hdecide
              simpa [hanswer] using ⟨hrun, hdecide⟩
          | ok answer decided =>
              rw [leaves_of_ok hanswer] at hdecide
              simpa [hanswer] using ⟨hrun, hdecide⟩

/-- What every node and router keeps holds after each event of a walk and where the walk ends. -/
theorem Keeps.walkFrom (h : w.Keeps keep) (limit : Nat) (name : String) (session : Session)
    (hkeep : keep session.state) :
    (∀ event ∈ (w.walkFrom limit name session).events, keep event.state) ∧
      keep (w.walkFrom limit name session).session.state := by
  induction limit, name, session using walk_induction (w := w) with
  | halt limit name session ending _ hwalk =>
      rw [hwalk]
      exact ⟨fun _ hevent => absurd hevent List.not_mem_nil, hkeep⟩
  | cut name session hwalk =>
      rw [hwalk]
      exact ⟨fun _ hevent => absurd hevent List.not_mem_nil, hkeep⟩
  | stop limit name session node ending hnode _ hwalk =>
      rw [hwalk]
      exact h.turn hnode hkeep
  | goOn limit name session node target hnode _ hwalk ih =>
      obtain ⟨hevents, hsession⟩ := h.turn hnode hkeep
      obtain ⟨hlater, hlast⟩ := ih hsession
      rw [hwalk]
      refine ⟨?_, hlast⟩
      intro event hevent
      rcases List.mem_append.1 hevent with hfirst | hrest
      · exact hevents event hfirst
      · exact hlater event hrest

theorem keeps_of_edge {target : String} (hname : name ≠ terminal) (hnode : w.node? name = some node)
    (hbranching : w.branching? name = none) (hnext : w.next? name = some target)
    (hrun : node.run.Keeps keep) (htarget : ∀ (limit : Nat) (session : Session), keep session.state →
      keep (w.walkFrom limit target session).session.state) (limit : Nat) (session : Session)
    (hkeep : keep session.state) : keep (w.walkFrom limit name session).session.state := by
  cases limit with
  | zero =>
      rw [walkFrom_zero hname hnode]
      exact hkeep
  | succ limit =>
      have hleaves := hrun session hkeep
      cases hresult : node.run session with
      | error fault done =>
          rw [leaves_of_error hresult] at hleaves
          rw [walkFrom_node_fault hname hnode hresult]
          exact hleaves
      | ok _ done =>
          rw [leaves_of_ok hresult] at hleaves
          rw [walkFrom_edge hname hnode hresult hbranching hnext]
          exact htarget limit done hleaves

section Assertions

variable {asserted : List String → String → Session → Prop}

/-- The turn of a node leads from what is asserted there to what is asserted at its target. An assertion
is about the nodes visited before and the session. -/
def LeadsOn (w : Workflow) (asserted : List String → String → Session → Prop) (node : Node) : Prop :=
  ∀ trail session, asserted trail node.name session → ∀ target,
    (w.turn node session).onward = .ok target →
      asserted (trail ++ [node.name]) target (w.turn node session).session

theorem leadsOn_of_edge {target : String} (hbranching : w.branching? node.name = none)
    (hnext : w.next? node.name = some target)
    (h : ∀ trail, Ensures (asserted trail node.name) node.run
      fun _ => asserted (trail ++ [node.name]) target) : w.LeadsOn asserted node := by
  intro trail session hasserted onward honward
  cases hrun : node.run session with
  | error fault done => simp [turn, hrun] at honward
  | ok _ done =>
      simp only [turn, hrun, hbranching, hnext, Except.ok.injEq] at honward ⊢
      subst honward
      exact h trail session hasserted () done hrun

theorem leadsOn_of_branching {branching : Branching} (between : List String → Session → Prop)
    (hbranching : w.branching? node.name = some branching)
    (hrun : ∀ trail, Ensures (asserted trail node.name) node.run fun _ => between trail)
    (hdecide : ∀ trail, Ensures (between trail) branching.router.decide fun answer session =>
      ∀ target, branching.target? answer = some target →
        asserted (trail ++ [node.name]) target session) : w.LeadsOn asserted node := by
  intro trail session hasserted onward honward
  cases hresult : node.run session with
  | error fault done => simp [turn, hresult] at honward
  | ok _ done =>
      have hbetween := hrun trail session hasserted () done hresult
      cases hanswer : branching.router.decide done with
      | error fault decided => simp [turn, hresult, hbranching, hanswer] at honward
      | ok answer decided =>
          simp only [turn, hresult, hbranching, hanswer] at honward ⊢
          cases htarget : branching.target? answer with
          | none => simp [htarget] at honward
          | some target =>
              simp only [htarget, Except.ok.injEq] at honward
              subst honward
              exact hdecide trail done hbetween answer decided hanswer target htarget

/-- If every turn leads from assertion to assertion, a walk that finishes satisfies what is asserted at
the end. -/
theorem asserted_of_finished (h : w.nodes.Forall (w.LeadsOn asserted)) (limit : Nat) (name : String)
    (session : Session) {trail : List String} (hstart : asserted trail name session)
    (hend : (w.walkFrom limit name session).ending = .finished) :
    asserted (trail ++ (w.walkFrom limit name session).visited) terminal
      (w.walkFrom limit name session).session := by
  induction limit, name, session using walk_induction (w := w) generalizing trail with
  | halt limit name session ending hending hwalk =>
      rw [hwalk] at hend ⊢
      rcases hending with ⟨-, rfl⟩ | rfl
      · simpa [Walk.visited] using hstart
      · cases hend
  | cut name session hwalk =>
      rw [hwalk] at hend
      cases hend
  | stop limit name session node ending _ honward hwalk =>
      rw [hwalk] at hend
      cases hend
      exact absurd honward (onward_turn_ne w node session)
  | goOn limit name session node target hnode honward hwalk ih =>
      have hleads := List.forall_iff_forall_mem.1 h node (List.mem_of_find?_eq_some hnode)
      have hname := name_of_node? hnode
      rw [hwalk] at hend ⊢
      rw [Walk.visited_behind, visited_turn, ← List.append_assoc]
      apply ih _ hend
      apply hleads trail session _ target honward
      rwa [hname]

end Assertions

end Workflow

end Workgraph
