import Workgraph.Proofs.Orders
import Workgraph.Proofs.Stock

/-!
# The status of an order

The shipment marks an order as shipped, and the node after it marks the same order as being processed. So the
status goes back in every walk that ships an order and comes to its end. Other orders end as
cancelled, and none ends as shipped or delivered.
-/

namespace Workgraph.Orders

open Step

def HasStatus (status : String) (state : Value) : Prop :=
  state.field "order_status" = .ok (.text status)

/-- Once the shipment has marked the order as shipped, it is shipped or delivered in every later state of
the walk. -/
def StaysShipped (walk : Walk) : Prop :=
  ∀ before event later, walk.events = before ++ event :: later → event.place = .node "shipment" →
    HasStatus "shipped" event.state →
      ∀ state, state = walk.session.state ∨ (∃ next ∈ later, state = next.state) →
        HasStatus "shipped" state ∨ HasStatus "delivered" state

theorem HasStatus.inj {first second : String} {state : Value} (h : HasStatus first state)
    (h' : HasStatus second state) : first = second :=
  Value.text.inj (Except.ok.inj (h.symm.trans h'))

section Nodes

theorem write_status (status : String) : Ensures anywhere (write "order_status" status) fun _ session =>
    HasStatus status session.state :=
  Ensures.write.weaken fun _ _ h => h.field

theorem append_note_keeps_status (status note : String) :
    (append "notes" (pure (.text note))).Keeps (HasStatus status) :=
  (IsQuiet.pure _).append_other (by decide) _

theorem createShipment_ensures : Ensures anywhere createShipment fun _ session =>
    HasStatus "shipped" session.state := by
  refine .after fun uuid => .after fun _ => ?_
  exact (write_status "shipped").bind fun _ => (append_note_keeps_status _ _).ensures

private theorem cancel_ensures : Ensures anywhere cancel fun _ session =>
    HasStatus "cancelled" session.state := by
  have hrefund : Ensures anywhere refund fun _ session => HasStatus "cancelled" session.state := by
    refine (write_status "cancelled").bind fun _ => ?_
    refine ((IsQuiet.holds _ _).before fun paid => .ite ?_ ((IsQuiet.pure ()).keeps _)).ensures
    exact (Keeps.write_other (by decide) _ _).bind fun _ => append_note_keeps_status _ _
  have hrelease : release.Keeps (HasStatus "cancelled") :=
    (IsQuiet.isSet _).before fun _ => .ite (append_note_keeps_status _ _) ((IsQuiet.pure ()).keeps _)
  rw [cancel_eq]
  exact hrefund.bind fun _ => hrelease.ensures

/-- Only a record has a status, so the node after the shipment cannot fail. -/
theorem exists_finalize {session : Session} {status : String} (h : HasStatus status session.state) :
    ∃ done, finalize session = .ok () done ∧ HasStatus "processing" done.state := by
  cases hrun : finalize session with
  | ok _ done => exact ⟨done, rfl, write_status "processing" session trivial () done hrun⟩
  | error fault done =>
      unfold HasStatus at h
      unfold finalize write at hrun
      cases hstate : session.state with
      | record fields =>
          rw [hstate] at hrun
          cases hrun
      | _ =>
          rw [hstate] at h
          cases h

end Nodes

section Walks

variable {limit : Nat} {session last : Session} {event : Event} {later : List Event} {ending : Ending}

/-- After the shipment a walk stops at once, or it completes the order and ends. -/
theorem stops_or_completes (hship : HasStatus "shipped" event.state)
    (h : workflow.walkFrom limit "shipment" session = ⟨event :: later, ending, last⟩) :
    (ending ≠ .finished ∧ later = [] ∧ last.state = event.state) ∨
      (ending = .finished ∧ HasStatus "processing" last.state) := by
  cases limit with
  | zero =>
      rw [Workflow.walkFrom_zero (by decide) rfl] at h
      cases h
  | succ limit =>
      cases hrun : createShipment session with
      | error fault done =>
          rw [Workflow.walkFrom_node_fault (by decide) rfl hrun] at h
          cases h
          exact .inl ⟨Ending.noConfusion, rfl, rfl⟩
      | ok _ done =>
          rw [Workflow.walkFrom_edge (by decide) rfl hrun rfl rfl] at h
          cases limit with
          | zero =>
              rw [Workflow.walkFrom_zero (by decide) rfl] at h
              cases h
              exact .inl ⟨Ending.noConfusion, rfl, rfl⟩
          | succ limit =>
              have hstatus := createShipment_ensures session trivial () done hrun
              obtain ⟨completed, hfinalize, hprocessing⟩ := exists_finalize hstatus
              rw [Workflow.walkFrom_edge (by decide) rfl hfinalize rfl rfl,
                Workflow.walkFrom_terminal] at h
              cases h
              exact .inr ⟨rfl, hprocessing⟩

private theorem shipped_of_finished
    (h : workflow.walkFrom limit "shipment" session = ⟨event :: later, .finished, last⟩) :
    HasStatus "shipped" event.state := by
  have hfinished : (workflow.walkFrom limit "shipment" session).ending = .finished := by rw [h]
  obtain ⟨rest, done, rfl, hrun⟩ := Workflow.run_of_finished (by decide) rfl hfinished
  rw [Workflow.walkFrom_edge (by decide) rfl hrun rfl rfl] at h
  cases congrArg Walk.events h
  exact createShipment_ensures session trivial () done hrun

end Walks

theorem staysShipped_iff (limit : Nat) (session : Session) :
    StaysShipped (workflow.walk limit session) ↔
      ¬((workflow.walk limit session).ending = .finished ∧
        "shipment" ∈ (workflow.walk limit session).visited) := by
  constructor
  · rintro hstays ⟨hfinished, hvisited⟩
    obtain ⟨before, event, later, hsplit, hplace⟩ := Walk.mem_visited_iff.1 hvisited
    obtain ⟨rest, start, hwalk⟩ := Workflow.exists_walkFrom_of_visit _ _ _ hsplit hplace
    have hship : HasStatus "shipped" event.state := by
      apply shipped_of_finished
      rw [hwalk]
      exact congrArg (Walk.mk _ · _) hfinished
    rcases stops_or_completes hship hwalk with ⟨hstopped, -⟩ | ⟨-, hprocessing⟩
    · exact hstopped hfinished
    · rcases hstays before event later hsplit hplace hship _ (.inl rfl) with hshipped | hdelivered
      · exact absurd (hprocessing.inj hshipped) (by decide)
      · exact absurd (hprocessing.inj hdelivered) (by decide)
  · intro hcut before event later hsplit hplace hship state hstate
    obtain ⟨rest, start, hwalk⟩ := Workflow.exists_walkFrom_of_visit _ _ _ hsplit hplace
    rcases stops_or_completes hship hwalk with ⟨-, rfl, hlast⟩ | ⟨hfinished, -⟩
    · rcases hstate with rfl | ⟨next, hnext, -⟩
      · exact .inl (hlast ▸ hship)
      · cases hnext
    · exact absurd ⟨hfinished, Walk.mem_visited_iff.2 ⟨before, event, later, hsplit, hplace⟩⟩ hcut

/-- What is asserted at each node: the order is completed only after its shipment, and at the end its status
tells whether it has been shipped. -/
def statusAt (trail : List String) (name : String) (session : Session) : Prop :=
  if name = terminal then
    HasStatus (if "shipment" ∈ trail then "processing" else "cancelled") session.state
  else ("shipment" ∈ trail ↔ name = "finalize")

theorem statusAt_terminal {trail : List String} {session : Session} : statusAt trail terminal session ↔
    HasStatus (if "shipment" ∈ trail then "processing" else "cancelled") session.state := by
  rw [statusAt, if_pos rfl]

theorem statusAt_of_ne {trail : List String} {name : String} {session : Session} (h : name ≠ terminal) :
    statusAt trail name session ↔ ("shipment" ∈ trail ↔ name = "finalize") := by
  rw [statusAt, if_neg h]

theorem statusAt_visit {trail : List String} {name target : String} {session done : Session}
    (h : statusAt trail name session) (hname : name ∉ [terminal, "shipment", "finalize"])
    (htarget : target ≠ terminal ∧ target ≠ "finalize") : statusAt (trail ++ [name]) target done := by
  simp only [List.mem_cons, List.not_mem_nil, or_false, not_or] at hname
  rw [statusAt_of_ne hname.1] at h
  rw [statusAt_of_ne htarget.1]
  simp [h, hname, htarget, Ne.symm hname.2.1]

theorem statusAt_leads_gate {node : Node} {branching : Branching}
    (hname : node.name ∉ [terminal, "shipment", "finalize"])
    (hbranching : workflow.branching? node.name = some branching)
    (htargets : ∀ entry ∈ branching.targets, entry.2 ≠ terminal ∧ entry.2 ≠ "finalize") :
    workflow.LeadsOn statusAt node := by
  refine Workflow.leadsOn_of_branching
    (fun trail _ => ∃ session, statusAt trail node.name session) hbranching ?_ ?_
  · intro trail session hsession _ done _
    exact ⟨session, hsession⟩
  · intro trail _ hasserted answer done _ target htarget
    obtain ⟨session, hsession⟩ := hasserted
    obtain ⟨key, hmem⟩ := Branching.mem_targets htarget
    exact statusAt_visit hsession hname (htargets (key, target) hmem)

private theorem statusAt_leads : workflow.nodes.Forall (workflow.LeadsOn statusAt) := by
  refine ⟨statusAt_leads_gate (by decide) rfl (by decide), statusAt_leads_gate (by decide) rfl (by decide),
    statusAt_leads_gate (by decide) rfl (by decide), ?_, ?_, ?_, ?_⟩
  · refine Workflow.leadsOn_of_edge rfl rfl fun trail session hasserted _ done _ => ?_
    exact statusAt_visit hasserted (by decide) (by decide)
  · refine Workflow.leadsOn_of_edge rfl rfl fun trail session _ _ done _ => ?_
    show statusAt (trail ++ ["shipment"]) "finalize" done
    rw [statusAt_of_ne (by decide)]
    simp
  · refine Workflow.leadsOn_of_edge rfl rfl fun trail session hasserted _ done hrun => ?_
    have hstatus := cancel_ensures session trivial () done hrun
    have htrail : "shipment" ∉ trail := by
      rw [statusAt_of_ne (by decide)] at hasserted
      simp [hasserted]
    show statusAt (trail ++ ["cancel"]) terminal done
    rw [statusAt_terminal]
    simpa [htrail] using hstatus
  · refine Workflow.leadsOn_of_edge rfl rfl fun trail session hasserted _ done hrun => ?_
    have hstatus := write_status "processing" session trivial () done hrun
    have htrail : "shipment" ∈ trail := by
      rw [statusAt_of_ne (by decide)] at hasserted
      simp [hasserted]
    show statusAt (trail ++ ["finalize"]) terminal done
    rw [statusAt_terminal]
    simpa [htrail] using hstatus

theorem status_of_finished {limit : Nat} {session : Session}
    (h : (workflow.walk limit session).ending = .finished) :
    HasStatus (if "shipment" ∈ (workflow.walk limit session).visited then "processing" else "cancelled")
      (workflow.walk limit session).session.state := by
  have hentry : statusAt [] workflow.entry session := by
    rw [statusAt_of_ne (by decide)]
    simp [workflow]
  exact statusAt_terminal.1
    (Workflow.asserted_of_finished statusAt_leads limit workflow.entry session hentry h)

/-- The status of an order goes back from shipped exactly in the walks that ship the order and come to
their end. Every walk that comes to its end leaves an order that is being processed if it has been
shipped, and else a cancelled one. -/
theorem walk_not_staysShipped_iff (limit : Nat) (session : Session) :
    ∃ walk, workflow.walk limit session = walk ∧
      (¬StaysShipped walk ↔ walk.ending = .finished ∧ "shipment" ∈ walk.visited) ∧
      (walk.ending = .finished →
        HasStatus (if "shipment" ∈ walk.visited then "processing" else "cancelled")
          walk.session.state) := by
  refine ⟨_, rfl, ?_, status_of_finished⟩
  rw [staysShipped_iff, not_not]

/-- The basket is shipped and then marked as being processed. -/
theorem walk_basket_not_staysShipped : ∃ walk,
    workflow.walk 6 (Session.holding { state := .null } basket.fields) = walk ∧
      walk.ending = .finished ∧ "shipment" ∈ walk.visited ∧
      HasStatus "processing" walk.session.state ∧ ¬StaysShipped walk := by
  have hfinished : (workflow.walk 6 (Session.holding { state := .null }
      basket.fields)).ending = .finished := by
    decide +kernel
  have hvisited : "shipment" ∈ (workflow.walk 6 (Session.holding { state := .null }
      basket.fields)).visited := by
    decide +kernel
  have hstatus := status_of_finished hfinished
  rw [if_pos hvisited] at hstatus
  refine ⟨_, rfl, hfinished, hvisited, hstatus, ?_⟩
  rw [staysShipped_iff, not_not]
  exact ⟨hfinished, hvisited⟩

end Workgraph.Orders
