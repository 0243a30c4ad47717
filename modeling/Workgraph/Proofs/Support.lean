import Workgraph.Proofs.Steps
import Workgraph.Ticket
import Workgraph.Workflows.Support

/-!
# The support workflow and the support desk

The support workflow works on records, the desk on tickets. A record carries a ticket when its fields hold what
the ticket holds. Each step of the workflow does to the record what the desk does to the ticket, so a walk
of the workflow leaves the ticket that the desk leaves.
-/

namespace Workgraph

namespace Ticket

def fields (ticket : Ticket) : Fields := [
  ("customer_message", .text ticket.message),
  ("sentiment", .text ticket.sentiment),
  ("category", .text ticket.category),
  ("priority", .text ticket.priority),
  ("response", .text ticket.response),
  ("escalated", .bool ticket.escalated),
  ("resolved", .bool ticket.resolved)]

/-- A record with the fields of a ticket put into it. Those that are there keep their places. -/
def store (ticket : Ticket) (record : Fields) : Fields := Fields.update record ticket.fields

theorem nodup_fields (ticket : Ticket) : (ticket.fields.map Prod.fst).Nodup := by
  simp [fields]

section Desk

variable {limit : Nat} {desk : String} {ticket done : Ticket}

theorem follow_tier1 (limit : Nat) (ticket : Ticket) : follow (limit + 1) "tier1" ticket =
    follow limit ticket.handleFirstTier.routeAfterFirstTier ticket.handleFirstTier := rfl

theorem follow_tier2 (limit : Nat) (ticket : Ticket) : follow (limit + 1) "tier2" ticket =
    follow limit ticket.handleSecondTier.routeAfterSecondTier ticket.handleSecondTier := rfl

theorem follow_escalate (limit : Nat) (ticket : Ticket) :
    follow (limit + 1) "escalate" ticket = .ok ticket.escalate := rfl

theorem follow_end (limit : Nat) (ticket : Ticket) :
    follow (limit + 1) "end" ticket = .ok ticket := rfl

theorem follow_cases (h : follow (limit + 1) desk ticket = .ok done) :
    (desk = "tier1" ∧ follow limit ticket.handleFirstTier.routeAfterFirstTier
      ticket.handleFirstTier = .ok done) ∨
    (desk = "tier2" ∧ follow limit ticket.handleSecondTier.routeAfterSecondTier
      ticket.handleSecondTier = .ok done) ∨
    (desk = "escalate" ∧ done = ticket.escalate) ∨ (desk = "end" ∧ done = ticket) := by
  by_cases hfirst : desk = "tier1"
  · subst hfirst
    exact .inl ⟨rfl, h⟩
  by_cases hsecond : desk = "tier2"
  · subst hsecond
    exact .inr (.inl ⟨rfl, h⟩)
  by_cases hescalate : desk = "escalate"
  · subst hescalate
    cases h
    exact .inr (.inr (.inl ⟨rfl, rfl⟩))
  by_cases hend : desk = "end"
  · subst hend
    cases h
    exact .inr (.inr (.inr ⟨rfl, rfl⟩))
  rw [follow, if_neg hfirst, if_neg hsecond, if_neg hescalate, if_neg hend] at h
  cases h

theorem follow_add (h : follow limit desk ticket = .ok done) (extra : Nat) :
    follow (limit + extra) desk ticket = .ok done := by
  induction limit generalizing desk ticket with
  | zero => cases h
  | succ limit ih =>
      rw [Nat.succ_add]
      obtain ⟨rfl, h⟩ | ⟨rfl, h⟩ | ⟨rfl, rfl⟩ | ⟨rfl, rfl⟩ := follow_cases h
      · rw [follow_tier1]
        exact ih h
      · rw [follow_tier2]
        exact ih h
      · exact follow_escalate ..
      · exact follow_end ..

theorem exists_follow_tier2 (ticket : Ticket) : ∃ done, follow 2 "tier2" ticket = .ok done := by
  rw [follow_tier2]
  unfold routeAfterSecondTier
  split
  · exact ⟨_, follow_end ..⟩
  · exact ⟨_, follow_escalate ..⟩

private theorem exists_follow_tier1 (ticket : Ticket) : ∃ done, follow 3 "tier1" ticket = .ok done := by
  rw [follow_tier1]
  unfold routeAfterFirstTier
  split
  · exact ⟨_, follow_end ..⟩
  · exact exists_follow_tier2 _

theorem exists_execute (ticket : Ticket) : ∃ done, ticket.execute = .ok done := by
  change ∃ done, follow 3 ticket.analyze.routeAfterAnalysis ticket.analyze = .ok done
  unfold routeAfterAnalysis
  split
  · exact ⟨_, follow_escalate ..⟩
  · split
    · obtain ⟨done, h⟩ := exists_follow_tier2 ticket.analyze
      exact ⟨done, follow_add h 1⟩
    · exact exists_follow_tier1 _

end Desk

end Ticket

namespace Support

open Step

section Carrying

variable (session : Session) (record : Fields) (ticket : Ticket)

def carrying (session : Session) (record : Fields) (ticket : Ticket) : Session :=
  session.holding (ticket.store record)

theorem read_carrying {key : String} {v : Value} (h : Fields.get? key ticket.fields = some v) :
    read key (carrying session record ticket) = .ok v (carrying session record ticket) := by
  apply read_holding
  rw [Ticket.store, Fields.get?_update ticket.nodup_fields, h]
  rfl

theorem write_carrying {ticket changed : Ticket} {key : String} {v : Value}
    (hkey : Fields.has key ticket.fields = true)
    (h : Fields.set key v ticket.fields = changed.fields) :
    write key v (carrying session record ticket) = .ok () (carrying session record changed) := by
  rw [carrying, write_holding, Ticket.store, Fields.set_update ticket.nodup_fields hkey, h]
  rfl

end Carrying

section Steps

variable (session : Session) (record : Fields) (ticket : Ticket)

@[simp]
theorem read_message : read "customer_message" (carrying session record ticket) =
    .ok (.text ticket.message) (carrying session record ticket) := by
  apply read_carrying
  simp [Ticket.fields, Fields.get?]

@[simp]
theorem read_sentiment : read "sentiment" (carrying session record ticket) =
    .ok (.text ticket.sentiment) (carrying session record ticket) := by
  apply read_carrying
  simp [Ticket.fields, Fields.get?]

@[simp]
theorem read_category : read "category" (carrying session record ticket) =
    .ok (.text ticket.category) (carrying session record ticket) := by
  apply read_carrying
  simp [Ticket.fields, Fields.get?]

@[simp]
theorem read_priority : read "priority" (carrying session record ticket) =
    .ok (.text ticket.priority) (carrying session record ticket) := by
  apply read_carrying
  simp [Ticket.fields, Fields.get?]

@[simp]
theorem read_resolved : read "resolved" (carrying session record ticket) =
    .ok (.bool ticket.resolved) (carrying session record ticket) := by
  apply read_carrying
  simp [Ticket.fields, Fields.get?]

@[simp]
theorem write_sentiment (s : String) : write "sentiment" (.text s) (carrying session record ticket) =
    .ok () (carrying session record { ticket with sentiment := s }) := by
  apply write_carrying <;> simp [Ticket.fields, Fields.has, Fields.get?, Fields.set]

@[simp]
theorem write_category (s : String) : write "category" (.text s) (carrying session record ticket) =
    .ok () (carrying session record { ticket with category := s }) := by
  apply write_carrying <;> simp [Ticket.fields, Fields.has, Fields.get?, Fields.set]

@[simp]
theorem write_priority (s : String) : write "priority" (.text s) (carrying session record ticket) =
    .ok () (carrying session record { ticket with priority := s }) := by
  apply write_carrying <;> simp [Ticket.fields, Fields.has, Fields.get?, Fields.set]

@[simp]
theorem write_response (s : String) : write "response" (.text s) (carrying session record ticket) =
    .ok () (carrying session record { ticket with response := s }) := by
  apply write_carrying <;> simp [Ticket.fields, Fields.has, Fields.get?, Fields.set]

@[simp]
theorem write_escalated (b : Bool) : write "escalated" (.bool b) (carrying session record ticket) =
    .ok () (carrying session record { ticket with escalated := b }) := by
  apply write_carrying <;> simp [Ticket.fields, Fields.has, Fields.get?, Fields.set]

@[simp]
theorem write_resolved (b : Bool) : write "resolved" (.bool b) (carrying session record ticket) =
    .ok () (carrying session record { ticket with resolved := b }) := by
  apply write_carrying <;> simp [Ticket.fields, Fields.has, Fields.get?, Fields.set]

theorem sentimentShown_eq : ticket.sentimentShown =
    if Text.anyOccurs negativeWords (Text.lower ticket.message.toList) = true then "negative"
    else if Text.anyOccurs positiveWords (Text.lower ticket.message.toList) = true then "positive"
    else "neutral" := by
  simp [Ticket.sentimentShown, Text.anyOccurs, negativeWords, positiveWords, Ticket.mentions,
    or_assoc]

private theorem categoryShown_eq : ticket.categoryShown =
    if Text.anyOccurs technicalWords (Text.lower ticket.message.toList) = true then "technical"
    else if Text.anyOccurs billingWords (Text.lower ticket.message.toList) = true then "billing"
    else "general" := by
  simp [Ticket.categoryShown, Text.anyOccurs, technicalWords, billingWords, Ticket.mentions,
    or_assoc]

theorem needsSpecialist_carrying :
    holdsOneOf "category" ["technical", "billing"] (carrying session record ticket) =
      .ok ticket.needsSpecialist (carrying session record ticket) := by
  rw [holdsOneOf_of_read (read_category ..)]
  simp [Ticket.needsSpecialist]

private theorem isUrgent_carrying :
    both (holds "sentiment" "negative") (holdsOneOf "category" ["technical", "billing"])
      (carrying session record ticket) =
      .ok (ticket.sentiment == "negative" && ticket.needsSpecialist)
        (carrying session record ticket) := by
  rw [both_of_ok (holds_of_read (read_sentiment ..) _) (needsSpecialist_carrying ..)]

private theorem isPressing_carrying :
    either (holds "sentiment" "negative") (holds "category" "billing")
      (carrying session record ticket) =
      .ok (ticket.sentiment == "negative" || ticket.category == "billing")
        (carrying session record ticket) :=
  either_of_ok (holds_of_read (read_sentiment ..) _) (holds_of_read (read_category ..) _)

theorem analyze_carrying : analyze (carrying session record ticket) =
    .ok () (carrying session record ticket.analyze) := by
  simp only [analyze, write_text_ite]
  simp only [bind_apply, read_message, Value.chars, liftM_ok, pure_apply, write_sentiment,
    write_category, isUrgent_carrying, ← sentimentShown_eq, ← categoryShown_eq, Ticket.analyze,
    Ticket.priorityDue]
  split
  · rw [write_priority]
  · simp only [bind_apply, isPressing_carrying]
    split <;> rw [write_priority]

theorem handleFirstTier_carrying : handleFirstTier (carrying session record ticket) =
    .ok () (carrying session record ticket.handleFirstTier) := by
  have hcondition := both_of_ok
    (holds_of_read (read_category session record ticket) "general")
    (holds_of_read (read_priority session record ticket) "low")
  simp only [handleFirstTier, bind_apply, hcondition, Ticket.handleFirstTier]
  split
  · simp only [bind_apply, read_message, Value.takeFirst, Value.ofChars, Value.render_text, liftM_ok,
      pure_apply, write_response, write_resolved]
  · rw [write_resolved]

theorem handleSecondTier_carrying : handleSecondTier (carrying session record ticket) =
    .ok () (carrying session record ticket.handleSecondTier) := by
  have hcondition : both (holdsOneOf "category" ["technical", "billing"])
      (holdsOneOf "priority" ["low", "medium"]) (carrying session record ticket) =
      .ok (ticket.needsSpecialist && (ticket.priority == "low" || ticket.priority == "medium"))
        (carrying session record ticket) := by
    rw [both_of_ok (needsSpecialist_carrying ..) (holdsOneOf_of_read (read_priority ..) _)]
    simp
  simp only [handleSecondTier, bind_apply, hcondition, Ticket.handleSecondTier]
  split
  · simp only [bind_apply, read_category, Value.render_text, liftM_ok, pure_apply, write_response, write_resolved]
  · rw [write_resolved]

theorem escalate_carrying : escalate (carrying session record ticket) =
    .ok () (carrying session record ticket.escalate) := by
  simp only [escalate, bind_apply, write_response, write_escalated, write_resolved,
    Ticket.escalate]

/-- Where the workflow goes when the desk sends a ticket on. -/
def site (desk : String) : String := if desk = "end" then terminal else desk

theorem routeAfterAnalysis_carrying : routeAfterAnalysis (carrying session record ticket) =
    .ok (.text (site ticket.routeAfterAnalysis)) (carrying session record ticket) := by
  simp only [routeAfterAnalysis, bind_apply, holds_of_read (read_priority ..),
    Ticket.routeAfterAnalysis]
  split
  · rfl
  · simp only [bind_apply, needsSpecialist_carrying]
    split <;> rfl

theorem routeAfterFirstTier_carrying : routeAfterFirstTier (carrying session record ticket) =
    .ok (.text (site ticket.routeAfterFirstTier)) (carrying session record ticket) := by
  simp only [routeAfterFirstTier, bind_apply, isSet_of_read (read_resolved ..), Value.truthy,
    Ticket.routeAfterFirstTier]
  split <;> rfl

theorem routeAfterSecondTier_carrying : routeAfterSecondTier (carrying session record ticket) =
    .ok (.text (site ticket.routeAfterSecondTier)) (carrying session record ticket) := by
  simp only [routeAfterSecondTier, bind_apply, isSet_of_read (read_resolved ..), Value.truthy,
    Ticket.routeAfterSecondTier]
  split <;> rfl

end Steps

section Walks

variable (session : Session) (record : Fields)

theorem target_firstTier (ticket : Ticket) :
    (Branching.mk "tier1" ⟨"route_after_tier1", routeAfterFirstTier⟩
      [("tier2", "tier2"), (terminal, terminal)]).target? (.text (site ticket.routeAfterFirstTier)) =
      some (site ticket.routeAfterFirstTier) := by
  unfold Ticket.routeAfterFirstTier
  split <;> rfl

theorem target_secondTier (ticket : Ticket) :
    (Branching.mk "tier2" ⟨"route_after_tier2", routeAfterSecondTier⟩
      [("escalate", "escalate"), (terminal, terminal)]).target?
      (.text (site ticket.routeAfterSecondTier)) = some (site ticket.routeAfterSecondTier) := by
  unfold Ticket.routeAfterSecondTier
  split <;> rfl

theorem target_analysis (ticket : Ticket) :
    (Branching.mk "analyze" ⟨"route_after_analysis", routeAfterAnalysis⟩
      [("tier1", "tier1"), ("tier2", "tier2"), ("escalate", "escalate")]).target?
      (.text (site ticket.routeAfterAnalysis)) = some (site ticket.routeAfterAnalysis) := by
  unfold Ticket.routeAfterAnalysis
  split
  · rfl
  · split <;> rfl

/-- A walk from the place of a desk finishes with the ticket that the desk leaves. -/
theorem finishesIn_of_follow {limit : Nat} {desk : String} {ticket done : Ticket}
    (h : Ticket.follow limit desk ticket = .ok done) (extra : Nat) :
    (workflow.walkFrom (limit + extra) (site desk) (carrying session record ticket)).FinishesIn
      (carrying session record done) := by
  induction limit generalizing desk ticket with
  | zero => cases h
  | succ limit ih =>
      rw [Nat.succ_add]
      obtain ⟨rfl, h⟩ | ⟨rfl, h⟩ | ⟨rfl, rfl⟩ | ⟨rfl, rfl⟩ := Ticket.follow_cases h
      · exact Workflow.finishesIn_of_branching (by decide) rfl (handleFirstTier_carrying ..) rfl
          (routeAfterFirstTier_carrying ..) (target_firstTier _) (ih h)
      · exact Workflow.finishesIn_of_branching (by decide) rfl (handleSecondTier_carrying ..) rfl
          (routeAfterSecondTier_carrying ..) (target_secondTier _) (ih h)
      · apply Workflow.finishesIn_of_edge (by decide) rfl (escalate_carrying ..) rfl rfl
        rw [Workflow.walkFrom_terminal]
        exact ⟨rfl, rfl⟩
      · rw [site, if_pos rfl, Workflow.walkFrom_terminal]
        exact ⟨rfl, rfl⟩

/-- The workflow and the desk agree on every ticket. The desk works it off, within three desks and so
within any larger number, and the workflow finishes within four nodes with a record of the same result. -/
theorem walk_finishesIn_execute (ticket : Ticket) (limit : Nat) :
    ∃ done, ticket.execute = .ok done ∧
      (∀ extra, Ticket.follow (3 + extra) ticket.analyze.routeAfterAnalysis ticket.analyze =
        .ok done) ∧
      (workflow.walk (4 + limit) (session.holding (ticket.store record))).FinishesIn
        (session.holding (done.store record)) := by
  obtain ⟨done, hdone⟩ := ticket.exists_execute
  have hwalk := finishesIn_of_follow session record hdone limit
  refine ⟨done, hdone, Ticket.follow_add hdone, ?_⟩
  rw [show 4 + limit = 3 + limit + 1 by omega]
  exact Workflow.finishesIn_of_branching (by decide) rfl (analyze_carrying ..) rfl
    (routeAfterAnalysis_carrying ..) (target_analysis _) hwalk

end Walks

end Support

end Workgraph
