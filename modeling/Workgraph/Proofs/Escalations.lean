import Workgraph.Proofs.Support

/-!
# Escalations

A ticket passes desks until it is worked off, and the desks that it passes are its trail. Whatever the
trail, the ticket is resolved and answered in the end, and it counts as escalated if it was so before or the
trail has the senior team on it. An unhappy customer is sent there on one of two ways, at once or past both
tiers, and nobody else is.
-/

namespace Workgraph

namespace Ticket

/-- A ticket that is sent to a desk passes a trail of desks, from one to the next by their routes, and is then
worked off. -/
inductive Passes : String → Ticket → List String → Ticket → Prop
  | firstTier {next : String} {ticket done : Ticket} {trail : List String}
      (hroute : ticket.handleFirstTier.routeAfterFirstTier = next)
      (hrest : Passes next ticket.handleFirstTier trail done) :
      Passes "tier1" ticket ("tier1" :: trail) done
  | secondTier {next : String} {ticket done : Ticket} {trail : List String}
      (hroute : ticket.handleSecondTier.routeAfterSecondTier = next)
      (hrest : Passes next ticket.handleSecondTier trail done) :
      Passes "tier2" ticket ("tier2" :: trail) done
  | escalate (ticket : Ticket) : Passes "escalate" ticket ["escalate"] ticket.escalate
  | stop (ticket : Ticket) : Passes "end" ticket [] ticket

/-- The ticket is resolved, with an answer to the customer. -/
def IsAnswered (ticket : Ticket) : Prop := ticket.resolved = true ∧ ticket.response ≠ ""

private theorem isAnswered_escalate (ticket : Ticket) : ticket.escalate.IsAnswered := by
  refine ⟨rfl, ?_⟩
  show "This has been escalated to our senior support team." ≠ ""
  decide

private theorem isAnswered_handleFirstTier {ticket : Ticket}
    (h : ticket.handleFirstTier.routeAfterFirstTier = "end") : ticket.handleFirstTier.IsAnswered := by
  unfold handleFirstTier at h ⊢
  split
  · exact ⟨rfl, by simp⟩
  · rename_i hcondition
    simp [hcondition, routeAfterFirstTier] at h

private theorem isAnswered_handleSecondTier {ticket : Ticket}
    (h : ticket.handleSecondTier.routeAfterSecondTier = "end") : ticket.handleSecondTier.IsAnswered := by
  unfold handleSecondTier at h ⊢
  split
  · exact ⟨rfl, by simp⟩
  · rename_i hcondition
    simp [hcondition, routeAfterSecondTier] at h

private theorem escalated_handleFirstTier (ticket : Ticket) :
    ticket.handleFirstTier.escalated = ticket.escalated := by
  unfold handleFirstTier
  split <;> rfl

private theorem escalated_handleSecondTier (ticket : Ticket) :
    ticket.handleSecondTier.escalated = ticket.escalated := by
  unfold handleSecondTier
  split <;> rfl

private theorem routeAfterAnalysis_ne_end (ticket : Ticket) : ticket.routeAfterAnalysis ≠ "end" := by
  unfold routeAfterAnalysis
  split
  · decide
  · split <;> decide

theorem exists_limit_of_follow {limit : Nat} {desk : String} {ticket done : Ticket}
    (h : follow limit desk ticket = .ok done) : ∃ rest, limit = rest + 1 := by
  cases limit with
  | zero => cases h
  | succ rest => exact ⟨rest, rfl⟩

namespace Passes

variable {desk : String} {ticket done : Ticket} {trail : List String}

private theorem eq_of_follow (h : Passes desk ticket trail done) {limit : Nat} {other : Ticket}
    (hfollow : follow limit desk ticket = .ok other) : other = done := by
  induction h generalizing limit with
  | firstTier hroute _ ih =>
      obtain ⟨rest, rfl⟩ := exists_limit_of_follow hfollow
      rw [follow_tier1, hroute] at hfollow
      exact ih hfollow
  | secondTier hroute _ ih =>
      obtain ⟨rest, rfl⟩ := exists_limit_of_follow hfollow
      rw [follow_tier2, hroute] at hfollow
      exact ih hfollow
  | escalate ticket =>
      obtain ⟨rest, rfl⟩ := exists_limit_of_follow hfollow
      rw [follow_escalate] at hfollow
      exact (Except.ok.inj hfollow).symm
  | stop ticket =>
      obtain ⟨rest, rfl⟩ := exists_limit_of_follow hfollow
      rw [follow_end] at hfollow
      exact (Except.ok.inj hfollow).symm

private theorem isAnswered (h : Passes desk ticket trail done) (hend : desk = "end" → ticket.IsAnswered) :
    done.IsAnswered := by
  induction h with
  | firstTier hroute _ ih => exact ih fun hlast => isAnswered_handleFirstTier (hroute.trans hlast)
  | secondTier hroute _ ih => exact ih fun hlast => isAnswered_handleSecondTier (hroute.trans hlast)
  | escalate ticket => exact ticket.isAnswered_escalate
  | stop ticket => exact hend rfl

private theorem escalated_eq (h : Passes desk ticket trail done) :
    done.escalated = (ticket.escalated || decide ("escalate" ∈ trail)) := by
  induction h with
  | firstTier _ _ ih => simp [ih, escalated_handleFirstTier]
  | secondTier _ _ ih => simp [ih, escalated_handleSecondTier]
  | escalate ticket => simp [Ticket.escalate]
  | stop ticket => simp

end Passes

section Desks

variable {ticket : Ticket}

private theorem passes_firstTier_of_low (hcategory : ticket.category = "general")
    (hlow : ticket.priority = "low") : ∃ done, Passes "tier1" ticket ["tier1"] done := by
  have hroute : ticket.handleFirstTier.routeAfterFirstTier = "end" := by
    simp [handleFirstTier, routeAfterFirstTier, hcategory, hlow]
  exact ⟨_, .firstTier hroute (.stop _)⟩

private theorem passes_secondTier_of_specialist (hspecialist : ticket.needsSpecialist = true)
    (hpriority : ticket.priority = "low" ∨ ticket.priority = "medium") :
    ∃ done, Passes "tier2" ticket ["tier2"] done := by
  have hroute : ticket.handleSecondTier.routeAfterSecondTier = "end" := by
    simp [handleSecondTier, routeAfterSecondTier, hspecialist, hpriority]
  exact ⟨_, .secondTier hroute (.stop _)⟩

private theorem passes_secondTier_of_no_specialist (hspecialist : ticket.needsSpecialist = false) :
    ∃ done, Passes "tier2" ticket ["tier2", "escalate"] done := by
  have hroute : ticket.handleSecondTier.routeAfterSecondTier = "escalate" := by
    simp [handleSecondTier, routeAfterSecondTier, hspecialist]
  exact ⟨_, .secondTier hroute (.escalate _)⟩

/-- The first tier hands on what is not of low priority, and then nobody but the senior team takes it. -/
theorem passes_firstTier_of_ne_low (hspecialist : ticket.needsSpecialist = false)
    (hlow : ticket.priority ≠ "low") :
    ∃ done, Passes "tier1" ticket ["tier1", "tier2", "escalate"] done := by
  have hhandled : ticket.handleFirstTier = { ticket with resolved := false } := by
    simp [handleFirstTier, hlow]
  have hunchanged : ticket.handleFirstTier.needsSpecialist = false := by
    rw [hhandled]
    exact hspecialist
  obtain ⟨done, hdone⟩ := passes_secondTier_of_no_specialist hunchanged
  have hroute : ticket.handleFirstTier.routeAfterFirstTier = "tier2" := by
    rw [hhandled]
    rfl
  exact ⟨done, .firstTier hroute hdone⟩

end Desks

/-- A ticket as the analysis leaves it. -/
structure IsJudged (ticket : Ticket) : Prop where
  priority : ticket.priority = ticket.priorityDue
  category : ticket.needsSpecialist = false → ticket.category = "general"

private theorem isJudged_analyze (ticket : Ticket) : ticket.analyze.IsJudged := by
  refine ⟨rfl, ?_⟩
  show (ticket.categoryShown == "technical" || ticket.categoryShown == "billing") = false →
    ticket.categoryShown = "general"
  unfold categoryShown
  split
  · decide
  · split <;> decide

namespace IsJudged

variable {ticket : Ticket}

private theorem priority_of_unhappy (h : ticket.IsJudged) (hunhappy : ticket.sentiment = "negative") :
    ticket.priority = if ticket.needsSpecialist then "high" else "medium" := by
  simp [h.priority, priorityDue, hunhappy]

private theorem priority_of_calm (h : ticket.IsJudged) (hcalm : ticket.sentiment ≠ "negative") :
    ticket.priority = if ticket.category = "billing" then "medium" else "low" := by
  simp [h.priority, priorityDue, hcalm]

end IsJudged

def dueTrail (ticket : Ticket) : List String :=
  if ticket.sentiment = "negative" then
    if ticket.needsSpecialist then ["escalate"] else ["tier1", "tier2", "escalate"]
  else if ticket.needsSpecialist then ["tier2"] else ["tier1"]

private theorem escalate_mem_dueTrail_iff (ticket : Ticket) :
    "escalate" ∈ ticket.dueTrail ↔ ticket.sentiment = "negative" := by
  unfold dueTrail
  by_cases hunhappy : ticket.sentiment = "negative"
  · rw [if_pos hunhappy]
    split <;> simp [hunhappy]
  · rw [if_neg hunhappy]
    split <;> simp [hunhappy]

private theorem length_dueTrail_le (ticket : Ticket) : ticket.dueTrail.length ≤ 3 := by
  unfold dueTrail
  split
  · split <;> decide
  · split <;> decide

private theorem IsJudged.exists_passes {ticket : Ticket} (h : ticket.IsJudged) :
    ∃ done, Passes ticket.routeAfterAnalysis ticket ticket.dueTrail done := by
  unfold routeAfterAnalysis dueTrail
  by_cases hunhappy : ticket.sentiment = "negative"
  · have hpriority := h.priority_of_unhappy hunhappy
    rw [if_pos hunhappy]
    cases hspecialist : ticket.needsSpecialist with
    | true =>
        rw [hspecialist, if_pos rfl] at hpriority
        rw [hpriority]
        exact ⟨_, .escalate ticket⟩
    | false =>
        rw [hspecialist, if_neg Bool.false_ne_true] at hpriority
        rw [hpriority]
        exact passes_firstTier_of_ne_low hspecialist (by simp [hpriority])
  · have hpriority := h.priority_of_calm hunhappy
    have hmild : ticket.priority = "low" ∨ ticket.priority = "medium" := by
      rw [hpriority]
      split <;> simp
    have hhigh : (ticket.priority == "high") = false := by
      rcases hmild with hlow | hmedium
      · simp [hlow]
      · simp [hmedium]
    rw [if_neg hunhappy, hhigh]
    cases hspecialist : ticket.needsSpecialist with
    | true => exact passes_secondTier_of_specialist hspecialist hmild
    | false =>
        have hcategory := h.category hspecialist
        rw [hcategory] at hpriority
        exact passes_firstTier_of_low hcategory hpriority

end Ticket

namespace Support

/-- The message has a word of an unhappy customer in it. -/
def IsUnhappy (ticket : Ticket) : Prop :=
  ∃ word ∈ ["angry", "frustrated", "terrible"], word.toList <:+: Text.lower ticket.message.toList

private theorem sentiment_analyze_iff (ticket : Ticket) :
    ticket.analyze.sentiment = "negative" ↔ IsUnhappy ticket := by
  have hwords : IsUnhappy ticket ↔
      Text.anyOccurs negativeWords (Text.lower ticket.message.toList) = true :=
    (Text.anyOccurs_iff _ _).symm
  show ticket.sentimentShown = "negative" ↔ _
  rw [hwords, sentimentShown_eq]
  split
  · simp_all
  · split <;> simp_all

private theorem visited_of_passes (session : Session) (record : Fields) {desk : String}
    {ticket done : Ticket} {trail : List String} (h : Ticket.Passes desk ticket trail done)
    (extra : Nat) :
    (workflow.walkFrom (trail.length + extra) (site desk)
      (carrying session record ticket)).FinishesIn (carrying session record done) ∧
    (workflow.walkFrom (trail.length + extra) (site desk)
      (carrying session record ticket)).visited = trail := by
  induction h with
  | @firstTier next ticket done trail hroute _ ih =>
      have hanswer := routeAfterFirstTier_carrying session record ticket.handleFirstTier
      have htarget := target_firstTier ticket.handleFirstTier
      rw [hroute] at hanswer htarget
      rw [List.length_cons, Nat.add_right_comm, site, if_neg (by decide),
        Workflow.walkFrom_branching (by decide) rfl (handleFirstTier_carrying session record ticket) rfl
          hanswer htarget]
      refine ⟨(ih.1.after _).after _, ?_⟩
      rw [Walk.visited_after_node, Walk.visited_after_router, ih.2]
  | @secondTier next ticket done trail hroute _ ih =>
      have hanswer := routeAfterSecondTier_carrying session record ticket.handleSecondTier
      have htarget := target_secondTier ticket.handleSecondTier
      rw [hroute] at hanswer htarget
      rw [List.length_cons, Nat.add_right_comm, site, if_neg (by decide),
        Workflow.walkFrom_branching (by decide) rfl (handleSecondTier_carrying session record ticket) rfl
          hanswer htarget]
      refine ⟨(ih.1.after _).after _, ?_⟩
      rw [Walk.visited_after_node, Walk.visited_after_router, ih.2]
  | escalate ticket =>
      rw [List.length_singleton, Nat.add_comm, site, if_neg (by decide),
        Workflow.walkFrom_edge (by decide) rfl (escalate_carrying session record ticket) rfl rfl,
        Workflow.walkFrom_terminal]
      exact ⟨⟨rfl, rfl⟩, rfl⟩
  | stop ticket =>
      rw [site, if_pos rfl, Workflow.walkFrom_terminal]
      exact ⟨⟨rfl, rfl⟩, rfl⟩

private theorem visited_walk (session : Session) (record : Fields) {ticket done : Ticket}
    (h : Ticket.Passes ticket.analyze.routeAfterAnalysis ticket.analyze ticket.analyze.dueTrail done)
    (limit : Nat) :
    (workflow.walk (limit + 4) (session.holding (ticket.store record))).FinishesIn
      (session.holding (done.store record)) ∧
    (workflow.walk (limit + 4) (session.holding (ticket.store record))).visited =
      "analyze" :: ticket.analyze.dueTrail := by
  obtain ⟨extra, hextra⟩ := Nat.exists_eq_add_of_le ticket.analyze.length_dueTrail_le
  have hrest := visited_of_passes session record h (extra + limit)
  have hlimit : limit + 3 = ticket.analyze.dueTrail.length + (extra + limit) := by omega
  rw [← hlimit] at hrest
  have hwalk : workflow.walk (limit + 4) (session.holding (ticket.store record)) =
      workflow.walkFrom (limit + 3 + 1) "analyze" (carrying session record ticket) := rfl
  rw [hwalk, Workflow.walkFrom_branching (by decide) rfl (analyze_carrying session record ticket) rfl
    (routeAfterAnalysis_carrying session record ticket.analyze) (target_analysis _)]
  refine ⟨(hrest.1.after _).after _, ?_⟩
  rw [Walk.visited_after_node, Walk.visited_after_router, hrest.2]

/-- Every ticket is resolved with an answer, by the desk and by the workflow, which pass the same trail. The
senior team is on it exactly if the message has a word of an unhappy customer in it, whatever the
category, and a ticket counts as escalated in the end if it has such a word or counted as escalated before. -/
theorem execute_escalated_iff_isUnhappy (ticket : Ticket) (session : Session) (record : Fields) (limit : Nat) :
    ∃ done trail walk, ticket.execute = .ok done ∧
      Ticket.Passes ticket.analyze.routeAfterAnalysis ticket.analyze trail done ∧
      workflow.walk (limit + 4) (session.holding (ticket.store record)) = walk ∧
      walk.FinishesIn (session.holding (done.store record)) ∧
      walk.visited = "analyze" :: trail ∧
      done.resolved = true ∧ done.response ≠ "" ∧
      ("escalate" ∈ trail ↔ IsUnhappy ticket) ∧
      (done.escalated = true ↔ ticket.escalated = true ∨ IsUnhappy ticket) := by
  obtain ⟨done, hpasses⟩ := ticket.isJudged_analyze.exists_passes
  obtain ⟨result, hresult⟩ := ticket.exists_execute
  obtain rfl := hpasses.eq_of_follow hresult
  obtain ⟨hfinishes, hvisited⟩ := visited_walk session record hpasses limit
  have hanswered : result.IsAnswered := by
    apply hpasses.isAnswered
    intro hend
    exact absurd hend ticket.analyze.routeAfterAnalysis_ne_end
  have hunhappy : "escalate" ∈ ticket.analyze.dueTrail ↔ IsUnhappy ticket :=
    (Ticket.escalate_mem_dueTrail_iff _).trans (sentiment_analyze_iff ticket)
  refine ⟨result, _, _, hresult, hpasses, rfl, hfinishes, hvisited, hanswered.1, hanswered.2, hunhappy, ?_⟩
  rw [hpasses.escalated_eq, Bool.or_eq_true, decide_eq_true_eq, hunhappy]
  rfl

end Support

end Workgraph
