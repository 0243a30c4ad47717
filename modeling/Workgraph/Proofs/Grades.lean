import Workgraph.Proofs.DataQuality
import Workgraph.Proofs.Walks

/-!
# Grades of data

Data of texts has at most two errors and loses no field when it is enriched, so that its grade is never
below six tenths. No data is rejected after the validation, and none comes to a person.
-/

namespace Workgraph.DataQuality

open Step
open Pipeline (Texts textRecord)

/-- Two errors without a new field are the worst case. -/
theorem le_score {errors added : Nat} (herrors : errors ≤ 2) (hadded : added ≤ 2) :
    (0.6 : Float) ≤ score errors added ∧ ¬score errors added < 0.6 := by
  obtain rfl | rfl | rfl : errors = 0 ∨ errors = 1 ∨ errors = 2 := by omega
  all_goals
    obtain rfl | rfl | rfl : added = 0 ∨ added = 1 ∨ added = 2 := by omega
    all_goals decide +kernel

example : (score 2 0 == 0.6) = true := by decide +kernel

section Walks

variable {fields : Fields} {data : Texts}

private theorem exists_grade_le {errors : List Value} {before after : Fields}
    (herrors : Fields.get? "validation_errors" fields = some (.list errors))
    (hafter : Fields.get? "enriched_data" fields = some (.record after))
    (hbefore : Fields.get? "raw_data" fields = some (.record before)) (hfew : errors.length ≤ 2)
    (henlarges : Enlarges before after) (session : Session) :
    ∃ x : Float, 0.6 ≤ x ∧ grade (session.holding fields) =
      .ok () (session.holding (Fields.set "quality_score" (.float x) fields)) := by
  obtain ⟨hleast, hmost⟩ := henlarges
  obtain ⟨added, hadded⟩ := Nat.exists_eq_add_of_le hleast
  have hgained : (after.length : Int) - before.length = added := by omega
  obtain ⟨hle, hnot⟩ := le_score hfew (by omega : added ≤ 2)
  refine ⟨_, hle, ?_⟩
  simp only [grade, bind_apply, read_holding herrors, read_holding hafter, read_holding hbefore,
    Value.size, liftM_ok, pure_apply, write_holding, hgained, if_neg hnot]

/-- Data that has got through counts as processed and has few errors and a fair grade. -/
structure Passed (final : Fields) : Prop where
  processed : Fields.get? "processed" final = some (.bool true)
  errors : ∃ errors, Fields.get? "validation_errors" final = some (.list errors) ∧ errors.length ≤ 2
  grade : ∃ x : Float, Fields.get? "quality_score" final = some (.float x) ∧ 0.6 ≤ x

private theorem walk_from_enrich {errors : List Value}
    (hraw : Fields.get? "raw_data" fields = some (textRecord data))
    (htype : Fields.get? "data_type" fields = some (.text (typeOf data)))
    (herrors : Fields.get? "validation_errors" fields = some (.list errors))
    (hfew : errors.length ≤ 2)
    (hreview : Fields.get? "needs_manual_review" fields = some (.bool false))
    (h : ∀ price, ¬IsMispriced data price) (limit : Nat) (session : Session) :
    ∃ enriched graded final, Passed final ∧
      workflow.walkFrom (limit + 3) "enrich" (session.holding fields) =
        ⟨[⟨.node "enrich", none, none, enriched⟩, ⟨.node "quality", none, none, graded⟩,
          ⟨.router "route_after_quality", some (.text "finalize"), none, graded⟩,
          ⟨.node "finalize", none, none, .record final⟩], .finished, session.holding final⟩ := by
  obtain ⟨changed, henrich, henlarges⟩ := exists_enrich_holding hraw htype h session
  have hsame := (Fields.EqOutside.refl ["enriched_data"] fields).set
    (List.mem_singleton_self _) (.record changed)
  obtain ⟨x, hx, hgrade⟩ := exists_grade_le ((hsame _ (by decide)).trans herrors)
    (Fields.get?_set_self ..) ((hsame _ (by decide)).trans hraw) hfew henlarges session
  generalize hgraded : Fields.set "quality_score" (.float x)
    (Fields.set "enriched_data" (.record changed) fields) = graded at hgrade
  have hroute : routeAfterGrading (session.holding graded) =
      .ok (.text "finalize") (session.holding graded) := by
    have hclear : Fields.get? "needs_manual_review" graded = some (.bool false) := by
      simpa [← hgraded, Fields.get?_set] using hreview
    simp only [routeAfterGrading, bind_apply, isSet_of_read (read_holding hclear session)]
    rfl
  have hfinalize : finalize (session.holding graded) =
      .ok () (session.holding (Fields.set "timestamp" (.text session.supply.now.text)
        (Fields.set "processed" (.bool true) graded))) := rfl
  rw [Workflow.walkFrom_edge (by decide) rfl henrich rfl rfl,
    Workflow.walkFrom_branching (by decide) rfl hgrade rfl hroute rfl,
    Workflow.walkFrom_edge (by decide) rfl hfinalize rfl rfl, Workflow.walkFrom_terminal]
  refine ⟨_, _, _, ⟨?_, ⟨errors, ?_, hfew⟩, ⟨x, ?_, hx⟩⟩, rfl⟩
  · simp [Fields.get?_set]
  · simpa [← hgraded, Fields.get?_set] using herrors
  · simp [← hgraded, Fields.get?_set]

/-- No event is at the node where a person looks at the data, and after the validation the walk goes on. -/
def LetsThrough (events : List Event) : Prop :=
  ∀ event ∈ events, event.place ≠ .node "manual_review" ∧
    (event.place = .router "route_after_validation" → event.answer = some (.text "enrich"))

/-- The walk has finished at the last node with data that has passed. -/
def Accepts (walk : Walk) : Prop :=
  walk.ending = .finished ∧ walk.visited = ["classify", "validate", "enrich", "quality", "finalize"] ∧
    ∃ final, walk.session.state = .record final ∧ Passed final

private theorem letsThrough_of_isMispriced {price : String}
    (hraw : Fields.get? "raw_data" fields = some (textRecord data)) (h : IsMispriced data price)
    (limit : Nat) (session : Session) :
    LetsThrough (workflow.walk (limit + 3) (session.holding fields)).events := by
  have hsame := validated_eqOutside data ["Price must be a number"] fields
  have henrich := enrich_of_isMispriced ((hsame _ (by decide)).trans hraw)
    (get?_type_validated ..) h session
  rw [walk_to_enrich hraw (errorsOf_of_isMispriced h) (by decide) (limit + 1) session,
    Workflow.walkFrom_node_fault (by decide) rfl henrich]
  simp [LetsThrough, Walk.after]

private theorem accepts_of_not_isMispriced (hraw : Fields.get? "raw_data" fields = some (textRecord data))
    (hreview : Fields.get? "needs_manual_review" fields = some (.bool false))
    (h : ∀ price, ¬IsMispriced data price) (limit : Nat) (session : Session) :
    LetsThrough (workflow.walk (limit + 5) (session.holding fields)).events ∧
      Accepts (workflow.walk (limit + 5) (session.holding fields)) := by
  obtain ⟨errors, herrors, hfew⟩ := exists_errorsOf data
  have hsame := validated_eqOutside data errors fields
  obtain ⟨enriched, graded, final, hpassed, hwalk⟩ := walk_from_enrich
    ((hsame _ (by decide)).trans hraw) (get?_type_validated ..) (Fields.get?_set_self ..)
    (by simpa using hfew) ((hsame _ (by decide)).trans hreview) h limit session
  rw [walk_to_enrich hraw herrors (by omega) (limit + 3) session, hwalk]
  refine ⟨?_, rfl, rfl, final, rfl, hpassed⟩
  simp [LetsThrough, Walk.after]

theorem fails_or_accepts (hraw : Fields.get? "raw_data" fields = some (textRecord data))
    (hreview : Fields.get? "needs_manual_review" fields = some (.bool false)) (limit : Nat)
    (session : Session) :
    LetsThrough (workflow.walk (limit + 5) (session.holding fields)).events ∧
      ((∃ fault, (workflow.walk (limit + 5) (session.holding fields)).ending = .failed fault) ∨
        Accepts (workflow.walk (limit + 5) (session.holding fields))) := by
  by_cases h : ∃ price, IsMispriced data price
  · obtain ⟨price, hprice⟩ := h
    exact ⟨letsThrough_of_isMispriced hraw hprice (limit + 2) session,
      .inl ⟨_, (failsOn_of_isMispriced hraw hprice (limit + 2) session).1⟩⟩
  · obtain ⟨hlets, haccepts⟩ :=
      accepts_of_not_isMispriced hraw hreview (not_exists.1 h) limit session
    exact ⟨hlets, .inr haccepts⟩

end Walks

/-- No walk with data of texts stops after the validation or comes to a person. Unless it fails or is
cut off, it accepts the data, with two errors at most and a grade of six tenths at least. -/
theorem walk_letsThrough (session : Session) (limit : Nat) {fields : Fields} {data : Texts}
    (hraw : Fields.get? "raw_data" fields = some (textRecord data))
    (hreview : Fields.get? "needs_manual_review" fields = some (.bool false)) :
    ∃ walk, workflow.walk limit (session.holding fields) = walk ∧ LetsThrough walk.events ∧
      ((∃ fault, walk.ending = .failed fault) ∨ limit < 5 ∧ walk.ending = .limitReached ∨
        Accepts walk) := by
  refine ⟨_, rfl, ?_⟩
  have henough (n : Nat) (hn : 5 ≤ n) :
      (workflow.walk n (session.holding fields)).ending ≠ .limitReached := by
    obtain ⟨rest, rfl⟩ := Nat.exists_eq_add_of_le' hn
    obtain ⟨-, ⟨fault, hfailed⟩ | ⟨hfinished, -⟩⟩ := fails_or_accepts hraw hreview rest session
    · simp [hfailed]
    · simp [hfinished]
  obtain ⟨hlets, hends⟩ := fails_or_accepts hraw hreview limit session
  rcases Workflow.same_or_cut henough limit with hsame | ⟨hlimit, hcut, hbegins⟩
  · rw [hsame] at hlets hends
    exact ⟨hlets, hends.imp_right .inr⟩
  · exact ⟨fun event hevent => hlets event (hbegins.subset hevent), .inr (.inl ⟨hlimit, hcut⟩)⟩

def stranger : Texts :=
  [("email", "nowhere"), ("name", "T"), ("email_domain", ""), ("email_provider", "")]

theorem walk_stranger :
    Accepts (workflow.walk 5 (Session.holding { state := .null } (received stranger))) := by
  obtain ⟨walk, rfl, -, ⟨fault, hfailed⟩ | ⟨hlimit, -⟩ | haccepts⟩ :=
    walk_letsThrough { state := .null } 5 (raw_received stranger) rfl
  · have hfinished : (workflow.walk 5
        (Session.holding { state := .null } (received stranger))).ending = .finished := by
      decide +kernel
    cases hfinished.symm.trans hfailed
  · omega
  · exact haccepts

end Workgraph.DataQuality
