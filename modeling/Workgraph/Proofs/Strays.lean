import Workgraph.Proofs.Gateway
import Workgraph.Proofs.Walks

/-!
# Requests that no service serves

A first call for an unknown service is refused, but a call that is sent again succeeds whatever its service is,
and the cache does not look at the service. So a stray request ends with a success if the cache has an
answer for it, or if it was sent before or may be sent again.
-/

namespace Workgraph.Gateway

open Step

private theorem serviceFor_eq_unknown {path : List Char}
    (h : ∀ entry ∈ services, ¬entry.1.toList <+: path) : serviceFor path = "unknown" := by
  have hnone : (services.find? fun entry => entry.1.toList.isPrefixOf path) = none := by
    rw [List.find?_eq_none]
    intro entry hentry
    rw [List.isPrefixOf_iff_prefix]
    exact h entry hentry
  rw [serviceFor, hnone]

/-- The walk comes to its end and leaves this status of the response. -/
def EndsWith (status : Int) (walk : Walk) : Prop :=
  walk.ending = .finished ∧ ∃ final, walk.session.state = .record final ∧
    Fields.get? "response_status" final = some (.int status)

theorem EndsWith.after {status : Int} {walk : Walk} (h : EndsWith status walk) (event : Event) :
    EndsWith status (walk.after event) := h

/-- The status at the end of a stray request that the cache has no answer for. -/
def strayStatus (tries most : Int) (circuit : Bool) : Int :=
  if 0 < tries ∨ 0 < most ∧ circuit = false then 200 else 503

section Rounds

variable {session : Session} {fields : Fields} {tries most : Int} {circuit : Bool}

theorem endsWith_terminal (h : Fields.get? "response_status" fields = some (.int 200)) (limit : Nat)
    (session : Session) :
    EndsWith 200 (workflow.walkFrom limit terminal (session.holding fields)) := by
  rw [Workflow.walkFrom_terminal]
  exact ⟨rfl, fields, rfl, h⟩

private theorem endsWith_error {message : String}
    (h : Fields.get? "error_message" fields = some (.text message)) (limit : Nat) (session : Session) :
    EndsWith 503 (workflow.walkFrom (limit + 1) "error" (session.holding fields)) := by
  obtain ⟨told, hrun, hstatus, -⟩ := exists_reportError h session
  rw [Workflow.walkFrom_edge (by decide) rfl hrun rfl rfl, Workflow.walkFrom_terminal]
  exact ⟨rfl, told, rfl, hstatus⟩

private theorem exists_callService_again (h : IsAttempt fields tries most circuit) (htries : 0 < tries)
    (session : Session) : ∃ answered, callService (session.holding fields) =
      .ok () (session.holding answered) ∧
      Fields.get? "response_status" answered = some (.int 200) := by
  obtain ⟨service, hservice⟩ := h.service
  obtain ⟨v, hwhole, hread⟩ := exists_read_whole h.tries session
  simp only [callService, bind_apply, read_holding hservice, hread, Value.greater_int hwhole,
    liftM_ok, pure_apply, decide_eq_true htries, if_true]
  refine ⟨_, rfl, ?_⟩
  simp [Fields.get?_set]

def refused (fields : Fields) : Fields :=
  Fields.set "error_message" "Service not found" (Fields.set "response_status" (.int 404) fields)

private theorem callService_first (h : IsAttempt fields tries most circuit) (htries : ¬0 < tries)
    (hservice : Fields.get? "target_service" fields = some (.text "unknown")) (session : Session) :
    callService (session.holding fields) = .ok () (session.holding (refused fields)) := by
  obtain ⟨v, hwhole, hread⟩ := exists_read_whole h.tries session
  have hunknown : (Value.text "unknown").isIn (.text "unknown") = .ok true := by decide
  simp only [callService, bind_apply, read_holding hservice, hread, Value.greater_int hwhole,
    liftM_ok, pure_apply, decide_eq_false htries, hunknown]
  rfl

/-- One round of a stray request. The call succeeds, or the breaker ends the walk, or the request is sent
again. -/
theorem endsWith_round (h : IsAttempt fields tries most circuit)
    (hservice : Fields.get? "target_service" fields = some (.text "unknown")) {limit : Nat}
    (hretry : ¬0 < tries → tries < most → ∀ failed, IsAttempt failed tries most false →
      Fields.get? "target_service" failed = some (.text "unknown") →
      EndsWith (strayStatus tries most false)
        (workflow.walkFrom (limit + 1) "retry" (session.holding failed))) :
    EndsWith (strayStatus tries most circuit)
      (workflow.walkFrom (limit + 3) "primary" (session.holding fields)) := by
  by_cases htries : 0 < tries
  · obtain ⟨answered, hcall, hstatus⟩ := exists_callService_again h htries session
    have hroute := routeAfterCall_holding hstatus session
    rw [Workflow.walkFrom_branching (by decide) rfl hcall rfl hroute rfl, strayStatus,
      if_pos (.inl htries)]
    exact ((endsWith_terminal hstatus _ _).after _).after _
  · have hcall := callService_first h htries hservice session
    have hrefused : IsAttempt (refused fields) tries most circuit :=
      (h.set (by decide) _).set (by decide) _
    have hstatus : Fields.get? "response_status" (refused fields) = some (.int 404) := by
      simp [refused, Fields.get?_set]
    have hroute := routeAfterCall_holding hstatus session
    obtain ⟨checked, hcheck, hchecked, hkeep⟩ := exists_checkCircuit hrefused session
    have hbranch := routeAfterCircuit_holding hchecked (fun hspent => by simp [hspent]) session
    rw [Workflow.walkFrom_branching (by decide) rfl hcall rfl hroute rfl]
    apply EndsWith.after
    apply EndsWith.after
    cases hopen : circuit || decide (most ≤ tries) with
    | true =>
        rw [hopen] at hbranch
        have hmessage : Fields.get? "error_message" checked = some (.text "Service not found") := by
          rw [hkeep _ (by decide)]
          simp [refused]
        have hfails : ¬(0 < tries ∨ 0 < most ∧ circuit = false) := by
          cases circuit with
          | true => simp [htries]
          | false =>
              have hspent : most ≤ tries := by simpa using hopen
              omega
        rw [Workflow.walkFrom_branching (by decide) rfl hcheck rfl hbranch rfl, strayStatus,
          if_neg hfails]
        exact ((endsWith_error hmessage limit session).after _).after _
    | false =>
        rw [hopen] at hbranch hchecked
        rw [Bool.or_eq_false_iff, decide_eq_false_iff_not, Int.not_le] at hopen
        have hstray : Fields.get? "target_service" checked = some (.text "unknown") := by
          rw [hkeep _ (by decide)]
          simpa [refused, Fields.get?_set] using hservice
        rw [Workflow.walkFrom_branching (by decide) rfl hcheck rfl hbranch rfl, hopen.1]
        exact ((hretry htries hopen.2 checked hchecked hstray).after _).after _

/-- From the call on, by induction on the retries that are left. -/
theorem endsWith_primary (session : Session) (n : Nat) {limit : Nat}
    (h : IsAttempt fields tries most circuit)
    (hservice : Fields.get? "target_service" fields = some (.text "unknown"))
    (hleft : (min most 1 - tries).toNat ≤ n) (hlimit : 3 * n + 3 ≤ limit) :
    EndsWith (strayStatus tries most circuit)
      (workflow.walkFrom limit "primary" (session.holding fields)) := by
  induction n generalizing fields tries circuit limit with
  | zero =>
      obtain ⟨rest, rfl⟩ := Nat.exists_eq_add_of_le' hlimit
      apply endsWith_round h hservice
      intro hfirst hmore
      omega
  | succ n ih =>
      obtain ⟨rest, rfl⟩ : ∃ rest, limit = rest + 3 := ⟨limit - 3, by omega⟩
      apply endsWith_round h hservice
      intro hfirst hmore failed hattempt hstray
      obtain ⟨again, hrun, hagain, hkeep⟩ := exists_retry hattempt session
      -- the status is decided before the retry: it is a success if any retry can make it one
      have hstatus : strayStatus tries most false = strayStatus (tries + 1) most false := by
        unfold strayStatus
        by_cases hmost : 0 < most
        · simp [hmost]
        · have hstill : ¬0 < tries + 1 := by omega
          simp [hmost, hfirst, hstill]
      rw [Workflow.walkFrom_edge (by decide) rfl hrun rfl rfl, hstatus]
      apply EndsWith.after
      apply ih hagain
      · rw [hkeep _ (by decide), hstray]
      · omega
      · omega

end Rounds

/-- A request whose path is not that of a service. -/
structure IsStray (fields : Fields) (path method : String) (tries most : Int) (circuit : Bool) :
    Prop where
  unserved : ∀ start ∈ ["/api/users", "/api/products", "/api/orders"],
    ¬start.toList <+: path.toList
  path : Fields.get? "request_path" fields = some (.text path)
  method : Fields.get? "request_method" fields = some (.text method)
  tries : (Fields.get? "retry_count" fields).bind Value.whole? = some tries
  most : (Fields.get? "max_retries" fields).bind Value.whole? = some most
  circuit : Fields.get? "circuit_open" fields = some (.bool circuit)

section Walks

variable {fields : Fields} {path method : String} {tries most : Int} {circuit : Bool}

theorem IsStray.isAttempt (h : IsStray fields path method tries most circuit) (service : String) :
    IsAttempt (Fields.set "target_service" service fields) tries most circuit where
  service := ⟨service, Fields.get?_set_self ..⟩
  tries := by simpa [Fields.get?_set] using h.tries
  most := by simpa [Fields.get?_set] using h.most
  circuit := by simpa [Fields.get?_set] using h.circuit

private theorem IsStray.serviceFor_path (h : IsStray fields path method tries most circuit) :
    serviceFor path.toList = "unknown" := by
  apply serviceFor_eq_unknown
  have hunserved := h.unserved
  simpa [services] using hunserved

theorem endsWith_walk (h : IsStray fields path method tries most circuit) {limit : Nat}
    (hlimit : 5 + 3 * (min most 1 - tries).toNat ≤ limit) (session : Session) :
    ∃ hit : Bool, (hit = true ↔ IsCached path method) ∧
      EndsWith (if hit then 200 else strayStatus tries most circuit)
        (workflow.walk limit (session.holding fields)) := by
  obtain ⟨rest, rfl⟩ : ∃ rest, limit = rest + 2 := ⟨limit - 2, by omega⟩
  have hroute := routeRequest_holding h.path session
  rw [h.serviceFor_path] at hroute
  obtain ⟨looked, hit, hlook, hlooked, hkeep, hcache, hstatus, hcached⟩ :=
    looksUp_checkCache (h.isAttempt "unknown") (by simpa [Fields.get?_set] using h.path)
      (by simpa [Fields.get?_set] using h.method) session
  have hbranch := routeAfterCache_holding hcache session
  refine ⟨hit, hcached, ?_⟩
  show EndsWith _ (workflow.walkFrom (rest + 2) "route" _)
  rw [Workflow.walkFrom_edge (by decide) rfl hroute rfl rfl]
  apply EndsWith.after
  cases hit with
  | true =>
      rw [Workflow.walkFrom_branching (by decide) rfl hlook rfl hbranch rfl]
      exact ((endsWith_terminal (hstatus rfl) _ _).after _).after _
  | false =>
      have hservice : Fields.get? "target_service" looked = some (.text "unknown") := by
        rw [hkeep _ (by decide), Fields.get?_set_self]
      have hprimary := endsWith_primary session _ hlooked hservice (Nat.le_refl _)
        (by omega : _ ≤ rest)
      rw [Workflow.walkFrom_branching (by decide) rfl hlook rfl hbranch rfl]
      exact (hprimary.after _).after _

end Walks

/-- A walk of a request that no service serves is cut off or ends with status 200 or 503. The request is
answered as a success exactly if the cache has an answer for its path, or it was sent again before, or
it may be sent again and the circuit is not open. -/
theorem walk_isStray_status_iff (session : Session) (limit : Nat) {fields : Fields} {path method : String}
    {tries most : Int} {circuit : Bool} (h : IsStray fields path method tries most circuit) :
    ∃ walk, workflow.walk limit (session.holding fields) = walk ∧
      (limit < 5 + 3 * max 0 (min most 1 - tries) ∧ walk.ending = .limitReached ∨
        ∃ status, EndsWith status walk ∧ (status = 200 ∨ status = 503) ∧
          (status = 200 ↔ IsCached path method ∨ 0 < tries ∨ 0 < most ∧ circuit = false)) := by
  have hends (walk : Walk) : (∃ hit : Bool, (hit = true ↔ IsCached path method) ∧
      EndsWith (if hit then 200 else strayStatus tries most circuit) walk) →
        walk.ending ≠ .limitReached := by
    rintro ⟨hit, -, hfinished, -⟩
    simp [hfinished]
  refine ⟨_, rfl, ?_⟩
  rcases Workflow.cut_or_of_enough hends (fun n hn => endsWith_walk h hn session) limit with
    ⟨hlimit, hcut⟩ | ⟨hit, hcached, hend⟩
  · left
    exact ⟨by omega, hcut⟩
  · right
    refine ⟨_, hend, ?_⟩
    rw [← hcached]
    unfold strayStatus
    cases hit with
    | true => simp
    | false =>
        by_cases hsent : 0 < tries ∨ 0 < most ∧ circuit = false
        · simp [hsent]
        · simp [hsent]

def spentRequest : Fields := [
  ("request_path", "/lost"), ("request_method", "GET"), ("retry_count", .int 0),
  ("max_retries", .int 0), ("circuit_open", false)]

private theorem isStray_spentRequest : IsStray spentRequest "/lost" "GET" 0 0 false :=
  ⟨by decide, rfl, rfl, rfl, rfl, rfl⟩

theorem walk_spentRequest :
    EndsWith 503 (workflow.walk 5 (Session.holding { state := .null } spentRequest)) := by
  have hmiss : ¬IsCached "/lost" "GET" := by
    unfold IsCached
    decide
  obtain ⟨walk, rfl, ⟨hlimit, -⟩ | ⟨status, hend, hstatus, hsuccess⟩⟩ :=
    walk_isStray_status_iff { state := .null } 5 isStray_spentRequest
  · omega
  · have hfails : status ≠ 200 := by
      rw [ne_eq, hsuccess]
      simp [hmiss]
    rcases hstatus with rfl | rfl
    · exact absurd rfl hfails
    · exact hend

def repeatedRequest : Fields := [
  ("request_path", "/lost"), ("request_method", "POST"), ("request_body", ""), ("target_service", ""),
  ("retry_count", .int 0), ("max_retries", .int 1), ("response_status", .int 0), ("response_body", ""),
  ("error_message", ""), ("use_cache", false), ("use_fallback", false), ("circuit_open", false)]

/-- A stray request that is sent again after it has been refused is answered as a success. -/
theorem walk_repeatedRequest : IsStray repeatedRequest "/lost" "POST" 0 1 false ∧
    EndsWith 200 (workflow.walk 8 (Session.holding { state := .null } repeatedRequest)) := by
  have hstray : IsStray repeatedRequest "/lost" "POST" 0 1 false :=
    ⟨by decide, rfl, rfl, rfl, rfl, rfl⟩
  obtain ⟨hit, -, hend⟩ := endsWith_walk hstray (by decide : _ ≤ 8) { state := .null }
  refine ⟨hstray, ?_⟩
  cases hit <;> exact hend

end Workgraph.Gateway
