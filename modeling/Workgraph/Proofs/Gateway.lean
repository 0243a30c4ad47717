import Workgraph.Proofs.Numbers
import Workgraph.Proofs.Steps
import Workgraph.Workflows.Gateway

/-!
# The retry loop of the gateway

A call that fails is sent again only while retries are left, and a call that is sent again succeeds. So the
loop is left after a few rounds, and the circuit breaker, which opens when no retries are left,
keeps every request from the fallback.
-/

namespace Workgraph.Gateway

open Step

/-- A request whose service is known and which has been sent again so many times. -/
structure IsAttempt (fields : Fields) (tries most : Int) (circuit : Bool) : Prop where
  service : ∃ name, Fields.get? "target_service" fields = some (.text name)
  tries : (Fields.get? "retry_count" fields).bind Value.whole? = some tries
  most : (Fields.get? "max_retries" fields).bind Value.whole? = some most
  circuit : Fields.get? "circuit_open" fields = some (.bool circuit)

namespace IsAttempt

variable {fields : Fields} {tries most : Int} {circuit : Bool}

def names : List String := ["target_service", "retry_count", "max_retries", "circuit_open"]

theorem set (h : IsAttempt fields tries most circuit) {key : String} (hkey : key ∉ names)
    (value : Value) : IsAttempt (Fields.set key value fields) tries most circuit where
  service := by
    rw [Fields.get?_set_of_mem hkey (by decide)]
    exact h.service
  tries := by
    rw [Fields.get?_set_of_mem hkey (by decide)]
    exact h.tries
  most := by
    rw [Fields.get?_set_of_mem hkey (by decide)]
    exact h.most
  circuit := (Fields.get?_set_of_mem hkey (by decide) _ _).trans h.circuit

theorem set_tries (h : IsAttempt fields tries most circuit) (n : Int) :
    IsAttempt (Fields.set "retry_count" (.int n) fields) n most circuit where
  service := by simpa [Fields.get?_set] using h.service
  tries := by simp [Value.whole?]
  most := by simpa [Fields.get?_set] using h.most
  circuit := by simpa [Fields.get?_set] using h.circuit

private theorem set_circuit (h : IsAttempt fields tries most circuit) (b : Bool) :
    IsAttempt (Fields.set "circuit_open" (.bool b) fields) tries most b where
  service := by simpa [Fields.get?_set] using h.service
  tries := by simpa [Fields.get?_set] using h.tries
  most := by simpa [Fields.get?_set] using h.most
  circuit := by simp

end IsAttempt

/-- What a call leaves: a success, or a failure of a first call. -/
inductive Answered (fields : Fields) (tries : Int) : Prop
  | success (h : Fields.get? "response_status" fields = some (.int 200))
  | failure (htries : tries ≤ 0) (status : Int) (hstatus : status ≠ 200)
      (h : Fields.get? "response_status" fields = some (.int status)) (message : String)
      (hmessage : Fields.get? "error_message" fields = some (.text message))

/-- The call answers the request and leaves the rest of what the loop reads. -/
def Responds (call : Step Unit) (fields : Fields) (tries most : Int) (circuit : Bool) : Prop :=
  ∀ session : Session, ∃ later answered,
    call (session.holding fields) = .ok () (Session.holding later answered) ∧
      IsAttempt answered tries most circuit ∧ Answered answered tries ∧
      Fields.get? "use_fallback" answered = Fields.get? "use_fallback" fields

section Nodes

variable {session : Session} {fields : Fields} {tries most : Int} {circuit : Bool}

theorem responds_succeed (h : IsAttempt fields tries most circuit) (service : String) :
    Responds (succeed service) fields tries most circuit := by
  intro session
  refine ⟨session, _, rfl, (h.set (by decide) _).set (by decide) _, .success ?_, ?_⟩ <;>
    simp [Fields.get?_set]

theorem responds_refuse (h : IsAttempt fields tries most circuit) (htries : tries ≤ 0)
    {status : Int} (hstatus : status ≠ 200) (message : String) :
    Responds (refuse status message) fields tries most circuit := by
  intro session
  refine ⟨session, _, rfl, (h.set (by decide) _).set (by decide) _,
    .failure htries status hstatus ?_ message ?_, ?_⟩ <;> simp [Fields.get?_set]

theorem Responds.draw {call : Float → Step Unit}
    (h : ∀ x, Responds (call x) fields tries most circuit) :
    Responds (drawRandom >>= call) fields tries most circuit :=
  fun session => h (session.supply.randoms.headD 0)
    { session with supply := { session.supply with randoms := session.supply.randoms.tail } }

private theorem responds_callService (h : IsAttempt fields tries most circuit) :
    Responds callService fields tries most circuit := by
  intro session
  obtain ⟨service, hservice⟩ := h.service
  obtain ⟨v, hwhole, hread⟩ := exists_read_whole h.tries session
  simp only [callService, bind_apply, read_holding hservice, hread, Value.greater_int hwhole,
    liftM_ok, pure_apply, pure_bind, decide_eq_true_eq, Value.isIn]
  split <;> rename_i htries
  · exact responds_succeed h _ session
  have hfirst : tries ≤ 0 := Int.not_lt.1 htries
  split
  · exact responds_refuse h hfirst (by decide) _ session
  · apply Responds.draw
    intro x
    split
    · exact responds_refuse h hfirst (by decide) _
    · exact responds_succeed h _

theorem routeAfterCall_holding {status : Int}
    (h : Fields.get? "response_status" fields = some (.int status)) (session : Session) :
    routeAfterCall (session.holding fields) =
      .ok (.text (if status = 200 then terminal else "check_circuit")) (session.holding fields) := by
  have hsame : (Value.int status).same (.int 200) = decide (status = 200) := Value.same_int rfl 200
  simp only [routeAfterCall, bind_apply, read_holding h, hsame, decide_eq_true_eq]
  split <;> rfl

theorem exists_checkCircuit (h : IsAttempt fields tries most circuit) (session : Session) :
    ∃ checked, checkCircuit (session.holding fields) = .ok () (session.holding checked) ∧
      IsAttempt checked tries most (circuit || decide (most ≤ tries)) ∧
      ∀ key ≠ "circuit_open", Fields.get? key checked = Fields.get? key fields := by
  obtain ⟨v, hwhole, hread⟩ := exists_read_whole h.tries session
  obtain ⟨w, hmost, hreadMost⟩ := exists_read_whole h.most session
  simp only [checkCircuit, bind_apply, hread, hreadMost, Value.atLeast,
    Value.atMost_of_whole? hmost hwhole, liftM_ok, pure_apply, decide_eq_true_eq]
  split <;> rename_i hspent
  · refine ⟨_, rfl, ?_, ?_⟩
    · rw [decide_eq_true hspent, Bool.or_true]
      exact h.set_circuit true
    · intro key hkey
      exact Fields.get?_set_of_ne _ (Ne.symm hkey) _
  · refine ⟨fields, rfl, ?_, fun _ _ => rfl⟩
    rwa [decide_eq_false hspent, Bool.or_false]

/-- The breaker has opened the circuit if no retries are left, so the fallback is never chosen. -/
theorem routeAfterCircuit_holding (h : IsAttempt fields tries most circuit)
    (hspent : most ≤ tries → circuit = true) (session : Session) :
    routeAfterCircuit (session.holding fields) =
      .ok (.text (if circuit then "error" else "retry")) (session.holding fields) := by
  obtain ⟨v, hwhole, hread⟩ := exists_read_whole h.tries session
  obtain ⟨w, hmost, hreadMost⟩ := exists_read_whole h.most session
  simp only [routeAfterCircuit, bind_apply, isSet_of_read (read_holding h.circuit session),
    Value.truthy]
  cases circuit with
  | true => rfl
  | false =>
      have hleft : tries < most := Int.not_le.1 fun hle => Bool.noConfusion (hspent hle)
      simp only [Bool.false_eq_true, if_false, bind_apply, hread, hreadMost,
        Value.less_of_whole? hwhole hmost, liftM_ok, pure_apply, decide_eq_true hleft, if_true]

theorem exists_retry (h : IsAttempt fields tries most circuit) (session : Session) :
    ∃ again, retry (session.holding fields) = .ok () (session.holding again) ∧
      IsAttempt again (tries + 1) most circuit ∧
      ∀ key ≠ "retry_count", Fields.get? key again = Fields.get? key fields := by
  obtain ⟨v, hwhole, hread⟩ := exists_read_whole h.tries session
  have hadd : v.add (.int 1) = .ok (.int (tries + 1)) := Value.add_of_whole? hwhole rfl
  refine ⟨Fields.set "retry_count" (.int (tries + 1)) fields, ?_, h.set_tries _, ?_⟩
  · simp only [retry, increment, addTo, bind_apply, hread, pure_apply, hadd, liftM_ok,
      write_holding]
  · intro key hkey
    exact Fields.get?_set_of_ne _ (Ne.symm hkey) _

theorem exists_reportError {message : String}
    (h : Fields.get? "error_message" fields = some (.text message)) (session : Session) :
    ∃ told, reportError (session.holding fields) = .ok () (session.holding told) ∧
      Fields.get? "response_status" told = some (.int 503) ∧
      ∀ key, key ≠ "response_status" → key ≠ "response_body" →
        Fields.get? key told = Fields.get? key fields := by
  have hmessage : Fields.get? "error_message"
      (Fields.set "response_status" (.int 503) fields) = some (.text message) := by
    rw [Fields.get?_set_of_ne _ (by decide), h]
  simp only [reportError, bind_apply, write_holding, read_holding hmessage]
  refine ⟨_, rfl, by simp [Fields.get?_set], ?_⟩
  intro key hstatus hbody
  rw [Fields.get?_set_of_ne _ (Ne.symm hbody), Fields.get?_set_of_ne _ (Ne.symm hstatus)]

end Nodes

/-- How the walk of a request ends that starts with so many tries: after a few retries, without the
fallback, and with a failure only if the error was reported. -/
structure Handled (walk : Walk) (tries : Int) (bound : Nat) (fallback : Option Value) : Prop where
  finished : walk.ending = .finished
  no_fallback : "fallback" ∉ walk.visited
  retries : walk.visited.count "retry" ≤ bound
  leaves : ∃ final, walk.session.state = .record final ∧
    (Fields.get? "retry_count" final).bind Value.whole? =
      some (tries + walk.visited.count "retry") ∧
    Fields.get? "use_fallback" final = fallback ∧
    Fields.get? "response_status" final =
      some (.int (if "error" ∈ walk.visited then 503 else 200))

namespace Handled

variable {walk : Walk} {tries : Int} {bound : Nat} {fallback : Option Value}

theorem after_router (h : Handled walk tries bound fallback) (name : String)
    (answer : Option Value) (fault : Option Fault) (state : Value) :
    Handled (walk.after ⟨.router name, answer, fault, state⟩) tries bound fallback :=
  ⟨h.finished, h.no_fallback, h.retries, h.leaves⟩

theorem after_node (h : Handled walk tries bound fallback) {name : String}
    (hname : name ∉ ["retry", "fallback", "error"]) (answer : Option Value)
    (fault : Option Fault) (state : Value) :
    Handled (walk.after ⟨.node name, answer, fault, state⟩) tries bound fallback := by
  simp only [List.mem_cons, List.not_mem_nil, or_false, not_or] at hname
  obtain ⟨hretry, hfallback, herror⟩ := hname
  have hcount : (walk.after ⟨.node name, answer, fault, state⟩).visited.count "retry" =
      walk.visited.count "retry" := by
    rw [Walk.visited_after_node, List.count_cons_of_ne hretry]
  have hmem : "error" ∈ (walk.after ⟨.node name, answer, fault, state⟩).visited ↔
      "error" ∈ walk.visited := by
    simp [Walk.visited_after_node, Ne.symm herror]
  refine ⟨h.finished, ?_, ?_, ?_⟩
  · simpa [Walk.visited_after_node, Ne.symm hfallback] using h.no_fallback
  · rw [hcount]
    exact h.retries
  · simp only [hcount, hmem]
    exact h.leaves

private theorem after_retry (h : Handled walk (tries + 1) bound fallback) (answer : Option Value)
    (fault : Option Fault) (state : Value) :
    Handled (walk.after ⟨.node "retry", answer, fault, state⟩) tries (bound + 1) fallback := by
  have hcount : (walk.after ⟨.node "retry", answer, fault, state⟩).visited.count "retry" =
      walk.visited.count "retry" + 1 := by
    rw [Walk.visited_after_node, List.count_cons_self]
  have hmem : "error" ∈ (walk.after ⟨.node "retry", answer, fault, state⟩).visited ↔
      "error" ∈ walk.visited := by
    simp [Walk.visited_after_node]
  obtain ⟨final, hstate, htries, hrest⟩ := h.leaves
  refine ⟨h.finished, ?_, ?_, final, hstate, ?_, ?_⟩
  · simpa [Walk.visited_after_node] using h.no_fallback
  · rw [hcount]
    exact Nat.succ_le_succ h.retries
  · rw [htries, hcount]
    congr 1
    omega
  · simp only [hmem]
    exact hrest

end Handled

section Rounds

variable {session : Session} {fields : Fields} {tries most : Int} {circuit : Bool}

theorem handled_terminal (limit : Nat)
    (htries : (Fields.get? "retry_count" fields).bind Value.whole? = some tries)
    (hstatus : Fields.get? "response_status" fields = some (.int 200)) (bound : Nat) :
    Handled (workflow.walkFrom limit terminal (session.holding fields)) tries bound
      (Fields.get? "use_fallback" fields) := by
  rw [Workflow.walkFrom_terminal]
  refine ⟨rfl, List.not_mem_nil, Nat.zero_le _, fields, rfl, ?_, rfl, hstatus⟩
  simpa [Walk.visited] using htries

private theorem handled_error (limit : Nat)
    (htries : (Fields.get? "retry_count" fields).bind Value.whole? = some tries) {message : String}
    (hmessage : Fields.get? "error_message" fields = some (.text message)) (session : Session)
    (bound : Nat) :
    Handled (workflow.walkFrom (limit + 1) "error" (session.holding fields)) tries bound
      (Fields.get? "use_fallback" fields) := by
  obtain ⟨told, hrun, hstatus, hkeep⟩ := exists_reportError hmessage session
  rw [Workflow.walkFrom_edge (by decide) rfl hrun rfl rfl, Workflow.walkFrom_terminal]
  refine ⟨rfl, by simp [Walk.visited, Walk.after], Nat.zero_le _, told, rfl, ?_,
    hkeep _ (by decide) (by decide), ?_⟩
  · rw [hkeep _ (by decide) (by decide), htries]
    simp [Walk.visited, Walk.after]
  · rw [hstatus]
    simp [Walk.visited, Walk.after]

/-- One round. The call ends the walk, or the breaker ends it, or the request is to be sent again, and
then it was a first call with retries left. -/
theorem handled_round (h : IsAttempt fields tries most circuit) {limit bound : Nat}
    (hretry : ∀ {later : Session} {failed : Fields}, IsAttempt failed tries most false →
      tries ≤ 0 → tries < most →
      Fields.get? "use_fallback" failed = Fields.get? "use_fallback" fields →
      Handled (workflow.walkFrom (limit + 1) "retry" (later.holding failed)) tries bound
        (Fields.get? "use_fallback" fields)) :
    Handled (workflow.walkFrom (limit + 3) "primary" (session.holding fields)) tries bound
      (Fields.get? "use_fallback" fields) := by
  obtain ⟨later, answered, hcall, hattempt, hanswered, hfallback⟩ := responds_callService h session
  rw [← hfallback]
  cases hanswered with
  | success hstatus =>
      have hroute := routeAfterCall_holding hstatus later
      rw [Workflow.walkFrom_branching (by decide) rfl hcall rfl hroute rfl]
      exact ((handled_terminal _ hattempt.tries hstatus _).after_router ..).after_node
        (by decide) ..
  | failure hfirst status hne hstatus message hmessage =>
      have hroute := routeAfterCall_holding hstatus later
      rw [if_neg hne] at hroute
      obtain ⟨checked, hcheck, hchecked, hkeep⟩ := exists_checkCircuit hattempt later
      have hbranch := routeAfterCircuit_holding hchecked
        (fun hspent => by simp [hspent]) later
      rw [Workflow.walkFrom_branching (by decide) rfl hcall rfl hroute rfl]
      apply Handled.after_node _ (by decide)
      apply Handled.after_router
      -- the check has closed the way to the fallback: the circuit is open or a retry is left
      cases hopen : circuit || decide (most ≤ tries) with
      | true =>
          rw [hopen] at hbranch
          rw [Workflow.walkFrom_branching (by decide) rfl hcheck rfl hbranch rfl,
            ← hkeep "use_fallback" (by decide)]
          have herror := handled_error limit hchecked.tries
            ((hkeep "error_message" (by decide)).trans hmessage) later bound
          exact (herror.after_router ..).after_node (by decide) ..
      | false =>
          rw [hopen] at hbranch hchecked
          rw [Bool.or_eq_false_iff, decide_eq_false_iff_not, Int.not_le] at hopen
          have hkept := hkeep "use_fallback" (by decide)
          rw [Workflow.walkFrom_branching (by decide) rfl hcheck rfl hbranch rfl, hfallback]
          exact ((hretry hchecked hfirst hopen.2 (hkept.trans hfallback)).after_router ..).after_node
            (by decide) ..

/-- From the call on, by induction on the retries that are left: a round ends the walk or takes one of
them. -/
theorem handled_primary (n : Nat) : ∀ {session : Session} {fields : Fields} {tries : Int}
    {circuit : Bool} {limit : Nat}, IsAttempt fields tries most circuit →
      (min most 1 - tries).toNat ≤ n → 3 * n + 3 ≤ limit →
      Handled (workflow.walkFrom limit "primary" (session.holding fields)) tries n
        (Fields.get? "use_fallback" fields) := by
  induction n with
  | zero =>
      intro session fields tries circuit limit h hleft hlimit
      obtain ⟨rest, rfl⟩ := Nat.exists_eq_add_of_le' hlimit
      apply handled_round h
      intro later failed hattempt hfirst hmore
      -- a first call with retries left has a measure of at least one
      omega
  | succ n ih =>
      intro session fields tries circuit limit h hleft hlimit
      obtain ⟨rest, rfl⟩ : ∃ rest, limit = rest + 3 := ⟨limit - 3, by omega⟩
      apply handled_round h
      intro later failed hattempt hfirst hmore hfallback
      obtain ⟨again, hrun, hagain, hkeep⟩ := exists_retry hattempt later
      rw [Workflow.walkFrom_edge (by decide) rfl hrun rfl rfl, ← hfallback,
        ← hkeep "use_fallback" (by decide)]
      exact (ih hagain (by omega) (by omega)).after_retry ..

/-- A request: its path and method are texts, its retries are counted in whole numbers. -/
structure IsRequest (fields : Fields) (tries most : Int) : Prop where
  path : ∃ path, Fields.get? "request_path" fields = some (.text path)
  method : ∃ method, Fields.get? "request_method" fields = some (.text method)
  tries : (Fields.get? "retry_count" fields).bind Value.whole? = some tries
  most : (Fields.get? "max_retries" fields).bind Value.whole? = some most
  circuit : ∃ circuit, Fields.get? "circuit_open" fields = some (.bool circuit)

theorem routeRequest_holding {path : String}
    (hpath : Fields.get? "request_path" fields = some (.text path)) (session : Session) :
    routeRequest (session.holding fields) = .ok () (session.holding
      (Fields.set "target_service" (.text (serviceFor path.toList)) fields)) := by
  simp only [routeRequest, bind_apply, read_holding hpath, Value.chars, liftM_ok, pure_apply,
    write_holding]

theorem IsRequest.isAttempt (h : IsRequest fields tries most) (service : String) :
    ∃ circuit, IsAttempt (Fields.set "target_service" service fields) tries most circuit := by
  obtain ⟨circuit, hcircuit⟩ := h.circuit
  exact ⟨circuit, ⟨service, Fields.get?_set_self ..⟩, by simpa [Fields.get?_set] using h.tries,
    by simpa [Fields.get?_set] using h.most, by simpa [Fields.get?_set] using hcircuit⟩

/-- The cache has an answer for a reading request whose path asks for a list or for one thing. -/
def IsCached (path method : String) : Prop :=
  method = "GET" ∧ ("list".toList <:+: path.toList ∨ "get".toList <:+: path.toList)

/-- The look gives an answer if there is one in the cache, and leaves the rest of the request. -/
def LooksUp (look : Step Unit) (fields : Fields) (tries most : Int) (circuit : Bool) (cached : Prop) :
    Prop :=
  ∀ session : Session, ∃ looked hit,
    look (session.holding fields) = .ok () (session.holding looked) ∧
      IsAttempt looked tries most circuit ∧
      Fields.EqOutside ["use_cache", "response_status", "response_body"] fields looked ∧
      Fields.get? "use_cache" looked = some (.bool hit) ∧
      (hit = true → Fields.get? "response_status" looked = some (.int 200)) ∧
      (hit = true ↔ cached)

theorem looksUp_miss (h : IsAttempt fields tries most circuit) {cached : Prop} (hnot : ¬cached) :
    LooksUp (write "use_cache" false) fields tries most circuit cached := by
  intro session
  refine ⟨_, false, rfl, h.set (by decide) _, ?_, ?_, ?_, ?_⟩
  · exact (Fields.EqOutside.refl _ _).set (by decide) _
  · simp
  · simp
  · simp [hnot]

theorem looksUp_checkCache (h : IsAttempt fields tries most circuit) {path method : String}
    (hpath : Fields.get? "request_path" fields = some (.text path))
    (hmethod : Fields.get? "request_method" fields = some (.text method)) :
    LooksUp checkCache fields tries most circuit (IsCached path method) := by
  intro session
  obtain ⟨service, hservice⟩ := h.service
  have hpart (part : String) : (do (Value.text part).isIn (← read "request_path") : Step Bool)
      (session.holding fields) =
      .ok (Text.occurs part.toList path.toList) (session.holding fields) := by
    simp only [bind_apply, read_holding hpath, Value.isIn, liftM_ok, pure_apply]
  have hservice' : Fields.get? "target_service" (Fields.set "response_status" (.int 200)
      (Fields.set "use_cache" (.bool true) fields)) = some (.text service) := by
    simpa [Fields.get?_set] using hservice
  simp only [checkCache, bind_apply, holds_of_read (read_holding hmethod session), beq_iff_eq]
  split <;> rename_i hget
  · simp only [bind_apply, read_holding hservice, read_holding hpath,
      either_of_ok (hpart "list") (hpart "get"), Bool.or_eq_true, Text.occurs_iff_infix]
    split <;> rename_i hasks
    · simp only [bind_apply, write_holding, read_holding hservice']
      refine ⟨_, true, rfl, ((h.set (by decide) _).set (by decide) _).set (by decide) _, ?_, ?_, ?_, ?_⟩
      · exact (((Fields.EqOutside.refl _ _).set (by decide) _).set (by decide) _).set (by decide) _
      · simp [Fields.get?_set]
      · simp [Fields.get?_set]
      · exact iff_of_true rfl ⟨hget, hasks⟩
    · exact looksUp_miss h (fun hcached => hasks hcached.2) session
  · exact looksUp_miss h (fun hcached => hget hcached.1) session

theorem routeAfterCache_holding {hit : Bool}
    (h : Fields.get? "use_cache" fields = some (.bool hit)) (session : Session) :
    routeAfterCache (session.holding fields) =
      .ok (.text (if hit then terminal else "primary")) (session.holding fields) := by
  simp only [routeAfterCache, bind_apply, isSet_of_read (read_holding h session), Value.truthy]
  cases hit <;> rfl

private theorem handled_walk (h : IsRequest fields tries most) {n limit : Nat}
    (hleft : (min most 1 - tries).toNat ≤ n) (hlimit : 3 * n + 5 ≤ limit) (session : Session) :
    Handled (workflow.walk limit (session.holding fields)) tries n
      (Fields.get? "use_fallback" fields) := by
  obtain ⟨rest, rfl⟩ : ∃ rest, limit = rest + 2 := ⟨limit - 2, by omega⟩
  obtain ⟨path, hpath⟩ := h.path
  have hroute := routeRequest_holding hpath session
  obtain ⟨circuit, hattempt⟩ := h.isAttempt (serviceFor path.toList)
  obtain ⟨method, hmethod⟩ := h.method
  obtain ⟨looked, hit, hlook, hlooked, hkeep, hcache, hstatus, -⟩ :=
    looksUp_checkCache hattempt (by simpa [Fields.get?_set] using hpath)
      (by simpa [Fields.get?_set] using hmethod) session
  have hbranch := routeAfterCache_holding hcache session
  have hfallback := hkeep "use_fallback" (by decide)
  rw [Fields.get?_set_of_ne _ (by decide)] at hfallback
  rw [← hfallback]
  change Handled (workflow.walkFrom (rest + 2) "route" _) _ _ _
  rw [Workflow.walkFrom_edge (by decide) rfl hroute rfl rfl]
  apply Handled.after_node _ (by decide)
  cases hit with
  | true =>
      rw [Workflow.walkFrom_branching (by decide) rfl hlook rfl hbranch rfl]
      exact ((handled_terminal _ hlooked.tries (hstatus rfl) _).after_router ..).after_node
        (by decide) ..
  | false =>
      rw [Workflow.walkFrom_branching (by decide) rfl hlook rfl hbranch rfl]
      exact ((handled_primary n hlooked hleft (by omega)).after_router ..).after_node
        (by decide) ..

end Rounds

/-- A request is sent again at most until its second attempt. Every walk of it ends, the count of retries
goes up by one for each of them and not over what is allowed, the fallback is never used, and
the status tells whether the error was reported. -/
theorem walk_count_retry_le (session : Session) {fields : Fields} {tries most : Int} {limit : Nat}
    (h : IsRequest fields tries most) (hlimit : 5 + 3 * max 0 (min most 1 - tries) ≤ limit) :
    ∃ walk retries final, workflow.walk limit (session.holding fields) = walk ∧
      walk.ending = .finished ∧ walk.session.state = .record final ∧
      walk.visited.count "retry" = retries ∧ (retries : Int) ≤ max 0 (min most 1 - tries) ∧
      (Fields.get? "retry_count" final).bind Value.whole? = some (tries + retries) ∧
      tries + retries ≤ max tries most ∧
      "fallback" ∉ walk.visited ∧
      Fields.get? "use_fallback" final = Fields.get? "use_fallback" fields ∧
      Fields.get? "response_status" final =
        some (.int (if "error" ∈ walk.visited then 503 else 200)) := by
  have hhandled : Handled (workflow.walk limit (session.holding fields)) tries
      (min most 1 - tries).toNat (Fields.get? "use_fallback" fields) :=
    handled_walk h (Nat.le_refl _) (by omega) session
  obtain ⟨final, hstate, htries, hfallback, hstatus⟩ := hhandled.leaves
  have hretries := hhandled.retries
  exact ⟨_, _, final, rfl, hhandled.finished, hstate, rfl, by omega, htries, by omega,
    hhandled.no_fallback, hfallback, hstatus⟩

/-- A path that no service serves; the first call of it fails. -/
def strayRequest : Fields := [
  ("request_path", "/lost"), ("request_method", "POST"), ("retry_count", .int 0),
  ("max_retries", .int 3), ("use_fallback", false), ("circuit_open", false)]

private theorem isRequest_strayRequest : IsRequest strayRequest 0 3 :=
  ⟨⟨_, rfl⟩, ⟨_, rfl⟩, rfl, rfl, ⟨_, rfl⟩⟩

theorem walk_strayRequest_count_retry : ∃ walk final,
    workflow.walk 8 (Session.holding { state := .null } strayRequest) = walk ∧
      walk.ending = .finished ∧ walk.session.state = .record final ∧
      walk.visited.count "retry" = 1 ∧
      (Fields.get? "retry_count" final).bind Value.whole? = some 1 ∧
      Fields.get? "use_fallback" final = some (.bool false) := by
  obtain ⟨walk, retries, final, rfl, hfinished, hstate, rfl, -, htries, -, -, hfallback, -⟩ :=
    walk_count_retry_le { state := .null } isRequest_strayRequest (by decide : _ ≤ ((8 : Nat) : Int))
  have hcount : (workflow.walk 8 (Session.holding { state := .null } strayRequest)).visited.count
      "retry" = 1 := by
    decide +kernel
  rw [hcount] at htries
  exact ⟨_, final, rfl, hfinished, hstate, hcount, htries, hfallback⟩

end Workgraph.Gateway
