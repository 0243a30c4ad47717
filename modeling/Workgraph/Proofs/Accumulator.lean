import Workgraph.Proofs.Courses
import Workgraph.Proofs.Numbers
import Workgraph.Workflows.Accumulator

/-!
# The loop of the accumulator

After each round the sum is that of the numbers so far, and the log has one more entry. The bound is
looked at after a round, so there is at least one.
-/

namespace Workgraph.Accumulator

open Step

def sumTo (n : Nat) : Nat := n * (n + 1) / 2

private theorem sumTo_succ (n : Nat) : sumTo (n + 1) = sumTo n + (n + 1) := by
  have hsucc : (n + 1) * (n + 1 + 1) = n * (n + 1) + (n + 1) * 2 := by
    rw [Nat.mul_add (n + 1) (n + 1) 1, Nat.add_mul n 1 (n + 1)]
    omega
  rw [sumTo, hsucc, Nat.add_mul_div_right _ _ (by decide), sumTo]

def roundEntry (n : Nat) : String :=
  "Iteration " ++ toString n ++ ": accumulated=" ++ toString (sumTo n)

def closingEntry (n : Nat) : String := "Completed " ++ toString n ++ " iterations"

/-- What is logged after some rounds, with so many rounds to come. -/
def logFrom (round left : Nat) : List String :=
  (List.range' (round + 1) left).map roundEntry ++ [closingEntry (round + left)]

private theorem logFrom_succ (round left : Nat) :
    logFrom round (left + 1) = roundEntry (round + 1) :: logFrom (round + 1) left := by
  rw [logFrom, List.range'_succ, List.map_cons, List.cons_append, logFrom, Nat.add_comm left,
    ← Nat.add_assoc]

def names : List String := ["iteration", "accumulated_value", "history"]

def counted (round : Nat) (fields : Fields) : Fields := Fields.set "iteration" (.int round) fields

def summed (round : Nat) (fields : Fields) : Fields :=
  Fields.set "accumulated_value" (.int (sumTo round)) (counted round fields)

def advanced (round : Nat) (history : List Value) (fields : Fields) : Fields :=
  Fields.set "history" (.list history) (summed round fields)

/-- The loop has so many rounds behind it and this log; it was started with other fields. -/
structure IsTally (start fields : Fields) (round : Nat) (history : List Value) : Prop where
  iteration : Fields.get? "iteration" fields = some (.int round)
  sum : Fields.get? "accumulated_value" fields = some (.int (sumTo round))
  history : Fields.get? "history" fields = some (.list history)
  others : Fields.EqOutside names start fields

theorem isTally_advanced {start fields : Fields} (h : Fields.EqOutside names start fields) (round : Nat)
    (history : List Value) : IsTally start (advanced round history fields) round history where
  iteration := by simp [advanced, summed, counted, Fields.get?_set]
  sum := by simp [advanced, summed, Fields.get?_set]
  history := Fields.get?_set_self ..
  others := ((h.set (by decide) _).set (by decide) _).set (by decide) _

section Nodes

variable {start fields : Fields} {round : Nat} {most : Int} {history : List Value}

theorem history_summed (h : Fields.get? "history" fields = some (.list history)) (round : Nat) :
    Fields.get? "history" (summed round fields) = some (.list history) := by
  simpa [summed, counted, Fields.get?_set] using h

private theorem begin_holding (h : Fields.get? "history" fields = some (.list history)) (session : Session) :
    begin (session.holding fields) =
      .ok () (session.holding (advanced 0 (history ++ [.text "Initialized"]) fields)) := by
  have hlog := append_holding (history_summed h 0) (.text "Initialized") session
  simp only [begin, bind_apply, write_holding]
  exact hlog

private theorem IsTally.accumulate_holding (h : IsTally start fields round history) (session : Session) :
    accumulate (session.holding fields) = .ok () (session.holding
      (advanced (round + 1) (history ++ [.text (roundEntry (round + 1))]) fields)) := by
  have hadd (m n : Nat) : (Value.int m).add (.int n) = .ok (.int (m + n : Nat)) := by
    rw [Value.add_of_whole? rfl rfl, Int.natCast_add]
  have hgrown : (Value.int (sumTo round)).add (.int (round + 1 : Nat)) =
      .ok (.int (sumTo (round + 1))) := by
    rw [hadd, sumTo_succ]
  have hcount : increment "iteration" (session.holding fields) =
      .ok () (session.holding (counted (round + 1) fields)) :=
    addTo_holding h.iteration (pure_apply _ _) (hadd round 1)
  have hsum : addTo "accumulated_value" (read "iteration") (session.holding (counted (round + 1) fields)) =
      .ok () (session.holding (summed (round + 1) fields)) :=
    addTo_holding (by simpa [counted, Fields.get?_set] using h.sum)
      (read_holding (Fields.get?_set_self ..) session) hgrown
  have hread : read "iteration" (session.holding (summed (round + 1) fields)) =
      .ok (.int (round + 1 : Nat)) (session.holding (summed (round + 1) fields)) :=
    read_holding (by simp [summed, counted, Fields.get?_set]) session
  have hread' : read "accumulated_value" (session.holding (summed (round + 1) fields)) =
      .ok (.int (sumTo (round + 1))) (session.holding (summed (round + 1) fields)) :=
    read_holding (Fields.get?_set_self ..) session
  simp only [accumulate, bind_apply, hcount, hsum]
  apply append_of_ok (history_summed h.history _)
  simp only [bind_apply, hread, hread', pure_apply]
  rfl

/-- Where the loop goes with so many rounds to come. -/
def onward : Nat → String
  | 0 => "finalize"
  | _ + 1 => "loop_body"

private theorem IsTally.routeOnward_holding (h : IsTally start fields (round + 1) history)
    (hmost : (Fields.get? "max_iterations" start).bind Value.whole? = some most) {left : Nat}
    (hleft : ((round + 1 + left : Nat) : Int) = max 1 most) (session : Session) :
    routeOnward (session.holding fields) = .ok (.text (onward left)) (session.holding fields) := by
  rw [← h.others _ (by decide)] at hmost
  obtain ⟨v, hwhole, hread⟩ := exists_read_whole hmost session
  have hless : (Value.int (round + 1 : Nat)).less v = .ok (decide (((round + 1 : Nat) : Int) < most)) :=
    Value.less_of_whole? rfl hwhole
  simp only [routeOnward, bind_apply, read_holding h.iteration, hread, hless, liftM_ok, pure_apply,
    decide_eq_true_eq]
  -- the round that has just been made counts, so a bound below one acts like one
  cases left with
  | zero =>
      rw [if_neg (by omega)]
      rfl
  | succ left =>
      rw [if_pos (by omega)]
      rfl

private theorem IsTally.finish_holding (h : IsTally start fields round history) (session : Session) :
    finish (session.holding fields) = .ok () (session.holding
      (Fields.set "history" (.list (history ++ [.text (closingEntry round)])) fields)) := by
  apply append_of_ok h.history
  simp only [bind_apply, read_holding h.iteration, pure_apply]
  rfl

private theorem IsTally.closed (h : IsTally start fields round history) (log : List Value) :
    IsTally start (Fields.set "history" (.list log) fields) round log where
  iteration := by simpa [Fields.get?_set] using h.iteration
  sum := by simpa [Fields.get?_set] using h.sum
  history := Fields.get?_set_self ..
  others := h.others.set (by decide) _

end Nodes

section Walks

variable {start : Fields} {most : Int} {history : List Value}

private theorem target_onward (left : Nat) : Branching.target? ⟨"loop_body", ⟨"check_continue", routeOnward⟩,
    [("loop_body", "loop_body"), ("finalize", "finalize")]⟩ (.text (onward left)) =
      some (onward left) := by
  cases left <;> rfl

/-- After some rounds, by induction on those to come: the loop is left, or one more round leads to
where the loop goes after it. -/
theorem exists_runsThrough_loop (hmost : (Fields.get? "max_iterations" start).bind Value.whole? = some most)
    (session : Session) (left : Nat) : ∀ {fields : Fields} {round : Nat} {history : List Value},
      IsTally start fields round history → ((round + left : Nat) : Int) = max 1 most →
      ∃ final, workflow.RunsThrough (onward left) (session.holding fields)
          (List.replicate left "loop_body" ++ ["finalize"]) (session.holding final) ∧
        IsTally start final (round + left) (history ++ (logFrom round left).map .text) := by
  induction left with
  | zero =>
      intro fields round history h hlast
      have hfinish := h.finish_holding session
      exact ⟨_, .edge (.terminal _ _) (by decide) rfl hfinish rfl rfl, h.closed _⟩
  | succ left ih =>
      intro fields round history h hlast
      rw [Nat.add_comm left, ← Nat.add_assoc] at hlast
      have hround := h.accumulate_holding session
      have htally := isTally_advanced h.others (round + 1) (history ++ [.text (roundEntry (round + 1))])
      have hroute := htally.routeOnward_holding hmost hlast session
      obtain ⟨final, hruns, hfinal⟩ := ih htally hlast
      have hcourse : workflow.RunsThrough "loop_body" _ _ _ :=
        hruns.branching (by decide) rfl hround rfl hroute (target_onward left)
      refine ⟨final, hcourse, ?_⟩
      rw [logFrom_succ, List.map_cons, List.append_cons, Nat.add_comm left, ← Nat.add_assoc]
      exact hfinal

theorem exists_runsThrough (hmost : (Fields.get? "max_iterations" start).bind Value.whole? = some most)
    (hhistory : Fields.get? "history" start = some (.list history)) {rounds : Nat}
    (hrounds : (rounds : Int) = max 1 most) (session : Session) :
    ∃ final, workflow.RunsThrough workflow.entry (session.holding start)
        ("initialize" :: (List.replicate rounds "loop_body" ++ ["finalize"])) (session.holding final) ∧
      IsTally start final rounds (history ++ ("Initialized" :: logFrom 0 rounds).map .text) := by
  have hbegin := begin_holding hhistory session
  have htally := isTally_advanced (Fields.EqOutside.refl names start) 0 (history ++ [.text "Initialized"])
  rw [← Nat.zero_add rounds] at hrounds
  obtain ⟨final, hruns, hfinal⟩ := exists_runsThrough_loop hmost session rounds htally hrounds
  obtain ⟨more, rfl⟩ : ∃ more, rounds = more + 1 := Nat.exists_eq_succ_of_ne_zero (by omega)
  rw [Nat.zero_add] at hfinal
  refine ⟨final, hruns.edge (by decide) rfl hbegin rfl rfl, ?_⟩
  rw [List.map_cons, List.append_cons]
  exact hfinal

end Walks

/-- The loop runs once for each number up to its bound, and once if the bound is below one. In the end the sum
is that of the numbers, and the log tells every sum on the way. -/
theorem walk_accumulates (session : Session) {start : Fields} {most : Int} {history : List Value}
    (hmost : (Fields.get? "max_iterations" start).bind Value.whole? = some most)
    (hhistory : Fields.get? "history" start = some (.list history)) :
    ∃ (rounds : Nat) (final : Fields), (rounds : Int) = max 1 most ∧
      (∀ limit < rounds + 2, (workflow.walk limit (session.holding start)).ending = .limitReached) ∧
      (∀ limit ≥ rounds + 2, ∃ walk, workflow.walk limit (session.holding start) = walk ∧
        walk.ending = .finished ∧ walk.session = session.holding final ∧
        walk.visited = "initialize" :: (List.replicate rounds "loop_body" ++ ["finalize"])) ∧
      Fields.get? "iteration" final = some (.int rounds) ∧
      Fields.get? "accumulated_value" final = some (.int (rounds * (rounds + 1) / 2 : Nat)) ∧
      Fields.get? "history" final = some (.list (history ++ .text "Initialized" ::
        (List.range' 1 rounds).map (fun k => .text ("Iteration " ++ toString k ++ ": accumulated=" ++
          toString (k * (k + 1) / 2))) ++ [.text ("Completed " ++ toString rounds ++ " iterations")])) ∧
      Fields.EqOutside ["iteration", "accumulated_value", "history"] start final := by
  obtain ⟨rounds, hrounds⟩ : ∃ rounds : Nat, (rounds : Int) = max 1 most := ⟨(max 1 most).toNat, by omega⟩
  obtain ⟨final, hruns, hfinal⟩ := exists_runsThrough hmost hhistory hrounds session
  have hlength : ("initialize" :: (List.replicate rounds "loop_body" ++ ["finalize"])).length = rounds + 2 := by
    simp
  refine ⟨rounds, final, hrounds, ?_, ?_, hfinal.iteration, hfinal.sum, ?_, hfinal.others⟩
  · intro limit hlimit
    exact (hruns limit).2.1 (by rwa [hlength])
  · intro limit hlimit
    obtain ⟨hending, hvisited, hsession⟩ := hruns.finishes limit (by rwa [hlength])
    exact ⟨_, rfl, hending, hsession, hvisited⟩
  · rw [hfinal.history]
    simp [logFrom, closingEntry, roundEntry, sumTo, Function.comp_def]

def bounded (most : Int) : Fields := [
  ("iteration", .int 0), ("max_iterations", .int most), ("accumulated_value", .int 0),
  ("history", .list [])]

theorem walk_five_rounds : ∃ walk final log,
    workflow.walk 7 (Session.holding { state := .null } (bounded 5)) = walk ∧
      walk.ending = .finished ∧ walk.session.state = .record final ∧
      Fields.get? "accumulated_value" final = some (.int 15) ∧
      Fields.get? "history" final = some (.list log) ∧ log.length = 7 := by
  obtain ⟨rounds, final, hrounds, -, hends, -, hsum, hlog, -⟩ :=
    walk_accumulates { state := .null } (rfl : (Fields.get? "max_iterations" (bounded 5)).bind Value.whole? = _) rfl
  obtain rfl : rounds = 5 := by omega
  obtain ⟨walk, hwalk, hending, hsession, -⟩ := hends 7 (Nat.le_refl 7)
  refine ⟨walk, final, _, hwalk, hending, ?_, hsum, hlog, rfl⟩
  rw [hsession]
  rfl

end Workgraph.Accumulator
