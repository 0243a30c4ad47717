import Mathlib.Data.List.Chain
import Mathlib.Data.Rat.Floor
import Workgraph.Proofs.Courses
import Workgraph.Proofs.Numbers
import Workgraph.Workflows.Threshold

/-!
# The loop up to the threshold

A low value stays below a hundred when it is raised, so the walk always comes back from there. A high value
reaches a hundred when it is doubled, so the walk never comes back from there. The number of raises is the
number of tens that are missing to fifty, rounded up.
-/

namespace Workgraph

private theorem Value.mul_of_whole? {v w : Value} {m n : Int} (hv : v.whole? = some m) (hw : w.whole? = some n) :
    v.mul w = .ok (.int (m * n)) := by
  cases v <;> cases hv <;> cases w <;> cases hw <;> rfl

namespace Threshold

open Step

/-- How often a value is raised before it is doubled. -/
def raises (value : Int) : Nat := if 50 ≤ value then 0 else ⌈((50 - value : Int) : ℚ) / 10⌉₊

/-- A raise is still to come exactly if the raises before it leave the value below fifty. -/
theorem lt_raises_iff (value : Int) (n : Nat) : n < raises value ↔ value + 10 * n < 50 := by
  unfold raises
  split <;> rename_i hhigh
  · omega
  · have hceil : (n : ℚ) < ((50 - value : Int) : ℚ) / 10 ↔ ((n * 10 : Int) : ℚ) < (50 - value : Int) := by
      rw [lt_div_iff₀ (by norm_num)]
      push_cast
      rfl
    rw [Nat.lt_ceil, hceil, Int.cast_lt]
    omega

def course (raises : Nat) : List String :=
  (List.replicate raises ["start", "low"]).flatten ++ ["start", "high", "end"]

theorem course_succ (raises : Nat) : course (raises + 1) = "start" :: "low" :: course raises := rfl

theorem length_course (raises : Nat) : (course raises).length = 2 * raises + 3 := by
  induction raises with
  | zero => rfl
  | succ raises ih =>
      rw [course_succ, List.length_cons, List.length_cons, ih]
      omega

def names : List String := ["value", "path_taken", "should_continue"]

def entered (name : String) (path : List Value) (fields : Fields) : Fields :=
  Fields.set "path_taken" (.list (path ++ [.text name])) fields

def changed (name : String) (path : List Value) (value : Int) (fields : Fields) : Fields :=
  Fields.set "should_continue" (.bool (decide (value < 100)))
    (Fields.set "value" (.int value) (entered name path fields))

/-- The walk has got to this value by this path; it was started with other fields. -/
structure IsAt (start fields : Fields) (value : Int) (path : List Value) : Prop where
  value : (Fields.get? "value" fields).bind Value.whole? = some value
  path : Fields.get? "path_taken" fields = some (.list path)
  others : Fields.EqOutside names start fields

section Nodes

variable {start fields : Fields} {value : Int} {path : List Value}

theorem IsAt.entered (h : IsAt start fields value path) (name : String) :
    IsAt start (entered name path fields) value (path ++ [.text name]) where
  value := by simpa [Threshold.entered, Fields.get?_set] using h.value
  path := Fields.get?_set_self ..
  others := h.others.set (by decide) _

theorem IsAt.changed (h : IsAt start fields value path) (name : String) (new : Int) :
    IsAt start (changed name path new fields) new (path ++ [.text name]) where
  value := by simp [Threshold.changed, Fields.get?_set, Value.whole?]
  path := by simp [Threshold.changed, Threshold.entered, Fields.get?_set]
  others := ((h.others.set (by decide) _).set (by decide) _).set (by decide) _

theorem noteProgress_holding (value : Int) (fields : Fields) (session : Session) :
    noteProgress (session.holding (Fields.set "value" (.int value) fields)) =
      .ok () (session.holding (Fields.set "should_continue" (.bool (decide (value < 100)))
        (Fields.set "value" (.int value) fields))) := by
  have hless : (Value.int value).less (.int 100) = .ok (decide (value < 100)) :=
    Value.less_of_whole? rfl rfl
  simp only [noteProgress, bind_apply, read_holding (Fields.get?_set_self ..), hless, liftM_ok, pure_apply,
    write_holding]

theorem IsAt.append_holding (h : IsAt start fields value path) (name : String) (session : Session) :
    append "path_taken" (pure (.text name)) (session.holding fields) =
      .ok () (session.holding (Threshold.entered name path fields)) :=
  Step.append_holding h.path (.text name) session

private theorem IsAt.processLow_holding (h : IsAt start fields value path) (session : Session) :
    processLow (session.holding fields) =
      .ok () (session.holding (Threshold.changed "low" path (value + 10) fields)) := by
  obtain ⟨v, hget, hwhole⟩ := Option.bind_eq_some_iff.1 (h.entered "low").value
  have hraise := addTo_holding hget (pure_apply (.int 10) (session.holding _))
    (Value.add_of_whole? hwhole rfl)
  simp only [processLow, bind_apply, h.append_holding, hraise, noteProgress_holding]
  rfl

private theorem IsAt.processHigh_holding (h : IsAt start fields value path) (session : Session) :
    processHigh (session.holding fields) =
      .ok () (session.holding (Threshold.changed "high" path (2 * value) fields)) := by
  obtain ⟨v, hwhole, hread⟩ := exists_read_whole (h.entered "high").value session
  have hdouble : v.mul (.int 2) = .ok (.int (2 * value)) := by
    rw [Value.mul_of_whole? hwhole rfl, Int.mul_comm]
  simp only [processHigh, bind_apply, h.append_holding, hread, hdouble, liftM_ok, pure_apply,
    write_holding, noteProgress_holding]
  rfl

private theorem routeByValue_holding (h : (Fields.get? "value" fields).bind Value.whole? = some value)
    (session : Session) : routeByValue (session.holding fields) =
      .ok (.text (if 50 ≤ value then "high" else "low")) (session.holding fields) := by
  obtain ⟨v, hwhole, hread⟩ := exists_read_whole h session
  simp only [routeByValue, bind_apply, hread, Value.atLeast_int hwhole, liftM_ok, pure_apply,
    decide_eq_true_eq]
  split <;> rfl

theorem routeOnward_changed (name : String) (path : List Value) (value : Int) (fields : Fields)
    (session : Session) : routeOnward (session.holding (changed name path value fields)) =
      .ok (.text (if value < 100 then "start" else "end"))
        (session.holding (changed name path value fields)) := by
  have hread := read_holding (Fields.get?_set_self (Fields.set "value" (.int value)
    (entered name path fields)) "should_continue" (.bool (decide (value < 100)))) session
  simp only [routeOnward, bind_apply, changed, isSet_of_read hread, Value.truthy, decide_eq_true_eq]
  split <;> rfl

end Nodes

section Walks

variable {start fields : Fields} {value : Int} {path : List Value}

/-- The walk has ended with this value and by this path; it was started with other fields. -/
structure IsDone (start final : Fields) (value : Int) (path : List Value) : Prop where
  value : Fields.get? "value" final = some (.int value)
  progress : Fields.get? "should_continue" final = some (.bool false)
  path : Fields.get? "path_taken" final = some (.list path)
  others : Fields.EqOutside names start final

theorem IsAt.runsThrough_start (h : IsAt start fields value path) {target : String}
    (htarget : (if 50 ≤ value then "high" else "low") = target) {session last : Session}
    {course : List String} (hnext : workflow.RunsThrough target
      (session.holding (Threshold.entered "start" path fields)) course last) :
    workflow.RunsThrough "start" (session.holding fields) ("start" :: course) last := by
  subst htarget
  have hstart := h.append_holding "start" session
  have hroute := routeByValue_holding (h.entered "start").value session
  refine .branching hnext (by decide) rfl hstart rfl hroute ?_
  split <;> rfl

private theorem exists_runsThrough_high (h : IsAt start fields value path) (hhigh : 50 ≤ value) (session : Session) :
    ∃ final, workflow.RunsThrough "start" (session.holding fields) ["start", "high", "end"]
        (session.holding final) ∧
      IsDone start final (2 * value) (path ++ [.text "start", .text "high", .text "end"]) := by
  have hat := h.entered "start"
  have hdouble := hat.processHigh_holding session
  have honward := routeOnward_changed "high" (path ++ [.text "start"]) (2 * value) (entered "start" path fields)
    session
  -- twice a value of fifty or more is a hundred or more, so the router answers with the end
  rw [if_neg (by omega)] at honward
  have hchanged := hat.changed "high" (2 * value)
  have hend := hchanged.append_holding "end" session
  have hreached : decide (2 * value < 100) = false := decide_eq_false (by omega)
  refine ⟨_, h.runsThrough_start (if_pos hhigh) (.branching (.edge (.terminal _ _) (by decide) rfl hend rfl rfl)
    (by decide) rfl hdouble rfl honward rfl), ?_⟩
  exact ⟨by simp [entered, changed, Fields.get?_set],
    by simp [entered, changed, Fields.get?_set, hreached], by simp [entered],
    (hchanged.entered "end").others⟩

private theorem runsThrough_low (h : IsAt start fields value path) (hlow : value < 50) {session last : Session}
    {course : List String} (hnext : workflow.RunsThrough "start" (session.holding
      (changed "low" (path ++ [.text "start"]) (value + 10) (entered "start" path fields))) course last) :
    workflow.RunsThrough "start" (session.holding fields) ("start" :: "low" :: course) last := by
  have hraise := (h.entered "start").processLow_holding session
  have honward := routeOnward_changed "low" (path ++ [.text "start"]) (value + 10) (entered "start" path fields)
    session
  -- a value below fifty is still below a hundred after the raise
  rw [if_pos (by omega)] at honward
  exact h.runsThrough_start (if_neg (by omega)) (hnext.branching (by decide) rfl hraise rfl honward rfl)

/-- By induction on the raises to come: there is none, and the value is high, or the value is low and
one of them is made. -/
theorem exists_runsThrough (session : Session) (n : Nat) : ∀ {fields : Fields} {value : Int}
    {path : List Value}, IsAt start fields value path → (∀ k : Nat, k < n ↔ value + 10 * k < 50) →
      ∃ final, workflow.RunsThrough "start" (session.holding fields) (course n) (session.holding final) ∧
        IsDone start final (2 * (value + 10 * n)) (path ++ (course n).map .text) := by
  induction n with
  | zero =>
      intro fields value path h hraises
      have hhigh : 50 ≤ value := by
        have hnone := hraises 0
        omega
      obtain ⟨final, hruns, hdone⟩ := exists_runsThrough_high h hhigh session
      refine ⟨final, hruns, ?_⟩
      rw [Int.natCast_zero, Int.mul_zero, Int.add_zero]
      exact hdone
  | succ n ih =>
      intro fields value path h hraises
      have hlow : value < 50 := by
        have hfirst := hraises 0
        omega
      have hfewer (k : Nat) : k < n ↔ value + 10 + 10 * k < 50 := by
        have hmore := hraises (k + 1)
        omega
      obtain ⟨final, hruns, hdone⟩ := ih ((h.entered "start").changed "low" (value + 10)) hfewer
      refine ⟨final, runsThrough_low h hlow hruns, ?_⟩
      have hvalue : value + 10 + 10 * (n : Int) = value + 10 * (n + 1 : Nat) := by
        omega
      rw [hvalue] at hdone
      rw [course_succ, List.map_cons, List.map_cons, List.append_cons, List.append_cons]
      exact hdone

end Walks

/-- A node may follow another one: a raise leads to the start, and doubling to the end. -/
def Leads (name next : String) : Prop := (name = "low" → next = "start") ∧ (name = "high" → next = "end")

private theorem isChain_course (n : Nat) : List.IsChain Leads (course n) := by
  induction n with
  | zero => simp [course, Leads]
  | succ n ih =>
      obtain ⟨rest, hrest⟩ : ∃ rest, course n = "start" :: rest := by
        cases n <;> exact ⟨_, rfl⟩
      rw [course_succ, hrest, List.isChain_cons_cons, List.isChain_cons_cons, ← hrest]
      exact ⟨by simp [Leads], by simp [Leads], ih⟩

/-- A value is raised by ten until it is not below fifty, and then it is doubled. So the walk ends at a
hundred or more, it always comes back to the start from a raise, and it never comes back from doubling. -/
theorem walk_raises_then_doubles (session : Session) {start : Fields} {value : Int} {path : List Value}
    (hvalue : (Fields.get? "value" start).bind Value.whole? = some value)
    (hpath : Fields.get? "path_taken" start = some (.list path)) :
    ∃ (n : Nat) (final : Fields), n = (if 50 ≤ value then 0 else ⌈((50 - value : Int) : ℚ) / 10⌉₊) ∧
      (∀ limit < 2 * n + 3, (workflow.walk limit (session.holding start)).ending = .limitReached) ∧
      (∀ limit ≥ 2 * n + 3, ∃ walk, workflow.walk limit (session.holding start) = walk ∧
        walk.ending = .finished ∧ walk.session = session.holding final ∧ walk.visited = course n) ∧
      Fields.get? "value" final = some (.int (2 * (value + 10 * n))) ∧ 100 ≤ 2 * (value + 10 * n) ∧
      Fields.get? "should_continue" final = some (.bool false) ∧
      Fields.get? "path_taken" final = some (.list (path ++ (course n).map .text)) ∧
      Fields.EqOutside names start final ∧
      ∀ limit, List.IsChain Leads (workflow.walk limit (session.holding start)).visited := by
  have hat : IsAt start start value path := ⟨hvalue, hpath, .refl _ _⟩
  obtain ⟨final, hruns, hdone⟩ := exists_runsThrough session (raises value) hat (lt_raises_iff value)
  have hhigh := lt_raises_iff value (raises value)
  refine ⟨raises value, final, rfl, ?_, ?_, hdone.value, by omega, hdone.progress, hdone.path, hdone.others, ?_⟩
  · intro limit hlimit
    exact (hruns limit).2.1 (by rwa [length_course])
  · intro limit hlimit
    obtain ⟨hending, hvisited, hsession⟩ := hruns.finishes limit (by rwa [length_course])
    exact ⟨_, rfl, hending, hsession, hvisited⟩
  · intro limit
    have hvisited : (workflow.walk limit (session.holding start)).visited = (course (raises value)).take limit :=
      (hruns limit).1
    rw [hvisited]
    exact (isChain_course _).take limit

def debt : Fields := [("value", .int (-7)), ("path_taken", .list []), ("should_continue", .null)]

theorem walk_debt : ∃ walk final,
    workflow.walk 15 (Session.holding { state := .null } debt) = walk ∧
      walk.ending = .finished ∧ walk.session.state = .record final ∧
      Fields.get? "value" final = some (.int 106) ∧ walk.visited.count "low" = 6 := by
  obtain ⟨n, final, hn, -, hends, hvalue, -⟩ := walk_raises_then_doubles { state := .null }
    (rfl : (Fields.get? "value" debt).bind Value.whole? = some (-7)) rfl
  obtain rfl : n = 6 := by
    have hsixth := lt_raises_iff (-7) 5
    have hlast := lt_raises_iff (-7) 6
    rw [raises, ← hn] at hsixth hlast
    omega
  obtain ⟨walk, hwalk, hending, hsession, hvisited⟩ := hends 15 (Nat.le_refl 15)
  refine ⟨walk, final, hwalk, hending, ?_, hvalue, ?_⟩
  · rw [hsession]
    rfl
  · rw [hvisited]
    decide

end Threshold

end Workgraph
