import Workgraph.Proofs.Steps

/-!
# Contracts of steps

A contract says what holds after a step that succeeds. A step that fails meets every contract, so what a failing
step leaves behind is never looked at. Contracts follow the way in which steps are put together.
-/

namespace Workgraph

namespace Session

/-- The state is a record in which a field has this value. -/
def Has (session : Session) (key : String) (v : Value) : Prop :=
  ∃ fields, session.state = .record fields ∧ Fields.get? key fields = some v

theorem Has.field {session : Session} {key : String} {v : Value} (h : session.Has key v) :
    session.state.field key = .ok v := by
  obtain ⟨fields, hstate, hget⟩ := h
  simp only [Value.field, hstate, hget]

theorem has_holding_iff {session : Session} {fields : Fields} {key : String} {v : Value} :
    (session.holding fields).Has key v ↔ Fields.get? key fields = some v := by
  constructor
  · rintro ⟨held, hstate, hget⟩
    obtain rfl : fields = held := Value.record.inj hstate
    exact hget
  · exact fun hget => ⟨fields, rfl, hget⟩

theorem has_holding_set (session : Session) (fields : Fields) (key : String) (v : Value) :
    (session.holding (Fields.set key v fields)).Has key v :=
  ⟨_, rfl, Fields.get?_set_self fields key v⟩

private theorem has_holding_set_of_ne {session : Session} {fields : Fields} {key other : String} {w : Value}
    (hne : key ≠ other) (hget : Fields.get? other fields = some w) (v : Value) :
    (session.holding (Fields.set key v fields)).Has other w :=
  ⟨_, rfl, (Fields.get?_set_of_ne fields hne v).trans hget⟩

end Session

namespace Step

theorem read_of_has {key : String} {v : Value} {session : Session} (h : session.Has key v) :
    read key session = .ok v session := by
  obtain ⟨fields, hstate, hget⟩ := h
  simp only [read, Value.field, hstate, hget]

theorem readOr_of_has {key : String} {v : Value} {session : Session} (h : session.Has key v)
    (default : Value) : readOr key default session = .ok v session := by
  obtain ⟨fields, hstate, hget⟩ := h
  simp only [readOr, Value.fieldOr, hstate, hget, Option.getD_some]

theorem write_eq_ok {key : String} {v : Value} {session done : Session}
    (h : write key v session = .ok () done) :
    ∃ fields, session.state = .record fields ∧
      done = session.holding (Fields.set key v fields) := by
  unfold write Value.setField at h
  cases hstate : session.state with
  | record fields =>
      simp only [hstate] at h
      cases h
      exact ⟨fields, rfl, rfl⟩
  | _ =>
      simp only [hstate] at h
      cases h

/-- Started where `pre` holds, the step fails, or its answer and the session after it satisfy `post`. -/
def Ensures (pre : Session → Prop) (step : Step α) (post : α → Session → Prop) : Prop :=
  ∀ session, pre session → ∀ a done, step session = .ok a done → post a done

def anywhere (_ : Session) : Prop := True

namespace Ensures

variable {pre : Session → Prop} {post : α → Session → Prop}

theorem pure {a : α} (h : ∀ session, pre session → post a session) :
    Ensures pre (pure a) post := by
  intro session hpre b done hrun
  cases hrun
  exact h session hpre

theorem bind {first : Step β} {next : β → Step α} {mid : β → Session → Prop}
    (hfirst : Ensures pre first mid) (hnext : ∀ b, Ensures (mid b) (next b) post) :
    Ensures pre (first >>= next) post := by
  intro session hpre a done hrun
  rw [bind_apply] at hrun
  split at hrun
  · rename_i b between hbetween
    exact hnext b between (hfirst session hpre b between hbetween) a done hrun
  · cases hrun

theorem after {first : Step β} {next : β → Step α} (hnext : ∀ b, Ensures anywhere (next b) post) :
    Ensures pre (first >>= next) post := by
  have hfirst : Ensures pre first fun _ => anywhere := fun _ _ _ _ _ => trivial
  exact hfirst.bind hnext

theorem ite {c : Prop} [Decidable c] {yes no : Step α} (hyes : Ensures pre yes post)
    (hno : Ensures pre no post) : Ensures pre (if c then yes else no) post := by
  split
  · exact hyes
  · exact hno

theorem weaken {step : Step α} {mid : α → Session → Prop} (h : Ensures pre step mid)
    (hpost : ∀ a session, mid a session → post a session) : Ensures pre step post := by
  intro session hpre a done hrun
  exact hpost a done (h session hpre a done hrun)

theorem write {key : String} {v : Value} : Ensures pre (write key v) (fun _ => (·.Has key v)) := by
  intro session _ _ done hrun
  obtain ⟨fields, -, rfl⟩ := write_eq_ok hrun
  exact session.has_holding_set fields key v

theorem write_other {key other : String} {v w : Value} (hne : key ≠ other) :
    Ensures (·.Has other w) (Step.write key v)
      (fun _ session => session.Has other w ∧ session.Has key v) := by
  intro session hhas _ done hrun
  obtain ⟨fields, hstate, rfl⟩ := write_eq_ok hrun
  obtain ⟨fields', hstate', hget⟩ := hhas
  obtain rfl : fields = fields' := Value.record.inj (hstate.symm.trans hstate')
  exact ⟨Session.has_holding_set_of_ne hne hget v, session.has_holding_set fields key v⟩

end Ensures

end Step

end Workgraph
