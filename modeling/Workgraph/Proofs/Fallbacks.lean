import Workgraph.Proofs.Replies

/-!
# Repeated fallbacks

A fallback asks for a person once the history has two fallbacks in it. No node writes to the history, so the
fallbacks of a conversation are not among those that count: however often the chat falls back, it asks for
a person only if the history had two fallbacks before, or if a person was asked for already.
-/

namespace Workgraph.Chat

open Step

/-- A record of a chat with this history, and with this in the field that asks for a person. -/
structure IsChat (fields : Fields) (history : List Value) (escalate : Option Value) : Prop where
  history : Fields.get? "conversation_history" fields = some (.list history)
  escalate : Fields.get? "escalate_to_human" fields = escalate

private theorem escalated_escalated (history : List Value) (escalate : Option Value) :
    escalated history (escalated history escalate) = escalated history escalate := by
  unfold escalated
  split <;> rfl

private theorem escalated_eq_true_iff {history : List Value} {escalate : Option Value} :
    escalated history escalate = some (.bool true) ↔
      2 ≤ history.countP (Value.same "fallback") ∨ escalate = some (.bool true) := by
  unfold escalated
  by_cases hcount : 2 ≤ history.countP (Value.same "fallback")
  · simp [hcount]
  · simp [hcount]

section Chats

variable {fields : Fields} {history : List Value} {escalate : Option Value}

theorem IsChat.of_eqOutside (h : IsChat fields history escalate) {names : List String} {new : Fields}
    (hnew : Fields.EqOutside names fields new) (hhistory : "conversation_history" ∉ names)
    (hescalate : "escalate_to_human" ∉ names) : IsChat new history escalate :=
  ⟨(hnew _ hhistory).trans h.history, (hnew _ hescalate).trans h.escalate⟩

theorem IsChat.set (h : IsChat fields history escalate) {key : String}
    (hhistory : key ≠ "conversation_history") (hescalate : key ≠ "escalate_to_human") (value : Value) :
    IsChat (Fields.set key value fields) history escalate :=
  ⟨(Fields.get?_set_of_ne fields hhistory value).trans h.history,
    (Fields.get?_set_of_ne fields hescalate value).trans h.escalate⟩

end Chats

/-- If the walk falls back, it finishes, and the history alone decides whether it asks for a person. -/
def FallsBack (history : List Value) (escalate : Option Value) (session : Session) (walk : Walk) : Prop :=
  "fallback" ∈ walk.visited → ∃ final, walk.FinishesIn (session.holding final) ∧
    IsChat final history (escalated history escalate)

section Walks

variable {fields : Fields} {history : List Value} {escalate : Option Value} {session : Session}
  {text : String}

theorem FallsBack.after {walk : Walk} (h : FallsBack history escalate session walk) {event : Event}
    (hplace : event.place ≠ .node "fallback") :
    FallsBack history escalate session (walk.after event) := by
  intro hvisited
  rw [Walk.mem_visited_after] at hvisited
  exact h (hvisited.resolve_left hplace)

theorem fallsBack_of_nil {walk : Walk} (h : walk.events = []) : FallsBack history escalate session walk := by
  intro hvisited
  simp [Walk.visited, h] at hvisited

theorem fallsBack_terminal (limit : Nat) (start : Session) :
    FallsBack history escalate session (workflow.walkFrom limit terminal start) := by
  rw [Workflow.walkFrom_terminal]
  exact fallsBack_of_nil rfl

theorem fallsBack_fallback (h : IsChat fields history escalate) (limit : Nat) :
    FallsBack history escalate session (workflow.walkFrom limit "fallback" (session.holding fields)) := by
  intro hvisited
  cases limit with
  | zero =>
      rw [Workflow.walkFrom_zero (by decide) rfl] at hvisited
      cases hvisited
  | succ limit =>
      obtain ⟨final, hrun, -, hhistory, hescalate⟩ := exists_fallBack h.history session
      rw [h.escalate] at hescalate
      rw [Workflow.walkFrom_edge (by decide) rfl hrun rfl rfl, Workflow.walkFrom_terminal]
      exact ⟨final, ⟨rfl, rfl⟩, hhistory, hescalate⟩

private theorem fallsBack_greeting (h : IsChat fields history escalate) (limit : Nat) :
    FallsBack history escalate session (workflow.walkFrom limit "greeting" (session.holding fields)) := by
  cases limit with
  | zero =>
      rw [Workflow.walkFrom_zero (by decide) rfl]
      exact fallsBack_of_nil rfl
  | succ limit =>
      rw [Workflow.walkFrom_edge (by decide) rfl (greet_holding h.history session) rfl rfl]
      exact (fallsBack_terminal _ _).after (by simp)

theorem fallsBack_replying {gap : List Char → Prop} {name : String} {node : Node}
    (hname : name ≠ terminal ∧ name ≠ "fallback") (hnode : workflow.node? name = some node)
    (hreplying : IsReplying gap node.run)
    (hbranching : workflow.branching? name = some ⟨name, ⟨"route_after_response", routeAfterResponse⟩,
      [("fallback", "fallback"), (terminal, terminal)]⟩)
    (h : IsChat fields history escalate)
    (htext : Fields.get? "user_message" fields = some (.text text)) (limit : Nat) :
    FallsBack history escalate session (workflow.walkFrom limit name (session.holding fields)) := by
  cases limit with
  | zero =>
      rw [Workflow.walkFrom_zero hname.1 hnode]
      exact fallsBack_of_nil rfl
  | succ limit =>
      obtain ⟨replied, target, hreply, htarget, hwalk⟩ :=
        exists_walkFrom_replying hname.1 hnode hreplying hbranching htext limit session
      have hplace : Place.node name ≠ .node "fallback" := by
        rintro ⟨⟩
        exact hname.2 rfl
      rw [hwalk]
      apply FallsBack.after _ hplace
      apply FallsBack.after _ (by simp)
      rcases htarget with ⟨hgap, rfl⟩ | ⟨-, rfl⟩
      · -- where there is a gap, the reply has left the request for a person as it was
        have hchat : IsChat replied history escalate :=
          ⟨(hreply.frame _ (by decide)).trans h.history, (hreply.escalate hgap).trans h.escalate⟩
        exact fallsBack_fallback hchat limit
      · exact fallsBack_terminal limit _

private theorem fallsBack_walk (h : IsChat fields history escalate)
    (htext : Fields.get? "user_message" fields = some (.text text)) (limit : Nat) :
    FallsBack history escalate session (workflow.walk limit (session.holding fields)) := by
  cases limit with
  | zero =>
      rw [Workflow.walk, Workflow.walkFrom_zero (by decide) rfl]
      exact fallsBack_of_nil rfl
  | succ limit =>
      obtain ⟨intent, confidence, hears, hwalk⟩ := exists_walk_succ htext limit session
      have hframe := eqOutside_noted intent confidence fields
      have hchat := h.of_eqOutside hframe (by decide) (by decide)
      have hmessage := (hframe "user_message" (by decide)).trans htext
      rw [hwalk]
      apply FallsBack.after _ (by simp)
      apply FallsBack.after _ (by simp)
      cases hears with
      | greeting _ => exact fallsBack_greeting hchat limit
      | question _ =>
          exact fallsBack_replying (by decide) rfl isReplying_answerQuestion rfl hchat hmessage limit
      | command _ =>
          exact fallsBack_replying (by decide) rfl isReplying_obeyCommand rfl hchat hmessage limit
      | unclear _ => exact fallsBack_fallback hchat limit

end Walks

def hear (message : String) (session : Session) : Session :=
  (write "user_message" message).leaves session

/-- The walks of a conversation. Each starts from what the one before has left, with a new message. -/
def conversation (limit : Nat) : List String → Session → List Walk
  | [], _ => []
  | message :: messages, session =>
    let walk := workflow.walk limit (hear message session)
    walk :: conversation limit messages walk.session

private theorem hear_holding (message : String) (session : Session) (fields : Fields) :
    hear message (session.holding fields) =
      session.holding (Fields.set "user_message" message fields) := rfl

private theorem conversation_cons (limit : Nat) (message : String) (messages : List String) (session : Session) :
    conversation limit (message :: messages) session =
      workflow.walk limit (hear message session) ::
        conversation limit messages (workflow.walk limit (hear message session)).session := rfl

/-- Along a conversation of fallbacks the history stays, and so does what it decides. -/
theorem conversation_fallsBack (limit : Nat) (messages : List String) (session : Session)
    {fields : Fields} {history : List Value} {escalate : Option Value}
    (h : IsChat fields history escalate)
    (hfallback : ∀ walk ∈ conversation limit messages (session.holding fields),
      "fallback" ∈ walk.visited) :
    ∀ walk ∈ conversation limit messages (session.holding fields), ∃ final,
      walk.FinishesIn (session.holding final) ∧
        IsChat final history (escalated history escalate) := by
  induction messages generalizing fields escalate with
  | nil => exact fun walk hwalk => absurd hwalk List.not_mem_nil
  | cons message messages ih =>
      rw [conversation_cons, List.forall_mem_cons, hear_holding] at hfallback ⊢
      obtain ⟨hfirst, hrest⟩ := hfallback
      have hheard : IsChat (Fields.set "user_message" message fields) history escalate :=
        h.set (by decide) (by decide) _
      obtain ⟨final, hfinishes, hfinal⟩ :=
        fallsBack_walk hheard (Fields.get?_set_self _ _ _) limit hfirst
      refine ⟨⟨final, hfinishes, hfinal⟩, ?_⟩
      rw [hfinishes.2] at hrest ⊢
      -- the second fallback reads the same history, so it decides what the first one has decided
      have hlater := ih hfinal hrest
      rwa [escalated_escalated] at hlater

/-- Every run of a conversation in which all runs fall back finishes and leaves the history as it was.
A person is asked for after it exactly if the history had two fallbacks before the first run, or a
person was asked for then. -/
theorem conversation_escalates_iff (limit : Nat) (messages : List String) (session : Session)
    {fields : Fields} {history : List Value}
    (hhistory : Fields.get? "conversation_history" fields = some (.list history))
    (hfallback : ∀ walk ∈ conversation limit messages (session.holding fields),
      "fallback" ∈ walk.visited) :
    ∀ walk ∈ conversation limit messages (session.holding fields), ∃ final,
      walk.FinishesIn (session.holding final) ∧
        Fields.get? "conversation_history" final = some (.list history) ∧
        (Fields.get? "escalate_to_human" final = some (.bool true) ↔
          2 ≤ history.countP (Value.same "fallback") ∨
            Fields.get? "escalate_to_human" fields = some (.bool true)) := by
  intro walk hwalk
  obtain ⟨final, hfinishes, hfinal⟩ :=
    conversation_fallsBack limit messages session ⟨hhistory, rfl⟩ hfallback walk hwalk
  refine ⟨final, hfinishes, hfinal.history, ?_⟩
  rw [hfinal.escalate, escalated_eq_true_iff]

def chatAfter (history : List String) : Fields := [
  ("user_message", ""), ("conversation_history", .list (history.map .text)), ("intent", ""),
  ("confidence", .float 0.0), ("response", ""), ("context", ""), ("fallback_triggered", false),
  ("escalate_to_human", false)]

/-- A message that the chat does not understand, three times. -/
def questions : List String := List.replicate 3 "Tell me about quantum physics"

theorem conversation_questions :
    ∃ walks, conversation 3 questions
        (Session.holding { state := .null } (chatAfter ["fallback", "fallback"])) = walks ∧
      (∀ walk ∈ walks, "fallback" ∈ walk.visited) ∧
      ∀ walk ∈ walks, walk.session.Has "escalate_to_human" (.bool true) := by
  have hfallback : ∀ walk ∈ conversation 3 questions
      (Session.holding { state := .null } (chatAfter ["fallback", "fallback"])),
      "fallback" ∈ walk.visited := by
    decide +kernel
  refine ⟨_, rfl, hfallback, ?_⟩
  intro walk hwalk
  obtain ⟨final, ⟨-, hsession⟩, -, hescalate⟩ :=
    conversation_escalates_iff 3 questions { state := .null } rfl hfallback walk hwalk
  rw [hsession, Session.has_holding_iff, hescalate]
  exact .inl (by decide)

/-- Three fallbacks in a row on a new chat reach nobody. -/
theorem conversation_questions_from_empty :
    ∃ walks, conversation 3 questions (Session.holding { state := .null } (chatAfter [])) = walks ∧
      walks.length = 3 ∧ (∀ walk ∈ walks, "fallback" ∈ walk.visited) ∧
      ∀ walk ∈ walks, walk.session.Has "escalate_to_human" (.bool false) := by
  have hchat : IsChat (chatAfter []) [] (some (.bool false)) := ⟨rfl, rfl⟩
  have hfallback : ∀ walk ∈ conversation 3 questions
      (Session.holding { state := .null } (chatAfter [])), "fallback" ∈ walk.visited := by
    decide +kernel
  refine ⟨_, rfl, rfl, hfallback, ?_⟩
  intro walk hwalk
  obtain ⟨final, ⟨-, hsession⟩, hfinal⟩ :=
    conversation_fallsBack 3 questions { state := .null } hchat hfallback walk hwalk
  rw [hsession, Session.has_holding_iff, hfinal.escalate]
  rfl

end Workgraph.Chat
