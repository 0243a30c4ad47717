import Workgraph.Proofs.Routing
import Workgraph.Proofs.Walks

/-!
# Replies

A chat always has an answer. A message is taken for the first kind of which it has a word, and the node for
that kind replies or gives up; where the words leave a gap, the fallback answers. Both routers only look at
what the nodes have written on the way, so neither an old intent nor an old response leads a walk astray.
-/

namespace Workgraph.Chat

open Step

def Names (words : List String) (message : List Char) : Prop :=
  ∃ word ∈ words, word.toList <:+: message

def NamesAll (words : List String) (message : List Char) : Prop :=
  ∀ word ∈ words, word.toList <:+: message

theorem names_append_iff {first second : List String} {message : List Char} :
    Names (first ++ second) message ↔ Names first message ∨ Names second message := by
  simp only [Names, List.mem_append, or_and_right, exists_or]

theorem allOccur_iff (words : List String) (message : List Char) :
    allOccur words message = true ↔ NamesAll words message := by
  simp only [allOccur, List.all_eq_true, Text.occurs_iff_infix, NamesAll]

instance (words : List String) (message : List Char) : Decidable (Names words message) :=
  decidable_of_iff _ (Text.anyOccurs_iff words message)

instance (words : List String) (message : List Char) : Decidable (NamesAll words message) :=
  decidable_of_iff _ (allOccur_iff words message)

def IsQuestion (message : List Char) : Prop :=
  ¬Names greetingWords message ∧ Names questionWords message

def IsCommand (message : List Char) : Prop :=
  ¬Names greetingWords message ∧ ¬Names questionWords message ∧ Names commandWords message

def IsUnclear (message : List Char) : Prop :=
  ¬Names greetingWords message ∧ ¬Names questionWords message ∧ ¬Names commandWords message

/-- A question that the chat has no answer to. -/
def QuestionGap (message : List Char) : Prop :=
  ¬Names ["hours", "open", "price", "cost", "support", "help"] message

/-- A command that the chat cannot follow. -/
def CommandGap (message : List Char) : Prop :=
  ¬Names ["cancel", "refund"] message ∧ ¬NamesAll ["update", "email"] message ∧
    ¬NamesAll ["reset", "password"] message

/-- A message that only the fallback has an answer to. -/
def LeavesGap (message : List Char) : Prop :=
  IsUnclear message ∨ IsQuestion message ∧ QuestionGap message ∨
    IsCommand message ∧ CommandGap message

/-- What a message is taken for, and how surely. -/
inductive Hears (message : List Char) : String → Float → Prop
  | greeting (h : Names greetingWords message) : Hears message "greeting" 0.9
  | question (h : IsQuestion message) : Hears message "question" 0.8
  | command (h : IsCommand message) : Hears message "command" 0.7
  | unclear (h : IsUnclear message) : Hears message "unknown" 0.3

section Intents

variable {fields : Fields} {text : String}

theorem message_holding (h : Fields.get? "user_message" fields = some (.text text))
    (session : Session) :
    message (session.holding fields) = .ok (Text.lower text.toList) (session.holding fields) := by
  simp only [message, bind_apply, read_holding h, Value.chars, liftM_ok, pure_apply]

def noted (intent : String) (confidence : Float) (fields : Fields) : Fields :=
  Fields.set "confidence" (.float confidence) (Fields.set "intent" (.text intent) fields)

theorem eqOutside_noted (intent : String) (confidence : Float) (fields : Fields) :
    Fields.EqOutside ["intent", "confidence"] fields (noted intent confidence fields) :=
  ((Fields.EqOutside.refl _ _).set (by simp) _).set (by simp) _

private theorem exists_detectIntent (h : Fields.get? "user_message" fields = some (.text text))
    (session : Session) :
    ∃ intent confidence, Hears (Text.lower text.toList) intent confidence ∧
      detectIntent (session.holding fields) =
        .ok () (session.holding (noted intent confidence fields)) := by
  simp only [detectIntent, bind_apply, message_holding h]
  split <;> rename_i hgreeting <;> rw [Text.anyOccurs_iff] at hgreeting
  · exact ⟨_, _, .greeting hgreeting, rfl⟩
  split <;> rename_i hquestion <;> rw [Text.anyOccurs_iff] at hquestion
  · exact ⟨_, _, .question ⟨hgreeting, hquestion⟩, rfl⟩
  split <;> rename_i hcommand <;> rw [Text.anyOccurs_iff] at hcommand
  · exact ⟨_, _, .command ⟨hgreeting, hquestion, hcommand⟩, rfl⟩
  · exact ⟨_, _, .unclear ⟨hgreeting, hquestion, hcommand⟩, rfl⟩

def placeOf (intent : String) : String := if intent = "unknown" then "fallback" else intent

private theorem routeAfterIntent_noted {message : List Char} {intent : String} {confidence : Float}
    (hears : Hears message intent confidence) (session : Session) (fields : Fields) :
    routeAfterIntent (session.holding (noted intent confidence fields)) =
      .ok (.text (placeOf intent)) (session.holding (noted intent confidence fields)) := by
  have hintent : (session.holding (noted intent confidence fields)).Has "intent" (.text intent) := by
    rw [Session.has_holding_iff]
    simp [noted, Fields.get?_set]
  have hconfidence :
      (session.holding (noted intent confidence fields)).Has "confidence" (.float confidence) :=
    session.has_holding_set _ _ _
  have hroute := routeAfterIntent_answers hintent hconfidence
  cases hears <;> exact hroute

end Intents

def HasResponse (fields : Fields) : Prop :=
  ∃ response, Fields.get? "response" fields = some (.text response) ∧ response ≠ ""

theorem hasResponse_set {response : String} (h : response ≠ "") (fields : Fields) :
    HasResponse (Fields.set "response" response fields) :=
  ⟨response, Fields.get?_set_self .., h⟩

theorem HasResponse.set {fields : Fields} (h : HasResponse fields) {key : String}
    (hkey : key ≠ "response") (value : Value) : HasResponse (Fields.set key value fields) := by
  obtain ⟨response, hget, hresponse⟩ := h
  exact ⟨response, (Fields.get?_set_of_ne fields hkey value).trans hget, hresponse⟩

theorem inTurn_ne_empty {answers : List String} (hsome : answers ≠ []) (hempty : "" ∉ answers)
    (past : Nat) : inTurn answers past ≠ "" := by
  have hlt : past % answers.length < answers.length := Nat.mod_lt _ (List.length_pos_iff.2 hsome)
  intro h
  rw [inTurn, List.getD_eq_getElem?_getD, List.getElem?_eq_getElem hlt, Option.getD_some] at h
  exact hempty (h ▸ List.getElem_mem hlt)

/-- What the field that asks for a person holds after a fallback. -/
def escalated (history : List Value) (escalate : Option Value) : Option Value :=
  if 2 ≤ history.countP (Value.same "fallback") then some (.bool true) else escalate

section Nodes

variable {fields : Fields} {history : List Value} {text : String}

theorem greet_holding (h : Fields.get? "conversation_history" fields = some (.list history))
    (session : Session) :
    greet (session.holding fields) = .ok () (session.holding
      (Fields.set "response" (inTurn greetings history.length) fields)) := by
  simp only [greet, bind_apply, read_holding h, Value.size, liftM_ok, pure_apply, write_holding]

theorem exists_fallBack (h : Fields.get? "conversation_history" fields = some (.list history))
    (session : Session) : ∃ final, fallBack (session.holding fields) = .ok () (session.holding final) ∧
      HasResponse final ∧ Fields.get? "conversation_history" final = some (.list history) ∧
      Fields.get? "escalate_to_human" final =
        escalated history (Fields.get? "escalate_to_human" fields) := by
  have hanswer : inTurn fallbacks history.length ≠ "" := inTurn_ne_empty (by decide) (by decide) _
  have htriggered : Fields.get? "conversation_history" (Fields.set "fallback_triggered" true fields) =
      some (.list history) := by
    rw [Fields.get?_set_of_ne _ (by decide), h]
  have hanswered : Fields.get? "conversation_history" (Fields.set "response"
      (inTurn fallbacks history.length) (Fields.set "fallback_triggered" true fields)) =
      some (.list history) := by
    rw [Fields.get?_set_of_ne _ (by decide), htriggered]
  simp only [fallBack, bind_apply, write_holding, read_holding htriggered, Value.size, liftM_ok,
    pure_apply, read_holding hanswered, countOf]
  unfold escalated
  by_cases hcount : 2 ≤ history.countP (Value.same "fallback")
  · have hresponse : Fields.get? "response" (Fields.set "escalate_to_human" true
        (Fields.set "response" (inTurn fallbacks history.length)
          (Fields.set "fallback_triggered" true fields))) =
        some (.text (inTurn fallbacks history.length)) := by
      simp [Fields.get?_set]
    simp only [hcount, if_true, bind_apply, write_holding, addTo, pure_apply, read_holding hresponse,
      Value.add, liftM_ok]
    refine ⟨_, rfl, hasResponse_set ?_ _, ?_, ?_⟩
    · simp
    · simpa [Fields.get?_set] using h
    · simp [Fields.get?_set]
  · simp only [hcount, if_false, pure_apply]
    refine ⟨_, rfl, hasResponse_set hanswer _, hanswered, ?_⟩
    simp [Fields.get?_set]

end Nodes

/-- What a reply to a message leaves. Where the message leaves a gap there is no response, nobody is asked
for, and the chat is unsure. -/
structure IsReply (gap : Prop) (fields replied : Fields) : Prop where
  frame : Fields.EqOutside ["response", "confidence", "context", "escalate_to_human"] fields replied
  response : ¬gap → HasResponse replied
  silence : gap → Fields.get? "response" replied = some (.text "")
  unsure : gap → Fields.get? "confidence" replied = some (.float 0.4)
  escalate : gap →
    Fields.get? "escalate_to_human" replied = Fields.get? "escalate_to_human" fields

def Replies (gap : Prop) (step : Step Unit) : Prop :=
  ∀ (session : Session) fields, ∃ replied,
    step (session.holding fields) = .ok () (session.holding replied) ∧ IsReply gap fields replied

theorem Replies.congr {gap gap' : Prop} {step : Step Unit} (h : Replies gap step)
    (hgap : gap ↔ gap') : Replies gap' step := by
  rwa [← propext hgap]

/-- Where a condition stands for an answer, the gap is outside of it. -/
theorem Replies.ite {c gap : Prop} [Decidable c] {yes no : Step Unit} (hyes : Replies False yes)
    (hno : Replies gap no) : Replies (¬c ∧ gap) (if c then yes else no) := by
  by_cases hc : c
  · rw [if_pos hc]
    exact hyes.congr (by simp [hc])
  · rw [if_neg hc]
    exact hno.congr (by simp [hc])

theorem isReply_of_hasResponse {fields replied : Fields} (hframe : Fields.EqOutside
    ["response", "confidence", "context", "escalate_to_human"] fields replied)
    (hresponse : HasResponse replied) : IsReply False fields replied :=
  ⟨hframe, fun _ => hresponse, False.elim, False.elim, False.elim⟩

theorem replies_answer (subject : String) {response : String} (h : response ≠ "") :
    Replies False (answer subject response) := by
  intro session fields
  refine ⟨_, rfl, isReply_of_hasResponse ?_ ?_⟩
  · exact ((Fields.EqOutside.refl _ _).set (by simp) _).set (by simp) _
  · exact (hasResponse_set h fields).set (by decide) _

private theorem replies_transfer {response : String} (h : response ≠ "") :
    Replies False (do write "response" response; write "escalate_to_human" true) := by
  intro session fields
  refine ⟨_, rfl, isReply_of_hasResponse ?_ ?_⟩
  · exact ((Fields.EqOutside.refl _ _).set (by simp) _).set (by simp) _
  · exact (hasResponse_set h fields).set (by decide) _

theorem replies_giveUp : Replies True giveUp := by
  intro session fields
  refine ⟨_, rfl, ?_, fun hno => absurd trivial hno, ?_, ?_, ?_⟩
  · exact ((Fields.EqOutside.refl _ _).set (by simp) _).set (by simp) _
  · simp
  · simp [Fields.get?_set]
  · simp [Fields.get?_set]

def IsReplying (gap : List Char → Prop) (step : Step Unit) : Prop :=
  ∃ reply : List Char → Step Unit, step = message >>= reply ∧ ∀ s, Replies (gap s) (reply s)

theorem isReplying_answerQuestion : IsReplying QuestionGap answerQuestion := by
  refine ⟨_, rfl, ?_⟩
  intro s
  apply Replies.congr (.ite (replies_answer _ (by decide)) (.ite (replies_answer _ (by decide))
    (.ite (replies_answer _ (by decide)) replies_giveUp)))
  have hwords : QuestionGap s ↔
      ¬Names (["hours", "open"] ++ (["price", "cost"] ++ ["support", "help"])) s := Iff.rfl
  rw [hwords, names_append_iff, names_append_iff, not_or, not_or, Text.anyOccurs_iff,
    Text.anyOccurs_iff, Text.anyOccurs_iff, and_true]
  rfl

theorem isReplying_obeyCommand : IsReplying CommandGap obeyCommand := by
  refine ⟨_, rfl, ?_⟩
  intro s
  apply Replies.congr (.ite (replies_transfer (by decide)) (.ite (replies_answer _ (by decide))
    (.ite (replies_answer _ (by decide)) replies_giveUp)))
  rw [Text.anyOccurs_iff, allOccur_iff, allOccur_iff, and_true]
  rfl

private theorem routeAfterResponse_of_hasResponse {fields : Fields} (h : HasResponse fields)
    (session : Session) :
    routeAfterResponse (session.holding fields) = .ok (.text terminal) (session.holding fields) := by
  obtain ⟨response, hget, hresponse⟩ := h
  have hholds := holds_of_read (read_holding hget session) ""
  rw [beq_eq_false_iff_ne.2 hresponse] at hholds
  simp only [routeAfterResponse, both, bind_apply, hholds, pure_apply, Bool.false_eq_true, if_false]

private theorem routeAfterResponse_of_silence {fields : Fields}
    (hsilence : Fields.get? "response" fields = some (.text ""))
    (hunsure : Fields.get? "confidence" fields = some (.float 0.4)) (session : Session) :
    routeAfterResponse (session.holding fields) =
      .ok (.text "fallback") (session.holding fields) := by
  have hholds := holds_of_read (read_holding hsilence session) ""
  have hless : (Value.float 0.4).less (.float 0.6) = .ok true := rfl
  rw [beq_self_eq_true] at hholds
  simp only [routeAfterResponse, both, bind_apply, hholds, pure_apply, if_true,
    read_holding hunsure, hless, liftM_ok]

section Walks

variable {fields : Fields} {history : List Value} {text : String}

theorem exists_walk_succ (htext : Fields.get? "user_message" fields = some (.text text)) (limit : Nat)
    (session : Session) :
    ∃ intent confidence, Hears (Text.lower text.toList) intent confidence ∧
      workflow.walk (limit + 1) (session.holding fields) =
        ((workflow.walkFrom limit (placeOf intent)
          (session.holding (noted intent confidence fields))).after
            ⟨.router "route_after_intent", some (.text (placeOf intent)), none,
              .record (noted intent confidence fields)⟩).after
              ⟨.node "detect_intent", none, none, .record (noted intent confidence fields)⟩ := by
  obtain ⟨intent, confidence, hears, hrun⟩ := exists_detectIntent htext session
  have hroute := routeAfterIntent_noted hears session fields
  have htarget : Branching.target? ⟨"detect_intent", ⟨"route_after_intent", routeAfterIntent⟩,
      [("greeting", "greeting"), ("question", "question"), ("command", "command"),
        ("fallback", "fallback")]⟩ (.text (placeOf intent)) = some (placeOf intent) := by
    cases hears <;> rfl
  refine ⟨intent, confidence, hears, ?_⟩
  show workflow.walkFrom (limit + 1) "detect_intent" _ = _
  rw [Workflow.walkFrom_branching (by decide) rfl hrun rfl hroute htarget]
  rfl

theorem exists_walkFrom_replying {gap : List Char → Prop} {name : String} {node : Node}
    (hname : name ≠ terminal) (hnode : workflow.node? name = some node)
    (hreplying : IsReplying gap node.run)
    (hbranching : workflow.branching? name = some ⟨name, ⟨"route_after_response", routeAfterResponse⟩,
      [("fallback", "fallback"), (terminal, terminal)]⟩)
    (htext : Fields.get? "user_message" fields = some (.text text)) (limit : Nat) (session : Session) :
    ∃ replied target, IsReply (gap (Text.lower text.toList)) fields replied ∧
      (gap (Text.lower text.toList) ∧ target = "fallback" ∨
        ¬gap (Text.lower text.toList) ∧ target = terminal) ∧
      workflow.walkFrom (limit + 1) name (session.holding fields) =
        ((workflow.walkFrom limit target (session.holding replied)).after
          ⟨.router "route_after_response", some (.text target), none, .record replied⟩).after
            ⟨.node name, none, none, .record replied⟩ := by
  obtain ⟨reply, hstep, hreply⟩ := hreplying
  obtain ⟨replied, hreplied, hisReply⟩ := hreply (Text.lower text.toList) session fields
  have hrun : node.run (session.holding fields) = .ok () (session.holding replied) := by
    rw [hstep, bind_apply, message_holding htext]
    exact hreplied
  by_cases hgap : gap (Text.lower text.toList)
  · have hroute := routeAfterResponse_of_silence (hisReply.silence hgap) (hisReply.unsure hgap) session
    exact ⟨replied, _, hisReply, .inl ⟨hgap, rfl⟩,
      Workflow.walkFrom_branching hname hnode hrun hbranching hroute rfl limit⟩
  · have hroute := routeAfterResponse_of_hasResponse (hisReply.response hgap) session
    exact ⟨replied, _, hisReply, .inr ⟨hgap, rfl⟩,
      Workflow.walkFrom_branching hname hnode hrun hbranching hroute rfl limit⟩

/-- The walk finishes after a few nodes, with an answer and with the history as it was. It has passed the
fallback exactly if there is a gap. -/
structure EndsAnswered (history : List Value) (session : Session) (nodes : Nat) (gap : Prop)
    (walk : Walk) : Prop where
  answered : ∃ final, walk.FinishesIn (session.holding final) ∧ HasResponse final ∧
    Fields.get? "conversation_history" final = some (.list history)
  short : walk.visited.length ≤ nodes
  fallback : "fallback" ∈ walk.visited ↔ gap

namespace EndsAnswered

variable {session : Session} {nodes : Nat} {gap : Prop} {walk : Walk}

theorem weaken (h : EndsAnswered history session nodes gap walk) {more : Nat} {gap' : Prop}
    (hnodes : nodes ≤ more) (hgap : gap ↔ gap') : EndsAnswered history session more gap' walk :=
  ⟨h.answered, Nat.le_trans h.short hnodes, h.fallback.trans hgap⟩

theorem after_node (h : EndsAnswered history session nodes gap walk) {name : String}
    (hname : name ≠ "fallback") {answer : Option Value} {fault : Option Fault} {state : Value} :
    EndsAnswered history session (nodes + 1) gap (walk.after ⟨.node name, answer, fault, state⟩) where
  answered := h.answered
  short := by
    rw [Walk.visited_after_node, List.length_cons]
    exact Nat.succ_le_succ h.short
  fallback := by
    rw [Walk.visited_after_node, List.mem_cons, or_iff_right (Ne.symm hname), h.fallback]

theorem after_router (h : EndsAnswered history session nodes gap walk) {router : String}
    {answer : Option Value} {fault : Option Fault} {state : Value} :
    EndsAnswered history session nodes gap (walk.after ⟨.router router, answer, fault, state⟩) where
  answered := h.answered
  short := h.short
  fallback := h.fallback

end EndsAnswered

theorem endsAnswered_terminal (hresponse : HasResponse fields)
    (hhistory : Fields.get? "conversation_history" fields = some (.list history)) (limit : Nat)
    (session : Session) : EndsAnswered history session 0 False
      (workflow.walkFrom limit terminal (session.holding fields)) := by
  rw [Workflow.walkFrom_terminal]
  exact ⟨⟨fields, ⟨rfl, rfl⟩, hresponse, hhistory⟩, Nat.le_refl 0, by simp [Walk.visited]⟩

theorem endsAnswered_fallback
    (hhistory : Fields.get? "conversation_history" fields = some (.list history)) (limit : Nat)
    (session : Session) : EndsAnswered history session 1 True
      (workflow.walkFrom (limit + 1) "fallback" (session.holding fields)) := by
  obtain ⟨final, hrun, hresponse, hkept, -⟩ := exists_fallBack hhistory session
  rw [Workflow.walkFrom_edge (by decide) rfl hrun rfl rfl, Workflow.walkFrom_terminal]
  refine ⟨⟨final, ⟨rfl, rfl⟩, hresponse, hkept⟩, Nat.le_refl 1, ?_⟩
  rw [Walk.visited_after_node]
  simp

private theorem endsAnswered_greeting
    (hhistory : Fields.get? "conversation_history" fields = some (.list history)) (limit : Nat)
    (session : Session) : EndsAnswered history session 1 False
      (workflow.walkFrom (limit + 1) "greeting" (session.holding fields)) := by
  have hresponse : HasResponse (Fields.set "response" (inTurn greetings history.length) fields) :=
    hasResponse_set (inTurn_ne_empty (by decide) (by decide) _) fields
  have hkept : Fields.get? "conversation_history" (Fields.set "response"
      (inTurn greetings history.length) fields) = some (.list history) := by
    rw [Fields.get?_set_of_ne _ (by decide), hhistory]
  rw [Workflow.walkFrom_edge (by decide) rfl (greet_holding hhistory session) rfl rfl]
  exact (endsAnswered_terminal hresponse hkept limit session).after_node (by decide)

theorem endsAnswered_replying {gap : List Char → Prop} {name : String} {node : Node}
    (hname : name ≠ terminal ∧ name ≠ "fallback") (hnode : workflow.node? name = some node)
    (hreplying : IsReplying gap node.run)
    (hbranching : workflow.branching? name = some ⟨name, ⟨"route_after_response", routeAfterResponse⟩,
      [("fallback", "fallback"), (terminal, terminal)]⟩)
    (htext : Fields.get? "user_message" fields = some (.text text))
    (hhistory : Fields.get? "conversation_history" fields = some (.list history)) (limit : Nat)
    (session : Session) : EndsAnswered history session 2 (gap (Text.lower text.toList))
      (workflow.walkFrom (limit + 2) name (session.holding fields)) := by
  obtain ⟨replied, target, hreply, htarget, hwalk⟩ :=
    exists_walkFrom_replying hname.1 hnode hreplying hbranching htext (limit + 1) session
  have hkept := (hreply.frame "conversation_history" (by decide)).trans hhistory
  rw [hwalk]
  apply EndsAnswered.after_node _ hname.2
  apply EndsAnswered.after_router
  rcases htarget with ⟨hgap, rfl⟩ | ⟨hgap, rfl⟩
  · exact (endsAnswered_fallback hkept limit session).weaken (Nat.le_refl 1) (by simp [hgap])
  · exact (endsAnswered_terminal (hreply.response hgap) hkept _ session).weaken (Nat.zero_le 1)
      (by simp [hgap])

end Walks

/-- Whatever a chat holds besides its message and its history, the walk finishes after at most three nodes with
an answer, and leaves the history alone. The fallback is among the nodes exactly if the message, in lower
case, leaves a gap. -/
theorem walk_endsAnswered (limit : Nat) (session : Session) {fields : Fields}
    {history : List Value} {text : String}
    (htext : Fields.get? "user_message" fields = some (.text text))
    (hhistory : Fields.get? "conversation_history" fields = some (.list history)) :
    EndsAnswered history session 3 (LeavesGap (Text.lower text.toList))
      (workflow.walk (limit + 3) (session.holding fields)) := by
  obtain ⟨intent, confidence, hears, hwalk⟩ := exists_walk_succ htext (limit + 2) session
  have hframe := eqOutside_noted intent confidence fields
  have hmessage := (hframe "user_message" (by decide)).trans htext
  have hkept := (hframe "conversation_history" (by decide)).trans hhistory
  rw [hwalk]
  apply EndsAnswered.after_node _ (by decide)
  apply EndsAnswered.after_router
  cases hears with
  | greeting hgreeting =>
      apply (endsAnswered_greeting hkept (limit + 1) session).weaken (by decide)
      simp [LeavesGap, IsUnclear, IsQuestion, IsCommand, hgreeting]
  | question hquestion =>
      apply (endsAnswered_replying (by decide) rfl isReplying_answerQuestion rfl hmessage hkept limit
        session).weaken (Nat.le_refl 2)
      simp [LeavesGap, IsUnclear, IsQuestion, IsCommand, hquestion.1, hquestion.2]
  | command hcommand =>
      apply (endsAnswered_replying (by decide) rfl isReplying_obeyCommand rfl hmessage hkept limit
        session).weaken (Nat.le_refl 2)
      simp [LeavesGap, IsUnclear, IsQuestion, IsCommand, hcommand.1, hcommand.2.1, hcommand.2.2]
  | unclear hunclear =>
      apply (endsAnswered_fallback hkept (limit + 1) session).weaken (by decide)
      simp [LeavesGap, hunclear]

/-- A command that asks for a reset, but not of a password, in a chat with old and odd entries. -/
def lampReset : Fields := [
  ("user_message", "Please RESET the lamp"),
  ("conversation_history", .list ["fallback", "Hello"]), ("intent", "greeting"),
  ("confidence", .null), ("response", "Bye")]

theorem walk_lampReset : EndsAnswered ["fallback", "Hello"] { state := .null } 3 True
    (workflow.walk 3 (Session.holding { state := .null } lampReset)) := by
  have hgap : LeavesGap (Text.lower "Please RESET the lamp".toList) := by
    refine .inr (.inr ?_)
    unfold IsCommand CommandGap
    decide +kernel
  apply (walk_endsAnswered 0 { state := .null } rfl rfl).weaken (Nat.le_refl 3)
  exact iff_true_intro hgap

end Workgraph.Chat
