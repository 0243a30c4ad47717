import Mathlib.Data.List.Basic
import Workgraph.Proofs.Contracts
import Workgraph.Workflows.Accumulator
import Workgraph.Workflows.Assistant
import Workgraph.Workflows.Campaign
import Workgraph.Workflows.Chain
import Workgraph.Workflows.Chat
import Workgraph.Workflows.DataQuality
import Workgraph.Workflows.Documents
import Workgraph.Workflows.Experiment
import Workgraph.Workflows.Gateway
import Workgraph.Workflows.Moderation
import Workgraph.Workflows.Orders
import Workgraph.Workflows.Paths
import Workgraph.Workflows.Pipeline
import Workgraph.Workflows.Recommendations
import Workgraph.Workflows.Roster
import Workgraph.Workflows.Support
import Workgraph.Workflows.Threshold

/-!
# Walks that cannot get lost

A workflow is closed when its edges and tables lead to nodes or to the end, and each table has a target for
what its router answers. A walk of a closed workflow ends at the end, at a fault or at its limit. All workflows
of the library are closed. Most routers answer from a fixed stock whatever the state is; two pass on what
the state holds, and their tables have targets because of what the node before them has written.
-/

namespace Workgraph

open Step

namespace Walk

/-- How a walk with a limit may end: at the end, with the fault of the node or router that it came to last, or
when it has visited as many nodes as the limit allows. -/
def EndsWithin (limit : Nat) (walk : Walk) : Prop :=
  match walk.ending with
  | .finished => True
  | .failed fault => ∃ event, walk.events.getLast? = some event ∧ event.fault = some fault
  | .limitReached => walk.visited.length = limit
  | .noNode _ | .noTarget _ => False

variable {limit : Nat} {walk : Walk}

theorem EndsWithin.after {n : Nat} (h : walk.EndsWithin limit) {event : Event}
    (hvisited : (walk.after event).visited.length = walk.visited.length + n) :
    (walk.after event).EndsWithin (limit + n) := by
  obtain ⟨events, ending, session⟩ := walk
  cases ending with
  | finished => trivial
  | failed fault =>
      obtain ⟨last, hlast, hfault⟩ := h
      refine ⟨last, ?_, hfault⟩
      change (event :: events).getLast? = some last
      rw [List.getLast?_cons, hlast, Option.getD_some]
  | limitReached => exact hvisited.trans (congrArg (· + n) h)
  | noNode name => exact h
  | noTarget answer => exact h

theorem EndsWithin.after_node (h : walk.EndsWithin limit) {name : String} {answer : Option Value}
    {fault : Option Fault} {state : Value} :
    (walk.after ⟨.node name, answer, fault, state⟩).EndsWithin (limit + 1) :=
  h.after rfl

theorem EndsWithin.after_router (h : walk.EndsWithin limit) {name : String} {answer : Option Value}
    {fault : Option Fault} {state : Value} :
    (walk.after ⟨.router name, answer, fault, state⟩).EndsWithin limit :=
  h.after (n := 0) rfl

end Walk

theorem mem_of_lookup {entries : List (String × α)} {key : String} {v : α}
    (h : entries.lookup key = some v) : (key, v) ∈ entries := by
  obtain ⟨before, rest, rfl, -⟩ := List.lookup_eq_some_iff.1 h
  simp

theorem isSome_lookup_of_mem {entries : List (String × α)} {key : String}
    (h : key ∈ entries.map Prod.fst) : (entries.lookup key).isSome := by
  rw [Option.isSome_iff_ne_none, Ne, List.lookup_eq_none_iff]
  intro hnone
  obtain ⟨entry, hentry, rfl⟩ := List.mem_map.1 h
  simpa using hnone entry hentry

/-- All answers of a decision are among some texts. -/
def Answers (texts : List String) (decision : Step Value) : Prop :=
  Ensures anywhere decision fun answer _ => ∃ text ∈ texts, answer = .text text

namespace Answers

variable {texts : List String}

theorem text {text : String} (h : text ∈ texts) : Answers texts (pure (.text text)) :=
  .pure fun _ _ => ⟨text, h, rfl⟩

theorem after {first : Step α} {next : α → Step Value} (h : ∀ a, Answers texts (next a)) :
    Answers texts (first >>= next) :=
  Ensures.after h

theorem choose {c : Prop} [Decidable c] {yes no : Step Value} (hyes : Answers texts yes)
    (hno : Answers texts no) : Answers texts (if c then yes else no) :=
  Ensures.ite hyes hno

end Answers

namespace Branching

variable {branching : Branching}

/-- After the step, the table of the branching has a target for what its router answers. -/
def IsAnsweredAfter (branching : Branching) (step : Step Unit) : Prop :=
  Ensures anywhere (do step; branching.router.decide)
    fun answer _ => (branching.target? answer).isSome

theorem mem_targets {answer : Value} {target : String}
    (h : branching.target? answer = some target) : ∃ key, (key, target) ∈ branching.targets := by
  cases answer with
  | text key => exact ⟨key, mem_of_lookup h⟩
  | _ => cases h

end Branching

theorem Answers.isAnsweredAfter {texts : List String} {decision : Step Value} {step : Step Unit}
    {source name : String} {targets : List (String × String)} (h : Answers texts decision)
    (htexts : targets.map Prod.fst = texts) :
    Branching.IsAnsweredAfter ⟨source, ⟨name, decision⟩, targets⟩ step := by
  apply Ensures.after
  intro _
  refine Ensures.weaken h ?_
  rintro _ _ ⟨text, htext, rfl⟩
  exact isSome_lookup_of_mem (htexts ▸ htext)

namespace Workflow

variable {w : Workflow} {name : String} {node : Node}

/-- A name at which a walk can go on: the end or a node. -/
def Knows (w : Workflow) (name : String) : Prop := name = terminal ∨ (w.node? name).isSome

instance (w : Workflow) (name : String) : Decidable (w.Knows name) :=
  inferInstanceAs (Decidable (_ ∨ _))

/-- What is run at a name; nothing where no node has the name. -/
def stepAt (w : Workflow) (name : String) : Step Unit :=
  match w.node? name with
  | some node => node.run
  | none => pure ()

/-- The entry, all edges and all tables lead to nodes or to the end, and something follows each node. -/
def IsLinked (w : Workflow) : Prop :=
  w.Knows w.entry ∧ (∀ edge ∈ w.edges, w.Knows edge.2) ∧
    (∀ branching ∈ w.branchings, ∀ target ∈ branching.targets, w.Knows target.2) ∧
    ∀ node ∈ w.nodes, (w.branching? node.name).isSome ∨ (w.next? node.name).isSome

instance (w : Workflow) : Decidable w.IsLinked := inferInstanceAs (Decidable (_ ∧ _ ∧ _ ∧ _))

/-- All names lead on, and where a router follows a node, its table has a target for the answer. -/
structure IsClosed (w : Workflow) : Prop where
  linked : w.IsLinked
  answered : w.branchings.Forall fun branching =>
    branching.IsAnsweredAfter (w.stepAt branching.source)

private theorem mem_branchings {branching : Branching} (h : w.branching? name = some branching) :
    branching ∈ w.branchings ∧ branching.source = name :=
  ⟨List.mem_of_find?_eq_some h, by simpa using List.find?_some h⟩

namespace IsClosed

private theorem next_of_node? (h : w.IsClosed) (hnode : w.node? name = some node)
    (hbranching : w.branching? name = none) :
    ∃ target, w.next? name = some target ∧ w.Knows target := by
  obtain ⟨-, hedges, -, honward⟩ := h.linked
  have hname : node.name = name := by simpa using List.find?_some hnode
  obtain hrouter | hnext := honward node (List.mem_of_find?_eq_some hnode)
  · simp [hname, hbranching] at hrouter
  · obtain ⟨target, htarget⟩ := Option.isSome_iff_exists.1 hnext
    rw [hname] at htarget
    exact ⟨target, htarget, hedges (name, target) (mem_of_lookup htarget)⟩

private theorem target_of_answer (h : w.IsClosed) (hnode : w.node? name = some node)
    {branching : Branching} (hbranching : w.branching? name = some branching) {answer : Value}
    {session done decided : Session} (hrun : node.run session = .ok () done)
    (hanswer : branching.router.decide done = .ok answer decided) :
    ∃ target, branching.target? answer = some target ∧ w.Knows target := by
  obtain ⟨-, -, htargets, -⟩ := h.linked
  obtain ⟨hmem, rfl⟩ := mem_branchings hbranching
  have hstep : w.stepAt branching.source = node.run := by
    simp only [stepAt, hnode]
  have htarget : (branching.target? answer).isSome := by
    have hensures := List.forall_iff_forall_mem.1 h.answered branching hmem
    rw [hstep] at hensures
    apply hensures session trivial answer decided
    rw [bind_apply, hrun]
    exact hanswer
  obtain ⟨target, htarget⟩ := Option.isSome_iff_exists.1 htarget
  obtain ⟨key, hkey⟩ := Branching.mem_targets htarget
  exact ⟨target, htarget, htargets branching hmem (key, target) hkey⟩

/-- A walk that starts at a known name does not get lost. -/
theorem endsWithin_walkFrom (h : w.IsClosed) (hname : w.Knows name) (limit : Nat)
    (session : Session) : (w.walkFrom limit name session).EndsWithin limit := by
  induction limit generalizing name session with
  | zero =>
      by_cases hend : name = terminal
      · rw [hend, walkFrom_terminal]
        trivial
      · obtain ⟨node, hnode⟩ := Option.isSome_iff_exists.1 (hname.resolve_left hend)
        rw [walkFrom_zero hend hnode]
        rfl
  | succ limit ih =>
      by_cases hend : name = terminal
      · rw [hend, walkFrom_terminal]
        trivial
      obtain ⟨node, hnode⟩ := Option.isSome_iff_exists.1 (hname.resolve_left hend)
      cases hrun : node.run session with
      | error fault done =>
          rw [walkFrom_node_fault hend hnode hrun]
          exact ⟨_, rfl, rfl⟩
      | ok _ done =>
          cases hbranching : w.branching? name with
          | none =>
              obtain ⟨target, htarget, hknown⟩ := h.next_of_node? hnode hbranching
              rw [walkFrom_edge hend hnode hrun hbranching htarget]
              exact (ih hknown done).after_node
          | some branching =>
              cases hanswer : branching.router.decide done with
              | error fault decided =>
                  rw [walkFrom_router_fault hend hnode hrun hbranching hanswer]
                  exact ⟨_, rfl, rfl⟩
              | ok answer decided =>
                  obtain ⟨target, htarget, hknown⟩ := h.target_of_answer hnode hbranching hrun hanswer
                  rw [walkFrom_branching hend hnode hrun hbranching hanswer htarget]
                  exact (ih hknown decided).after_router.after_node

end IsClosed

end Workflow

namespace Support

private theorem answers_routeAfterAnalysis : Answers ["tier1", "tier2", "escalate"] routeAfterAnalysis := by
  refine .after fun _ => .choose (.text ?_) (.after fun _ => .choose (.text ?_) (.text ?_))
  all_goals simp

private theorem answers_routeAfterFirstTier : Answers ["tier2", terminal] routeAfterFirstTier := by
  refine .after fun _ => .choose (.text ?_) (.text ?_)
  all_goals simp

private theorem answers_routeAfterSecondTier : Answers ["escalate", terminal] routeAfterSecondTier := by
  refine .after fun _ => .choose (.text ?_) (.text ?_)
  all_goals simp

theorem isClosed_workflow : workflow.IsClosed where
  linked := by decide
  answered := ⟨answers_routeAfterAnalysis.isAnsweredAfter rfl,
    answers_routeAfterFirstTier.isAnsweredAfter rfl, answers_routeAfterSecondTier.isAnsweredAfter rfl⟩

end Support

namespace Moderation

private theorem answers_routeAfterDecision : Answers ["human_review", terminal] routeAfterDecision := by
  refine .after fun _ => .choose (.text ?_) (.text ?_)
  all_goals simp

theorem isClosed_workflow : workflow.IsClosed where
  linked := by decide
  answered := answers_routeAfterDecision.isAnsweredAfter rfl

end Moderation

namespace Documents

theorem answers_routeAfterValidation : Answers ["finalize", "retry"] routeAfterValidation := by
  refine .after fun _ => .after fun _ => .choose (.text ?_)
    (.after fun _ => .after fun _ => .choose (.text ?_) (.text ?_))
  all_goals simp

theorem isClosed_workflow : workflow.IsClosed where
  linked := by decide
  answered := answers_routeAfterValidation.isAnsweredAfter rfl

end Documents

namespace Gateway

private theorem answers_routeAfterCache : Answers ["primary", terminal] routeAfterCache := by
  refine .after fun _ => .choose (.text ?_) (.text ?_)
  all_goals simp

private theorem answers_routeAfterCall : Answers ["check_circuit", terminal] routeAfterCall := by
  refine .after fun _ => .choose (.text ?_) (.text ?_)
  all_goals simp

private theorem answers_routeAfterCircuit : Answers ["retry", "fallback", "error"] routeAfterCircuit := by
  refine .after fun _ => .choose (.text ?_)
    (.after fun _ => .after fun _ => .after fun _ => .choose (.text ?_) (.text ?_))
  all_goals simp

theorem isClosed_workflow : workflow.IsClosed where
  linked := by decide
  answered := ⟨answers_routeAfterCache.isAnsweredAfter rfl, answers_routeAfterCall.isAnsweredAfter rfl,
    answers_routeAfterCircuit.isAnsweredAfter rfl⟩

end Gateway

namespace Experiment

private theorem answers_routeAfterEligibility : Answers ["assign", "track"] routeAfterEligibility := by
  refine .after fun _ => .after fun _ => .choose (.text ?_) (.text ?_)
  all_goals simp

theorem isClosed_workflow : workflow.IsClosed where
  linked := by decide
  answered := answers_routeAfterEligibility.isAnsweredAfter rfl

end Experiment

namespace Orders

theorem answers_routeAfterValidation : Answers ["check_inventory", "cancel"] routeAfterValidation := by
  refine .after fun _ => .after fun _ => .after fun _ => .choose (.text ?_) (.text ?_)
  all_goals simp

private theorem answers_routeAfterInventory : Answers ["payment", "cancel"] routeAfterInventory := by
  refine .after fun _ => .choose (.text ?_) (.text ?_)
  all_goals simp

private theorem answers_routeAfterPayment : Answers ["shipping_select", "cancel"] routeAfterPayment := by
  refine .after fun _ => .choose (.text ?_) (.text ?_)
  all_goals simp

theorem isClosed_workflow : workflow.IsClosed where
  linked := by decide
  answered := ⟨answers_routeAfterValidation.isAnsweredAfter rfl,
    answers_routeAfterInventory.isAnsweredAfter rfl, answers_routeAfterPayment.isAnsweredAfter rfl⟩

end Orders

namespace DataQuality

theorem answers_routeAfterValidation : Answers ["enrich", terminal] routeAfterValidation := by
  refine .after fun _ => .after fun _ => .choose (.text ?_) (.text ?_)
  all_goals simp

private theorem answers_routeAfterGrading : Answers ["manual_review", "finalize"] routeAfterGrading := by
  refine .after fun _ => .choose (.text ?_) (.text ?_)
  all_goals simp

theorem isClosed_workflow : workflow.IsClosed where
  linked := by decide
  answered := ⟨answers_routeAfterValidation.isAnsweredAfter rfl,
    answers_routeAfterGrading.isAnsweredAfter rfl⟩

end DataQuality

namespace Pipeline

theorem answers_routeAfterValidation : Answers ["transform", "stats"] routeAfterValidation := by
  refine .after fun _ => .after fun _ => .after fun _ => .after fun _ =>
    .choose (.after fun _ => .text ?_) (.text ?_)
  all_goals simp

theorem isClosed_workflow : workflow.IsClosed where
  linked := by decide
  answered := answers_routeAfterValidation.isAnsweredAfter rfl

end Pipeline

namespace Campaign

theorem answers_routeAfterValidation : Answers ["personalize", terminal] routeAfterValidation := by
  refine .after fun _ => .after fun _ => .choose (.after fun _ => .text ?_) (.text ?_)
  all_goals simp

theorem isClosed_workflow : workflow.IsClosed where
  linked := by decide
  answered := answers_routeAfterValidation.isAnsweredAfter rfl

end Campaign

namespace Recommendations

private theorem answers_routeAfterProfile : Answers ["collaborative", "contextual"] routeAfterProfile := by
  refine .after fun _ => .choose (.text ?_) (.text ?_)
  all_goals simp

theorem answers_routeAfterStrategy :
    Answers ["rank", "content_based", "trending"] routeAfterStrategy := by
  refine .after fun _ => .after fun _ => .choose (.text ?_)
    (.after fun _ => .choose (.text ?_) (.text ?_))
  all_goals simp

theorem isClosed_workflow : workflow.IsClosed where
  linked := by decide
  answered := ⟨answers_routeAfterProfile.isAnsweredAfter rfl, answers_routeAfterStrategy.isAnsweredAfter rfl,
    answers_routeAfterStrategy.isAnsweredAfter rfl⟩

end Recommendations

namespace Threshold

private theorem answers_routeByValue : Answers ["high", "low"] routeByValue := by
  refine .after fun _ => .after fun _ => .choose (.text ?_) (.text ?_)
  all_goals simp

theorem answers_routeOnward : Answers ["start", "end"] routeOnward := by
  refine .after fun _ => .choose (.text ?_) (.text ?_)
  all_goals simp

theorem isClosed_workflow : workflow.IsClosed where
  linked := by decide
  answered := ⟨answers_routeByValue.isAnsweredAfter rfl, answers_routeOnward.isAnsweredAfter rfl,
    answers_routeOnward.isAnsweredAfter rfl⟩

end Threshold

namespace Accumulator

theorem answers_routeOnward : Answers ["loop_body", "finalize"] routeOnward := by
  refine .after fun _ => .after fun _ => .after fun _ => .choose (.text ?_) (.text ?_)
  all_goals simp

theorem isClosed_workflow : workflow.IsClosed where
  linked := by decide
  answered := answers_routeOnward.isAnsweredAfter rfl

end Accumulator

namespace Paths

private theorem answers_route : Answers ["path_a", "path_b", "path_c"] route := by
  refine .after fun _ => .after fun _ => .choose (.text ?_)
    (.after fun _ => .choose (.text ?_) (.text ?_))
  all_goals simp

theorem isClosed_workflow : workflow.IsClosed where
  linked := by decide
  answered := answers_route.isAnsweredAfter rfl

end Paths

namespace Chain

theorem isClosed_workflow : workflow.IsClosed where
  linked := by decide
  answered := trivial

end Chain

namespace Roster

theorem isClosed_workflow : workflow.IsClosed where
  linked := by decide
  answered := trivial

end Roster

namespace Assistant

private theorem process_ensures : Ensures anywhere process fun _ session =>
    ∃ action ∈ ["process", "end"], session.Has "next_action" (.text action) := by
  refine .after fun _ => .after fun _ => .after fun _ => .after fun _ => .ite ?_ ?_
  · exact Ensures.write.weaken fun _ _ h => ⟨"end", by simp, h⟩
  · exact Ensures.write.weaken fun _ _ h => ⟨"process", by simp, h⟩

theorem isClosed_workflow : workflow.IsClosed where
  linked := by decide
  answered := by
    refine process_ensures.bind fun _ => ?_
    rintro session ⟨action, haction, hhas⟩ answer done hrun
    change readOr "next_action" "end" session = .ok answer done at hrun
    rw [readOr_of_has hhas] at hrun
    cases hrun
    exact isSome_lookup_of_mem haction

end Assistant

namespace Chat

theorem answers_routeAfterResponse : Answers ["fallback", terminal] routeAfterResponse := by
  refine .after fun _ => .choose (.text ?_) (.text ?_)
  all_goals simp

/-- The session holds an intent that has a node, or one that is too unsure to be followed. -/
def HasIntent (session : Session) : Prop :=
  ∃ intent confidence, session.Has "intent" (.text intent) ∧
    session.Has "confidence" (.float confidence) ∧
    (intent ∈ ["greeting", "question", "command"] ∨
      (Value.float confidence).less (.float 0.5) = .ok true)

theorem noteIntent_ensures {intent : String} {confidence : Float}
    (h : intent ∈ ["greeting", "question", "command"] ∨
      (Value.float confidence).less (.float 0.5) = .ok true) :
    Ensures anywhere (noteIntent intent confidence) fun _ => HasIntent := by
  have hwrites : Ensures anywhere (noteIntent intent confidence) fun _ session =>
      session.Has "intent" (.text intent) ∧ session.Has "confidence" (.float confidence) :=
    Ensures.write.bind fun _ => Ensures.write_other (by decide)
  exact hwrites.weaken fun _ _ hnoted => ⟨intent, confidence, hnoted.1, hnoted.2, h⟩

private theorem detectIntent_ensures : Ensures anywhere detectIntent fun _ => HasIntent := by
  refine .after fun _ => .ite ?_ (.ite ?_ (.ite ?_ ?_))
  · exact noteIntent_ensures (.inl (by simp))
  · exact noteIntent_ensures (.inl (by simp))
  · exact noteIntent_ensures (.inl (by simp))
  · exact noteIntent_ensures (.inr rfl)

theorem routeAfterIntent_answers {session : Session} {intent : String} {confidence : Float}
    (hintent : session.Has "intent" (.text intent))
    (hconfidence : session.Has "confidence" (.float confidence)) :
    routeAfterIntent session =
      match (Value.float confidence).less (.float 0.5) with
      | .ok unsure => .ok (.text (if unsure then "fallback" else intent)) session
      | .error fault => .error fault session := by
  simp only [routeAfterIntent, bind_apply, read_of_has hconfidence]
  cases (Value.float confidence).less (.float 0.5) with
  | error fault => rfl
  | ok unsure =>
      cases unsure with
      | true => rfl
      | false => exact read_of_has hintent

theorem isClosed_workflow : workflow.IsClosed where
  linked := by decide
  answered := by
    refine ⟨?_, answers_routeAfterResponse.isAnsweredAfter rfl,
      answers_routeAfterResponse.isAnsweredAfter rfl⟩
    refine detectIntent_ensures.bind fun _ => ?_
    rintro session ⟨intent, confidence, hintent, hconfidence, h⟩ answer done hrun
    change routeAfterIntent session = .ok answer done at hrun
    rw [routeAfterIntent_answers hintent hconfidence] at hrun
    obtain hknown | hunsure := h
    · split at hrun
      · cases hrun
        apply isSome_lookup_of_mem
        split
        · simp
        · simp only [List.mem_cons, List.not_mem_nil, or_false] at hknown
          obtain rfl | rfl | rfl := hknown <;> simp
      · cases hrun
    · rw [hunsure] at hrun
      cases hrun
      rfl

end Chat

def catalogue : List Workflow := [
  Assistant.workflow, Support.workflow, Moderation.workflow, Documents.workflow, Chat.workflow,
  Gateway.workflow, Experiment.workflow, Orders.workflow, DataQuality.workflow, Pipeline.workflow,
  Campaign.workflow, Recommendations.workflow, Chain.workflow, Threshold.workflow,
  Accumulator.workflow, Paths.workflow, Roster.workflow]

private theorem isClosed_catalogue : catalogue.Forall Workflow.IsClosed :=
  ⟨Assistant.isClosed_workflow, Support.isClosed_workflow, Moderation.isClosed_workflow,
    Documents.isClosed_workflow, Chat.isClosed_workflow, Gateway.isClosed_workflow,
    Experiment.isClosed_workflow, Orders.isClosed_workflow, DataQuality.isClosed_workflow,
    Pipeline.isClosed_workflow, Campaign.isClosed_workflow, Recommendations.isClosed_workflow,
    Chain.isClosed_workflow, Threshold.isClosed_workflow, Accumulator.isClosed_workflow,
    Paths.isClosed_workflow, Roster.isClosed_workflow⟩

/-- No walk of a workflow of the library gets lost, whatever it starts with and whatever it draws: it comes to
the end, stops at a fault of a node or router, or visits as many nodes as its limit allows. -/
theorem walk_endsWithin_of_mem_catalogue {w : Workflow} (hw : w ∈ catalogue) (limit : Nat) (session : Session) :
    (w.walk limit session).EndsWithin limit := by
  have hclosed := List.forall_iff_forall_mem.1 isClosed_catalogue w hw
  exact hclosed.endsWithin_walkFrom hclosed.linked.1 limit session

theorem walk_chat_endsWithin :
    Chat.workflow ∈ catalogue ∧
      (Chat.workflow.walk 3 { state := .null }).EndsWithin 3 ∧
      (Chat.workflow.walk 1
        { state := .record [("user_message", "Zzz"), ("intent", "sleep")] }).EndsWithin 1 := by
  have hmem : Chat.workflow ∈ catalogue :=
    .tail _ (.tail _ (.tail _ (.tail _ (.head _))))
  exact ⟨hmem, walk_endsWithin_of_mem_catalogue hmem 3 _, walk_endsWithin_of_mem_catalogue hmem 1 _⟩

end Workgraph
