import Mathlib.Data.List.Nodup
import Workgraph.Proofs.Calls

/-!
# What executors carry over

Which edges of a blueprint its executor follows. A loop has one arm for a node, and the arm follows the routing
of the node or else its first plain edge. An executor without routers runs the nodes as they are listed.
-/

namespace Workgraph.Codegen

/-- The line that passes control to a destination on every run of an arm. -/
def jumpLine : Destination → String
  | .stop => "                break;"
  | .node name => "                current_node = \"" ++ name ++ "\";"

/-- Some line of an arm passes control to a destination, always or for an answer of the router. -/
def PassesTo (arm : Listing) (destination : Destination) : Prop :=
  jumpLine destination ∈ arm ∨ ∃ key, branchLine (key, destination) ∈ arm

private theorem jumpLine_stop : jumpLine .stop = "                break;" := rfl

theorem jumpLine_node (name : String) :
    jumpLine (.node name) = "                current_node = \"" ++ name ++ "\";" := rfl

theorem actionLines_proceed (name : String) (destination : Destination) :
    actionLines name (.proceed destination) = [jumpLine destination] := by
  cases destination <;> rfl

private theorem jumpLine_inj {destination other : Destination} (h : jumpLine destination = jumpLine other) :
    destination = other := by
  have hapart (name : String) : jumpLine (.node name) ≠ jumpLine .stop := by
    rw [jumpLine_node, jumpLine_stop, String.append_assoc]
    exact Text.append_ne_literal (by decide) _
  cases destination with
  | stop =>
      cases other with
      | stop => rfl
      | node name => exact absurd h.symm (hapart name)
  | node name =>
      cases other with
      | stop => exact absurd h (hapart name)
      | node other =>
          rw [jumpLine_node, jumpLine_node, String.append_left_inj, String.append_right_inj] at h
          rw [h]

theorem branchLine_ne_jumpLine (branch : String × Destination) (destination : Destination) :
    branchLine branch ≠ jumpLine destination := by
  obtain ⟨rest, hline⟩ := exists_branchLine_eq branch
  rw [hline]
  cases destination with
  | stop => exact Text.append_ne_literal (by decide) rest
  | node name =>
      rw [jumpLine_node, String.append_assoc]
      exact Text.append_ne_append (by decide) rest _

/-- A line that passes control on, always or for an answer of the router. -/
def PassesControl (line : String) : Prop :=
  (∃ destination, line = jumpLine destination) ∨ ∃ branch, line = branchLine branch

/-- The beginnings of the lines that pass control on. -/
def controlLeads : List (List Char) := [
  List.replicate 16 ' ' ++ ['b', 'r', 'e', 'a', 'k', ';'],
  List.replicate 16 ' ' ++
    ['c', 'u', 'r', 'r', 'e', 'n', 't', '_', 'n', 'o', 'd', 'e', ' ', '=', ' ', '"'],
  List.replicate 20 ' ' ++ ['"']]

theorem PassesControl.exists_lead {line : String} (h : PassesControl line) :
    ∃ lead ∈ controlLeads, ∃ rest, line = String.ofList lead ++ rest := by
  obtain ⟨destination, rfl⟩ | ⟨branch, rfl⟩ := h
  · cases destination with
    | stop => exact ⟨_, .head _, "", String.append_empty.symm⟩
    | node name =>
        refine ⟨_, .tail _ (.head _), name ++ "\";", ?_⟩
        rw [jumpLine_node, String.append_assoc]
        rfl
  · obtain ⟨rest, hline⟩ := exists_branchLine_eq branch
    exact ⟨_, .tail _ (.tail _ (.head _)), rest, hline⟩

theorem not_passesControl_append {opening : List Char}
    (h : ∀ lead ∈ controlLeads, Text.Apart opening lead) (rest : String) :
    ¬ PassesControl (String.ofList opening ++ rest) := by
  intro hline
  obtain ⟨lead, hlead, tail, heq⟩ := hline.exists_lead
  exact Text.append_ne_append (h lead hlead) rest tail heq

theorem not_passesControl_literal {text : List Char} (h : ∀ lead ∈ controlLeads, ¬ lead <+: text) :
    ¬ PassesControl (String.ofList text) := by
  intro hline
  obtain ⟨lead, hlead, tail, heq⟩ := hline.exists_lead
  apply h lead hlead
  refine ⟨tail.toList, ?_⟩
  simpa using (congrArg String.toList heq).symm

namespace Action

def transfers : Action → Listing
  | .proceed destination => [jumpLine destination]
  | .choose branches => branches.map branchLine

def destinations : Action → List Destination
  | .proceed destination => [destination]
  | .choose branches => branches.map Prod.snd

end Action

private theorem mem_actionLines_iff {name line : String} {action : Action} (hline : PassesControl line) :
    line ∈ actionLines name action ↔ line ∈ action.transfers := by
  cases action with
  | proceed destination => rw [actionLines_proceed, Action.transfers]
  | choose branches =>
      simp only [actionLines, Action.transfers, List.mem_append, List.mem_cons, List.not_mem_nil,
        or_false]
      constructor
      · rintro (((rfl | rfl) | h) | rfl | rfl)
        · exact absurd hline (not_passesControl_append (by decide) name)
        · rw [String.append_assoc] at hline
          exact absurd hline (not_passesControl_append (by decide) _)
        · exact h
        · exact absurd hline (not_passesControl_literal (by decide))
        · exact absurd hline (not_passesControl_literal (by decide))
      · intro h
        exact .inl (.inr h)

theorem mem_armLines_iff {name line : String} {action : Action} (hline : PassesControl line) :
    line ∈ armLines name action ↔ line ∈ action.transfers := by
  have haction : line ∈ actionLines name action ↔ line ∈ action.transfers :=
    mem_actionLines_iff hline
  rw [← haction]
  simp only [armLines, List.mem_append, List.mem_cons, List.not_mem_nil, or_false]
  constructor
  · have hnamed {opening : List Char} {rest : String}
        (h : ∀ lead ∈ controlLeads, Text.Apart opening lead) :
        ¬ PassesControl (String.ofList opening ++ name ++ rest) := by
      rw [String.append_assoc]
      exact not_passesControl_append h _
    rintro (((rfl | rfl | rfl | rfl | rfl) | h) | rfl)
    · exact absurd hline (hnamed (by decide))
    · exact absurd hline (hnamed (by decide))
    · exact absurd hline (hnamed (by decide))
    · exact absurd hline (hnamed (by decide))
    · exact absurd hline (not_passesControl_literal (by decide))
    · exact h
    · exact absurd hline (not_passesControl_literal (by decide))
  · intro h
    exact .inl (.inr h)

theorem jumpLine_mem_armLines {name : String} {action : Action} {destination : Destination} :
    jumpLine destination ∈ armLines name action ↔ action = .proceed destination := by
  rw [mem_armLines_iff (.inl ⟨destination, rfl⟩)]
  constructor
  · intro h
    cases action with
    | proceed other => rw [jumpLine_inj (List.mem_singleton.1 h)]
    | choose branches =>
        obtain ⟨branch, -, hline⟩ := List.mem_map.1 h
        exact absurd hline (branchLine_ne_jumpLine branch destination)
  · rintro rfl
    exact List.mem_singleton_self _

/-- Whether a destination is named without quotes. -/
def Destination.IsQuotable : Destination → Prop
  | .stop => True
  | .node name => '"' ∉ name.toList

private theorem branchLine_inj_of_quotable {branch other : String × Destination}
    (hkey : '"' ∉ other.1.toList) (htarget : other.2.IsQuotable)
    (h : branchLine branch = branchLine other) : branch = other := by
  refine branchLine_inj ?_ hkey h
  -- The line shows only the quotes around the names, so `branch` adds none either.
  have hcount := congrArg (fun line => line.toList.count '"') h
  have hends := congrArg (fun line => line.toList.reverse) h
  obtain ⟨key, destination⟩ := branch
  obtain ⟨other, destination'⟩ := other
  have hother := List.count_eq_zero.2 hkey
  rw [← List.count_eq_zero]
  cases destination with
  | stop =>
      cases destination' with
      | stop => simpa [branchLine_stop, hother] using hcount
      | node name => simp [branchLine_stop, branchLine_node] at hends
  | node name =>
      cases destination' with
      | stop => simp [branchLine_stop, branchLine_node] at hends
      | node name' =>
          have hname := List.count_eq_zero.2 htarget
          have hquotes : key.toList.count '"' + (name.toList.count '"' + 1 + 1 + 1) = 3 := by
            simpa [branchLine_node, hother, hname] using hcount
          change key.toList.count '"' = 0
          omega

private theorem branchLine_mem_armLines {name : String} {action : Action} {branch : String × Destination}
    (h : branchLine branch ∈ armLines name action) :
    ∃ branches, action = .choose branches ∧ branchLine branch ∈ branches.map branchLine := by
  rw [mem_armLines_iff (.inr ⟨branch, rfl⟩)] at h
  cases action with
  | proceed destination =>
      exact absurd (List.mem_singleton.1 h) (branchLine_ne_jumpLine branch destination)
  | choose branches => exact ⟨branches, rfl, h⟩

/-- All names of an action can stand within quotes. -/
def Action.IsQuotable : Action → Prop
  | .proceed _ => True
  | .choose branches => ∀ branch ∈ branches, '"' ∉ branch.1.toList ∧ branch.2.IsQuotable

private theorem passesTo_of_mem_destinations {action : Action} {destination : Destination}
    (h : destination ∈ action.destinations) (name : String) :
    PassesTo (armLines name action) destination := by
  cases action with
  | proceed other =>
      obtain rfl := List.mem_singleton.1 h
      exact .inl (jumpLine_mem_armLines.2 rfl)
  | choose branches =>
      obtain ⟨⟨key, destination⟩, hbranch, rfl⟩ := List.mem_map.1 h
      refine .inr ⟨key, (mem_armLines_iff (.inr ⟨_, rfl⟩)).2 ?_⟩
      exact List.mem_map.2 ⟨_, hbranch, rfl⟩

theorem mem_destinations_of_passesTo {name : String} {action : Action} {destination : Destination}
    (haction : action.IsQuotable) (h : PassesTo (armLines name action) destination) :
    destination ∈ action.destinations := by
  obtain h | ⟨key, h⟩ := h
  · rw [jumpLine_mem_armLines.1 h]
    exact List.mem_singleton_self _
  · obtain ⟨branches, rfl, hmem⟩ := branchLine_mem_armLines h
    obtain ⟨other, hother, hline⟩ := List.mem_map.1 hmem
    have heq := branchLine_inj_of_quotable (haction other hother).1 (haction other hother).2
      hline.symm
    exact List.mem_map.2 ⟨other, hother, by rw [← heq]⟩

namespace Blueprint

def arm (b : Blueprint) (name : String) : Listing := armLines name (b.action name)

/-- The answers and targets of the routing after a node hold no quotes. -/
def HasQuotableRouting (b : Blueprint) (name : String) : Prop :=
  ∀ routing, b.routings.get? name = some routing → ∀ branch ∈ routing.branches.entries,
    '"' ∉ branch.1.toList ∧ '"' ∉ branch.2.toList

/-- An edge that control can take: its source has a routing with a branch to the same destination, or no
routing and a first plain edge to the same destination. -/
def Keeps (b : Blueprint) (edge : EdgeSpec) : Prop :=
  match b.routings.get? edge.source with
  | some routing =>
    ∃ branch ∈ routing.branches.entries, Destination.ofTarget branch.2 = .ofTarget edge.target
  | none =>
    ∃ before first after, b.edges = before ++ first :: after ∧ first.source = edge.source ∧
      (∀ other ∈ before, other.source ≠ edge.source) ∧
      Destination.ofTarget first.target = .ofTarget edge.target

private theorem arm_infix_executor {b : Blueprint} (hloop : b.isConditional = true) {node : NodeSpec}
    (hnode : node ∈ b.nodes) : b.arm node.name <:+: b.executor := by
  have harm : b.arm node.name <:+:
      b.nodes.flatMap fun node => armLines node.name (b.action node.name) := by
    rw [List.flatMap_def]
    exact List.infix_of_mem_flatten (List.mem_map.2 ⟨node, hnode, rfl⟩)
  rw [executor, hloop, if_pos rfl, loopLogic]
  exact (harm.trans (List.infix_append ..)).trans (List.infix_append ..)

private theorem isQuotable_action {b : Blueprint} {name : String} (h : b.HasQuotableRouting name) :
    (b.action name).IsQuotable := by
  unfold action
  split
  · rename_i routing hrouting
    intro branch hbranch
    obtain ⟨entry, hentry, rfl⟩ := List.mem_map.1 hbranch
    obtain ⟨hkey, htarget⟩ := h routing hrouting entry hentry
    refine ⟨hkey, ?_⟩
    unfold Destination.ofTarget
    split
    · trivial
    · exact htarget
  · split <;> trivial

theorem keeps_iff_mem_destinations {b : Blueprint} {edge : EdgeSpec} (hedge : edge ∈ b.edges) :
    b.Keeps edge ↔
      Destination.ofTarget edge.target ∈ (b.action edge.source).destinations := by
  unfold Keeps action
  cases hrouting : b.routings.get? edge.source with
  | some routing =>
      simp only [Action.destinations, List.map_map, List.mem_map, Function.comp_apply]
  | none =>
      cases hfirst : b.edgeFrom? edge.source with
      | none =>
          have hnone := List.find?_eq_none.1 hfirst edge hedge
          simp at hnone
      | some first =>
          obtain ⟨hsource, before, after, hedges, hbefore⟩ := List.find?_eq_some_iff_append.1 hfirst
          simp only [Action.destinations, List.mem_singleton]
          constructor
          · rintro ⟨before', first', after', hedges', hsource', hbefore', htarget⟩
            have hfirst' : b.edgeFrom? edge.source = some first' := by
              refine List.find?_eq_some_iff_append.2 ⟨by simpa using hsource', before', after', hedges', ?_⟩
              intro other hother
              simpa using hbefore' other hother
            rw [hfirst, Option.some.injEq] at hfirst'
            rw [hfirst', htarget]
          · intro htarget
            refine ⟨before, first, after, hedges, by simpa using hsource, ?_, htarget.symm⟩
            intro other hother
            simpa using hbefore other hother

/-- The arm of a node in the executor of a blueprint with routers passes control along a plain edge of the
node exactly when the edge is kept. -/
theorem passesTo_edge_iff_keeps {b : Blueprint} (hloop : b.isConditional = true)
    {edge : EdgeSpec} (hedge : edge ∈ b.edges)
    (hsource : ∃ node ∈ b.nodes, node.name = edge.source) :
    b.arm edge.source <:+: b.executor ∧
      (b.Keeps edge → PassesTo (b.arm edge.source) (.ofTarget edge.target)) ∧
      (b.HasQuotableRouting edge.source →
        PassesTo (b.arm edge.source) (.ofTarget edge.target) → b.Keeps edge) := by
  obtain ⟨node, hnode, hname⟩ := hsource
  refine ⟨hname ▸ arm_infix_executor hloop hnode, ?_, ?_⟩
  · intro hkeeps
    exact passesTo_of_mem_destinations ((keeps_iff_mem_destinations hedge).1 hkeeps) _
  · intro hquotable hpasses
    exact (keeps_iff_mem_destinations hedge).2
      (mem_destinations_of_passesTo (isQuotable_action hquotable) hpasses)

def forked : Blueprint where
  entry := "start"
  fields := []
  nodes := [⟨"start", "start", "(state)", none, none⟩, ⟨"left", "left", "(state)", none, none⟩,
    ⟨"right", "right", "(state)", none, none⟩]
  edges := [⟨"start", "left"⟩, ⟨"start", "right"⟩, ⟨"right", "END"⟩]
  routings := Table.ofList
    [("left", ⟨"is_done", Table.ofList [("again", "start"), ("done", "END")]⟩)]

theorem passesTo_forked :
    forked.Keeps ⟨"start", "left"⟩ ∧ PassesTo (forked.arm "start") (.ofTarget "left") := by
  have hkeeps : forked.Keeps ⟨"start", "left"⟩ := ⟨[], _, _, rfl, rfl, by simp, rfl⟩
  have hedge : (⟨"start", "left"⟩ : EdgeSpec) ∈ forked.edges := List.mem_cons_self
  have hsource : ∃ node ∈ forked.nodes, node.name = "start" := ⟨_, List.mem_cons_self, rfl⟩
  exact ⟨hkeeps, (passesTo_edge_iff_keeps rfl hedge hsource).2.1 hkeeps⟩

/-- The second of two plain edges is lost. -/
theorem not_passesTo_forked :
    forked.isConditional = true ∧ ⟨"start", "right"⟩ ∈ forked.edges ∧
      (∃ node ∈ forked.nodes, node.name = "start") ∧
      ¬ PassesTo (forked.arm "start") (.ofTarget "right") := by
  refine ⟨rfl, ?_, ⟨_, List.mem_cons_self, rfl⟩, ?_⟩
  · exact List.mem_cons_of_mem _ List.mem_cons_self
  · intro hpasses
    have haction : forked.action "start" = .proceed (.node "left") := rfl
    rw [arm, haction] at hpasses
    have hmem : Destination.node "right" ∈ (Action.proceed (.node "left")).destinations :=
      mem_destinations_of_passesTo trivial hpasses
    exact absurd hmem (by decide)

end Blueprint

/-- What stands between a beginning and an ending of a text. -/
def between? (lead tail s : List Char) : Option (List Char) :=
  let rest := s.drop lead.length
  if lead.isPrefixOf s && tail.isSuffixOf rest then some (rest.take (rest.length - tail.length))
  else none

private theorem between?_append (lead tail s : List Char) :
    between? lead tail (lead ++ (s ++ tail)) = some s := by
  simp [between?]

private theorem between?_eq_none {lead s : List Char} (h : Text.Apart lead s) (tail rest : List Char) :
    between? lead tail (s ++ rest) = none := by
  have hbegins : lead.isPrefixOf (s ++ rest) = false := by
    rw [Bool.eq_false_iff, Ne, List.isPrefixOf_iff_prefix]
    exact h.not_begins rest
  rw [between?, hbegins]
  rfl

private theorem between?_line_eq_none {lead opening : List Char}
    (h : Text.Apart lead (opening.dropWhile (· == ' '))) (tail : List Char) (rest : String) :
    between? lead tail ((String.ofList opening ++ rest).toList.dropWhile (· == ' ')) = none := by
  have hopening : opening.dropWhile (· == ' ') ≠ [] := by
    intro hnil
    rw [hnil] at h
    exact h.2 List.nil_prefix
  rw [String.toList_append, String.toList_ofList, Text.dropWhile_append hopening]
  exact between?_eq_none h tail rest.toList

private theorem between?_line_eq_some {lead opening : List Char} (hlead : lead ≠ [])
    (h : opening.dropWhile (· == ' ') = lead) (tail name : String) :
    between? lead tail.toList ((String.ofList opening ++ name ++ tail).toList.dropWhile (· == ' ')) =
      some name.toList := by
  have hopening : opening.dropWhile (· == ' ') ≠ [] := by rwa [h]
  rw [String.append_assoc, String.toList_append, String.toList_ofList, Text.dropWhile_append hopening, h,
    String.toList_append]
  exact between?_append lead tail.toList name.toList

/-- The node whose function a line calls. -/
def calledNode? (line : String) : Option String :=
  (between? "state = ".toList "_node(state).await".toList (line.toList.dropWhile (· == ' '))).map
    String.ofList

/-- The nodes whose functions the lines of a listing call, in order. -/
def nodeCalls (lines : Listing) : List String := lines.filterMap calledNode?

theorem nodeCalls_append (lines others : Listing) :
    nodeCalls (lines ++ others) = nodeCalls lines ++ nodeCalls others :=
  List.filterMap_append

/-- The characters of the text that calls of nodes begin with. -/
def stateLead : List Char := ['s', 't', 'a', 't', 'e', ' ', '=', ' ']

theorem toList_stateLead : "state = ".toList = stateLead := String.toList_ofList

private theorem calledNode?_call {opening : List Char}
    (h : opening.dropWhile (· == ' ') = stateLead) (name : String) :
    calledNode? (String.ofList opening ++ name ++ "_node(state).await") = some name := by
  rw [calledNode?, toList_stateLead, between?_line_eq_some (by simp [stateLead]) h, Option.map_some,
    String.ofList_toList]

theorem calledNode?_append {opening : List Char}
    (h : Text.Apart stateLead (opening.dropWhile (· == ' ')))
    (rest : String) : calledNode? (String.ofList opening ++ rest) = none := by
  rw [calledNode?, toList_stateLead, between?_line_eq_none h]
  rfl

theorem calledNode?_literal {text : List Char}
    (h : Text.Apart stateLead (text.dropWhile (· == ' '))) :
    calledNode? (String.ofList text) = none := by
  have hnone := calledNode?_append h ""
  rwa [String.append_empty] at hnone

theorem calledNode?_empty : calledNode? "" = none := by decide

private theorem nodeCalls_runNode (node : NodeSpec) : nodeCalls (Blueprint.runNode node) = [node.name] := by
  have hcomment : calledNode? ("    // Execute node: " ++ node.name) = none :=
    calledNode?_append (by decide) _
  have hcontext : calledNode?
      ("        .context(\"Failed to execute node '" ++ node.name ++ "')\")?;") = none := by
    rw [String.append_assoc]
    exact calledNode?_append (by decide) _
  have hcall : calledNode? ("    state = " ++ node.name ++ "_node(state).await") = some node.name :=
    calledNode?_call (by decide) _
  simp only [nodeCalls, Blueprint.runNode, List.filterMap_cons, hcomment, hcall, hcontext,
    List.filterMap_nil]

private theorem nodeCalls_blocks (blocks : List Listing) :
    nodeCalls (Listing.blocks blocks) = blocks.flatMap nodeCalls := by
  induction blocks with
  | nil => simp [Listing.blocks, nodeCalls, calledNode?_empty]
  | cons block rest ih =>
      cases rest with
      | nil => simp [Listing.blocks]
      | cons next rest =>
          rw [Listing.blocks, nodeCalls_append, List.flatMap_cons, ← ih]
          · simp [nodeCalls, calledNode?_empty]
          · simp

private theorem nodeCalls_linearLogic (b : Blueprint) :
    nodeCalls b.linearLogic = b.nodes.map NodeSpec.name := by
  rw [Blueprint.linearLogic, nodeCalls_blocks, List.flatMap_map]
  simp only [nodeCalls_runNode]
  exact (List.map_eq_flatMap ..).symm

theorem nodeCalls_executor {b : Blueprint} (hlinear : b.isConditional = false) :
    nodeCalls b.executor = b.nodes.map NodeSpec.name := by
  have hhead : nodeCalls ["/// Execute the compiled graph",
      "async fn execute_graph(mut state: GraphState) -> Result<GraphState> \x7b",
      "    tracing::info!(\"Starting graph execution from entry point: " ++ b.entry ++ "\");",
      ""] = [] := by
    apply List.filterMap_eq_nil_iff.2
    simp only [List.mem_cons, List.not_mem_nil, or_false]
    rintro line (rfl | rfl | rfl | rfl)
    · exact calledNode?_literal (by decide)
    · exact calledNode?_literal (by decide)
    · rw [String.append_assoc]
      exact calledNode?_append (by decide) _
    · exact calledNode?_empty
  have hend : nodeCalls ["", "    tracing::info!(\"Graph execution completed successfully\");",
      "    Ok(state)", "\x7d"] = [] := by
    apply List.filterMap_eq_nil_iff.2
    simp only [List.mem_cons, List.not_mem_nil, or_false]
    rintro line (rfl | rfl | rfl | rfl)
    · exact calledNode?_empty
    · exact calledNode?_literal (by decide)
    · exact calledNode?_literal (by decide)
    · exact calledNode?_literal (by decide)
  rw [Blueprint.executor, hlinear, if_neg Bool.false_ne_true, nodeCalls_append, nodeCalls_append,
    hhead, hend, nodeCalls_linearLogic, List.nil_append, List.append_nil]

/-- The steps along a path: from each node to the next, and from the last one to the end. -/
def pathSteps : List String → List (String × Destination)
  | [] => []
  | [last] => [(last, .stop)]
  | first :: second :: rest => (first, .node second) :: pathSteps (second :: rest)

private theorem map_fst_pathSteps (path : List String) : (pathSteps path).map Prod.fst = path := by
  fun_induction pathSteps path with
  | case1 => rfl
  | case2 last => rfl
  | case3 first second rest ih => rw [List.map_cons, ih]

theorem isChain_pathSteps (path : List String) :
    path.IsChain fun x y => (x, Destination.node y) ∈ pathSteps path := by
  fun_induction pathSteps path with
  | case1 => exact .nil
  | case2 last => exact .singleton last
  | case3 first second rest ih =>
      refine .cons_cons List.mem_cons_self (ih.imp ?_)
      intro x y hstep
      exact List.mem_cons_of_mem _ hstep

private theorem pathSteps_functional {path : List String} (hpath : path.Nodup) {x : String}
    {d e : Destination} (hd : (x, d) ∈ pathSteps path) (he : (x, e) ∈ pathSteps path) : d = e := by
  rw [← map_fst_pathSteps path] at hpath
  have heq := List.inj_on_of_nodup_map hpath hd he rfl
  exact (Prod.mk.inj heq).2

private theorem eq_of_isChain {r : α → α → Prop} (hr : ∀ x y z, r x y → r x z → y = z) {xs ys : List α}
    (hxs : xs.IsChain r) (hys : ys.IsChain r) (hhead : xs.head? = ys.head?)
    (hlength : xs.length = ys.length) : xs = ys := by
  induction xs generalizing ys with
  | nil => exact (List.length_eq_zero_iff.1 hlength.symm).symm
  | cons x xs ih =>
      cases ys with
      | nil => simp at hlength
      | cons y ys =>
          obtain rfl : x = y := by simpa using hhead
          have htail : xs.length = ys.length := by simpa using hlength
          rw [ih hxs.of_cons hys.of_cons ?_ htail]
          cases xs with
          | nil => rw [List.length_eq_zero_iff.1 htail.symm]
          | cons x' xs =>
              cases ys with
              | nil => simp at htail
              | cons y' ys =>
                  rw [List.head?_cons, List.head?_cons,
                    hr x x' y' hxs.rel hys.rel]

namespace Blueprint

/-- The plain edges make up one path, from the entry to the end, through every node exactly once. -/
structure IsPath (b : Blueprint) (path : List String) : Prop where
  entry : path.head? = some b.entry
  nodup : path.Nodup
  nodes : (b.nodes.map NodeSpec.name).Perm path
  edges : (b.edges.map fun edge => (edge.source, Destination.ofTarget edge.target)).Perm
    (pathSteps path)

/-- The entry is listed first, and each node right before the one that an edge leads to. -/
def ListsInOrder (b : Blueprint) : Prop :=
  (b.nodes.map NodeSpec.name).head? = some b.entry ∧
    (b.nodes.map NodeSpec.name).IsChain fun x y =>
      ∃ edge ∈ b.edges, edge.source = x ∧ Destination.ofTarget edge.target = .node y

private theorem IsPath.step_iff {b : Blueprint} {path : List String} (h : b.IsPath path) (x y : String) :
    (∃ edge ∈ b.edges, edge.source = x ∧ Destination.ofTarget edge.target = .node y) ↔
      (x, Destination.node y) ∈ pathSteps path := by
  rw [← h.edges.mem_iff, List.mem_map]
  simp only [Prod.mk.injEq]

theorem IsPath.listsInOrder_iff {b : Blueprint} {path : List String} (h : b.IsPath path) :
    b.ListsInOrder ↔ b.nodes.map NodeSpec.name = path := by
  simp only [ListsInOrder, h.step_iff]
  constructor
  · rintro ⟨hhead, hchain⟩
    refine eq_of_isChain ?_ hchain (isChain_pathSteps path) (hhead.trans h.entry.symm)
      h.nodes.length_eq
    intro x y z hy hz
    exact Destination.node.inj (pathSteps_functional h.nodup hy hz)
  · intro hnames
    rw [hnames]
    exact ⟨h.entry, isChain_pathSteps path⟩

/-- The executor of a path calls the nodes as they are listed, which is along the path exactly when they
are listed so. No other place of its text is a call, though a name may look like one. -/
theorem nodeCalls_executor_eq_path_iff {b : Blueprint} {path : List String}
    (hlinear : b.isConditional = false) (hpath : b.IsPath path) :
    nodeCalls b.executor = b.nodes.map NodeSpec.name ∧
      (nodeCalls b.executor = path ↔ b.ListsInOrder) ∧
      ∀ before after, b.executor.text.toList = before ++ "_node(state)".toList ++ after →
        (∃ name ∈ nodeCalls b.executor, ("state = " ++ name).toList <:+ before) ∨
        ∃ name ∈ b.executorNames, Text.Within "_node(state)".toList name.toList before after := by
  have hcalls := nodeCalls_executor hlinear
  refine ⟨hcalls, ?_, ?_⟩
  · rw [hcalls, hpath.listsInOrder_iff]
  · intro before after htext
    rw [hcalls]
    exact (b.isCallOrName_executor .node before after htext).imp_left
      fun ⟨name, hname, hcall⟩ => ⟨name, (List.mem_filter.1 hname).1, hcall⟩

def trail : Blueprint where
  entry := "load"
  fields := []
  nodes := [⟨"load", "load", "(state)", none, none⟩, ⟨"sift", "sift", "(state)", none, none⟩,
    ⟨"save", "save", "(state)", none, none⟩]
  edges := [⟨"save", "END"⟩, ⟨"sift", "save"⟩, ⟨"load", "sift"⟩]
  routings := Table.empty

theorem isPath_trail : trail.IsPath ["load", "sift", "save"] := by
  constructor <;> decide

theorem nodeCalls_trail : nodeCalls trail.executor = ["load", "sift", "save"] := by
  refine (nodeCalls_executor_eq_path_iff (b := trail) rfl isPath_trail).2.1.2 ?_
  exact isPath_trail.listsInOrder_iff.2 rfl

def reversedTrail : Blueprint := { trail with nodes := trail.nodes.reverse }

/-- The nodes of a path are called in another order if they are listed in another order. -/
theorem nodeCalls_reversedTrail :
    reversedTrail.isConditional = false ∧ reversedTrail.IsPath ["load", "sift", "save"] ∧
      nodeCalls reversedTrail.executor ≠ ["load", "sift", "save"] := by
  refine ⟨rfl, ?_, ?_⟩
  · constructor <;> decide
  · rw [nodeCalls_executor rfl]
    decide

end Blueprint

end Workgraph.Codegen
