import Workgraph.Codegen.Program
import Workgraph.Proofs.Lines

/-!
# Reading an executor back

An executor with a loop is printed arm by arm, and an arm by what follows its node. Each of these blocks of
lines determines what it was printed from and where it ends, as long as the names in it hold no quote and no
newline. So the text of the executor determines the entry, the nodes and what follows each of them.
-/

namespace Workgraph

theorem Table.mem_of_get? {table : Table α} {key : String} {v : α}
    (h : table.get? key = some v) : (key, v) ∈ table.entries := by
  obtain ⟨before, after, hsplit, -⟩ := List.lookup_eq_some_iff.1 h
  rw [hsplit]
  simp

namespace Codegen

/-- Each block, at the start of a longer list, determines what it stands for and what comes after it. -/
def SelfDelimiting (good : α → Prop) (block : α → List β) : Prop :=
  ∀ x y r s, good x → good y → block x ++ r = block y ++ s → x = y ∧ r = s

/-- A row of such blocks shows its own end if no block begins like the element after the row. -/
theorem SelfDelimiting.row {good : α → Prop} {block : α → List β}
    (hblock : SelfDelimiting good block) {stop : β}
    (hstop : ∀ x r s, good x → block x ++ r ≠ stop :: s) {xs ys : List α} {r s : List β}
    (hxs : ∀ x ∈ xs, good x) (hys : ∀ y ∈ ys, good y)
    (h : xs.flatMap block ++ stop :: r = ys.flatMap block ++ stop :: s) : xs = ys ∧ r = s := by
  induction xs generalizing ys with
  | nil =>
      cases ys with
      | nil => exact ⟨rfl, (List.cons.inj h).2⟩
      | cons y ys =>
          rw [List.flatMap_cons, List.append_assoc] at h
          exact absurd h.symm (hstop y _ _ (hys y List.mem_cons_self))
  | cons x xs ih =>
      have hx := hxs x List.mem_cons_self
      rw [List.flatMap_cons, List.append_assoc] at h
      cases ys with
      | nil => exact absurd h (hstop x _ _ hx)
      | cons y ys =>
          rw [List.flatMap_cons, List.append_assoc] at h
          obtain ⟨rfl, hrest⟩ := hblock x y _ _ hx (hys y List.mem_cons_self) h
          obtain ⟨rfl, hrs⟩ := ih (fun z hz => hxs z (List.mem_cons_of_mem x hz))
            (fun z hz => hys z (List.mem_cons_of_mem x hz)) hrest
          exact ⟨rfl, hrs⟩

/-- A text that can stand within quotes and on one line as it is. -/
def IsPlain (s : String) : Prop := '"' ∉ s.toList ∧ '\n' ∉ s.toList

instance (s : String) : Decidable (IsPlain s) := inferInstanceAs (Decidable (_ ∧ _))

def Destination.IsPlain : Destination → Prop
  | .stop => True
  | .node name => Codegen.IsPlain name

def Action.IsPlain : Action → Prop
  | .proceed destination => destination.IsPlain
  | .choose branches => ∀ branch ∈ branches, Codegen.IsPlain branch.1 ∧ branch.2.IsPlain

/-- All names that an executor shows are plain. -/
structure Blueprint.IsPlain (b : Blueprint) : Prop where
  entry : Codegen.IsPlain b.entry
  nodes : ∀ node ∈ b.nodes, Codegen.IsPlain node.name
  edges : ∀ edge ∈ b.edges, Codegen.IsPlain edge.target
  branches : ∀ routing ∈ b.routings.entries, ∀ branch ∈ routing.2.branches.entries,
    Codegen.IsPlain branch.1 ∧ Codegen.IsPlain branch.2

theorem Destination.isPlain_ofTarget {target : String} (h : Codegen.IsPlain target) :
    (Destination.ofTarget target).IsPlain := by
  unfold Destination.ofTarget
  split
  · trivial
  · exact h

theorem Blueprint.IsPlain.action {b : Blueprint} (h : b.IsPlain) (name : String) :
    (b.action name).IsPlain := by
  unfold Blueprint.action
  split
  · rename_i routing hrouting
    intro branch hbranch
    obtain ⟨entry, hentry, rfl⟩ := List.mem_map.1 hbranch
    obtain ⟨hkey, htarget⟩ := h.branches _ (Table.mem_of_get? hrouting) entry hentry
    exact ⟨hkey, Destination.isPlain_ofTarget htarget⟩
  · split
    · rename_i edge hedge
      exact Destination.isPlain_ofTarget (h.edges edge (List.mem_of_find?_eq_some hedge))
    · trivial

theorem branchLine_stop (key : String) : branchLine (key, .stop) =
    "                    \"" ++ key ++ "\" => " ++ "break," := rfl

theorem branchLine_node (key name : String) : branchLine (key, .node name) =
    "                    \"" ++ key ++ "\" => " ++ ("\"" ++ name ++ "\",") := rfl

private theorem branchLine_free {branch : String × Destination} (hkey : IsPlain branch.1)
    (htarget : branch.2.IsPlain) : '\n' ∉ (branchLine branch).toList := by
  obtain ⟨key, destination⟩ := branch
  cases destination with
  | stop => simpa [branchLine_stop] using hkey.2
  | node name =>
      have hname : IsPlain name := htarget
      simpa [branchLine_node] using ⟨hkey.2, hname.2⟩

private theorem actionLines_free {name : String} {action : Action} (hname : IsPlain name)
    (haction : action.IsPlain) : ∀ line ∈ actionLines name action, '\n' ∉ line.toList := by
  intro line hline
  cases action with
  | proceed destination =>
      cases destination with
      | stop =>
          obtain rfl := List.mem_singleton.1 hline
          exact Text.not_mem_literal (by decide)
      | node target =>
          have htarget : IsPlain target := haction
          obtain rfl := List.mem_singleton.1 hline
          exact Text.not_mem_framed (by decide) htarget.2 (by decide)
  | choose branches =>
      simp only [actionLines, List.mem_append, List.mem_cons, List.not_mem_nil, or_false,
        List.mem_map] at hline
      obtain ((rfl | rfl) | ⟨branch, hbranch, rfl⟩) | rfl | rfl := hline
      · simpa using hname.2
      · exact Text.not_mem_framed (by decide) hname.2 (by decide)
      · exact branchLine_free (haction branch hbranch).1 (haction branch hbranch).2
      · exact Text.not_mem_literal (by decide)
      · exact Text.not_mem_literal (by decide)

private theorem armLines_free {name : String} {action : Action} (hname : IsPlain name)
    (haction : action.IsPlain) : ∀ line ∈ armLines name action, '\n' ∉ line.toList := by
  intro line hline
  simp only [armLines, List.mem_append, List.mem_cons, List.not_mem_nil, or_false] at hline
  obtain ((rfl | rfl | rfl | rfl | rfl) | hline) | rfl := hline
  · exact Text.not_mem_framed (by decide) hname.2 (by decide)
  · exact Text.not_mem_framed (by decide) hname.2 (by decide)
  · exact Text.not_mem_framed (by decide) hname.2 (by decide)
  · exact Text.not_mem_framed (by decide) hname.2 (by decide)
  · exact Text.not_mem_literal (by decide)
  · exact actionLines_free hname haction line hline
  · exact Text.not_mem_literal (by decide)

theorem branchLine_inj {branch other : String × Destination} (hbranch : '"' ∉ branch.1.toList)
    (hother : '"' ∉ other.1.toList) (h : branchLine branch = branchLine other) :
    branch = other := by
  obtain ⟨key, destination⟩ := branch
  obtain ⟨key', destination'⟩ := other
  have hread {s t : String} (he : "                    \"" ++ key ++ "\" => " ++ s =
      "                    \"" ++ key' ++ "\" => " ++ t) : key = key' ∧ s = t := by
    have hchars := congrArg String.toList he
    simp only [String.toList_append, List.append_assoc, List.append_cancel_left_eq] at hchars
    obtain ⟨hkey, hrest⟩ := Text.append_mark_inj hbranch hother hchars
    exact ⟨String.toList_inj.1 hkey, String.toList_inj.1 (by simpa using hrest)⟩
  cases destination with
  | stop =>
      cases destination' with
      | stop =>
          obtain ⟨rfl, -⟩ := hread h
          rfl
      | node name =>
          have hrest := congrArg String.toList (hread h).2
          simp at hrest
  | node name =>
      cases destination' with
      | stop =>
          have hrest := congrArg String.toList (hread h).2
          simp at hrest
      | node name' =>
          obtain ⟨rfl, hrest⟩ := hread h
          have hname : name = name' := by
            simpa only [String.append_left_inj, String.append_right_inj] using hrest
          rw [hname]

theorem exists_branchLine_eq (branch : String × Destination) :
    ∃ rest, branchLine branch = "                    \"" ++ rest := by
  obtain ⟨key, destination⟩ := branch
  cases destination with
  | stop =>
      refine ⟨key ++ ("\" => " ++ "break,"), ?_⟩
      rw [branchLine_stop, String.append_assoc, String.append_assoc]
  | node name =>
      refine ⟨key ++ ("\" => " ++ ("\"" ++ name ++ "\",")), ?_⟩
      rw [branchLine_node, String.append_assoc, String.append_assoc]

private theorem branchLine_ne_default (branch : String × Destination) :
    branchLine branch ≠
      "                    _ => anyhow::bail!(\"Unknown routing condition\")," := by
  obtain ⟨rest, hline⟩ := exists_branchLine_eq branch
  rw [hline]
  exact Text.append_ne_literal (by decide) rest

private theorem selfDelimiting_branchLine :
    SelfDelimiting (fun branch : String × Destination => IsPlain branch.1 ∧ branch.2.IsPlain)
      (fun branch => [branchLine branch]) := by
  intro branch other r s hbranch hother h
  obtain ⟨hline, hrest⟩ := List.cons.inj h
  exact ⟨branchLine_inj hbranch.1.1 hother.1.1 hline, hrest⟩

private theorem selfDelimiting_actionLines (name : String) :
    SelfDelimiting Action.IsPlain (actionLines name) := by
  intro action other r s haction hother h
  match action, other with
  | .proceed .stop, .proceed .stop => exact ⟨rfl, (List.cons.inj h).2⟩
  | .proceed (.node target), .proceed (.node target') =>
      obtain ⟨hline, hrest⟩ := List.cons.inj h
      simp only [String.append_left_inj, String.append_right_inj] at hline
      exact ⟨by rw [hline], hrest⟩
  | .choose branches, .choose branches' =>
      simp only [actionLines, List.cons_append, List.nil_append, List.append_assoc, List.cons.injEq,
        true_and, List.map_eq_flatMap] at h
      obtain ⟨rfl, hrest⟩ := selfDelimiting_branchLine.row
        (fun branch _ _ _ he => branchLine_ne_default branch (List.cons.inj he).1)
        haction hother h
      exact ⟨rfl, (List.cons.inj hrest).2⟩
  -- The first lines of two actions of different kinds differ at the first letter.
  | .proceed .stop, .proceed (.node _) | .proceed (.node _), .proceed .stop
  | .proceed .stop, .choose _ | .choose _, .proceed .stop
  | .proceed (.node _), .choose _ | .choose _, .proceed (.node _) =>
      have hchars := congrArg String.toList (List.cons.inj h).1
      simp at hchars

private theorem selfDelimiting_armLines :
    SelfDelimiting (fun arm : String × Action => arm.2.IsPlain)
      (fun arm => armLines arm.1 arm.2) := by
  rintro ⟨name, action⟩ ⟨name', action'⟩ r s haction haction' h
  simp only [armLines, List.cons_append, List.nil_append, List.append_assoc, List.cons.injEq,
    String.append_left_inj, String.append_right_inj] at h
  obtain ⟨rfl, -, -, -, -, hrest⟩ := h
  obtain ⟨rfl, hend⟩ := selfDelimiting_actionLines name action action' _ _ haction haction' hrest
  exact ⟨rfl, (List.cons.inj hend).2⟩

private theorem armLines_ne_end (name : String) (action : Action) (r s : Listing) :
    armLines name action ++ r ≠ "            \"__end__\" | \"END\" => break," :: s := by
  intro h
  have hlast := congrArg (fun line => line.toList.getLast?) (List.cons.inj h).1
  simp [List.getLast?_cons] at hlast

namespace Blueprint

def arms (b : Blueprint) : List (String × Action) :=
  b.nodes.map fun node => (node.name, b.action node.name)

private theorem flatMap_arms (b : Blueprint) :
    (b.nodes.flatMap fun node => armLines node.name (b.action node.name)) =
      b.arms.flatMap fun arm => armLines arm.1 arm.2 := by
  rw [arms, List.flatMap_map]

theorem IsPlain.arms {b : Blueprint} (h : b.IsPlain) : ∀ arm ∈ b.arms, arm.2.IsPlain := by
  intro arm harm
  obtain ⟨node, -, rfl⟩ := List.mem_map.1 harm
  exact h.action node.name

theorem executor_free {b : Blueprint} (hloop : b.isConditional = true) (h : b.IsPlain) :
    ∀ line ∈ b.executor, '\n' ∉ line.toList := by
  intro line hline
  simp only [executor, hloop, if_true, loopLogic, List.mem_append, List.mem_cons,
    List.not_mem_nil, or_false, List.mem_flatMap] at hline
  obtain (hhead | (hstart | ⟨node, hnode, harm⟩) | hstop) | hend := hline
  · obtain rfl | rfl | rfl | rfl := hhead
    · exact Text.not_mem_literal (by decide)
    · exact Text.not_mem_literal (by decide)
    · exact Text.not_mem_framed (by decide) h.entry.2 (by decide)
    · exact Text.not_mem_literal (by decide)
  · obtain rfl | rfl | rfl | rfl | rfl := hstart
    · exact Text.not_mem_literal (by decide)
    · exact Text.not_mem_framed (by decide) h.entry.2 (by decide)
    · exact Text.not_mem_literal (by decide)
    · exact Text.not_mem_literal (by decide)
    · exact Text.not_mem_literal (by decide)
  · exact armLines_free (h.nodes node hnode) (h.action node.name) line harm
  · obtain rfl | rfl | rfl | rfl | rfl := hstop <;> exact Text.not_mem_literal (by decide)
  · obtain rfl | rfl | rfl | rfl := hend <;> exact Text.not_mem_literal (by decide)

private theorem arms_of_executor_eq {a b : Blueprint} (hloop : a.isConditional = true)
    (hloop' : b.isConditional = true) (ha : a.IsPlain) (hb : b.IsPlain)
    (h : a.executor = b.executor) : a.entry = b.entry ∧ a.arms = b.arms := by
  simp only [executor, hloop, hloop', if_true, loopLogic, flatMap_arms, List.cons_append,
    List.nil_append, List.append_assoc, List.cons.injEq, String.append_left_inj,
    String.append_right_inj, true_and] at h
  obtain ⟨hentry, -, hrows⟩ := h
  exact ⟨hentry, (selfDelimiting_armLines.row (fun arm r s _ => armLines_ne_end arm.1 arm.2 r s)
    ha.arms hb.arms hrows).1⟩

/-- Where an answer of the router after a node leads. -/
def branch? (b : Blueprint) (name answer : String) : Option Destination :=
  (b.routings.get? name).bind fun routing => (routing.branches.get? answer).map .ofTarget

private theorem lookup_map_snd (f : α → β) (entries : List (String × α)) (key : String) :
    (entries.map fun entry => (entry.1, f entry.2)).lookup key = (entries.lookup key).map f := by
  induction entries with
  | nil => rfl
  | cons entry entries ih =>
      obtain ⟨name, v⟩ := entry
      simp only [List.map_cons, List.lookup_cons, ih]
      cases key == name <;> rfl

/-- What follows a node determines its branches as a map. -/
theorem branch?_eq_of_action (b : Blueprint) (name answer : String) : b.branch? name answer =
    match b.action name with
    | .choose branches => branches.lookup answer
    | .proceed _ => none := by
  unfold branch? action
  cases b.routings.get? name with
  | some routing => exact (lookup_map_snd Destination.ofTarget routing.branches.entries answer).symm
  | none => cases b.edgeFrom? name <;> rfl

/-- Executors with loops and the same text are made from blueprints with the same entry and the same
nodes in the same order, and the same follows each node. The tables of each blueprint may have their entries in any
order: the branches are the same as maps too. -/
theorem routing_of_executor_text_eq {a b : Blueprint} (hloop : a.isConditional = true)
    (hloop' : b.isConditional = true) (ha : a.IsPlain) (hb : b.IsPlain)
    (h : a.executor.text = b.executor.text) :
    a.entry = b.entry ∧ a.nodes.map NodeSpec.name = b.nodes.map NodeSpec.name ∧
      ∀ node ∈ a.nodes, a.action node.name = b.action node.name ∧
        ∀ answer, a.branch? node.name answer = b.branch? node.name answer := by
  have hlines : a.executor = b.executor :=
    Listing.text_inj (by simp [executor]) (by simp [executor]) (executor_free hloop ha)
      (executor_free hloop' hb) h
  obtain ⟨hentry, harms⟩ := arms_of_executor_eq hloop hloop' ha hb hlines
  refine ⟨hentry, ?_, ?_⟩
  · have hnames := congrArg (List.map Prod.fst) harms
    simpa [arms, Function.comp_def] using hnames
  · intro node hnode
    have harm : (node.name, a.action node.name) ∈ b.arms := by
      rw [← harms]
      exact List.mem_map.2 ⟨node, hnode, rfl⟩
    obtain ⟨other, -, hother⟩ := List.mem_map.1 harm
    obtain ⟨hname, haction⟩ := Prod.mk.inj hother
    have hsame : a.action node.name = b.action node.name := by rw [← haction, hname]
    refine ⟨hsame, ?_⟩
    intro answer
    rw [branch?_eq_of_action, branch?_eq_of_action, hsame]

/-- A question that is asked again until the answer is clear, and a report that is read or sent back. -/
def survey : Blueprint where
  entry := "ask"
  fields := []
  nodes := [⟨"ask", "ask_user", "(state)", none, none⟩, ⟨"report", "report", "(state)", none, none⟩,
    ⟨"file", "file", "(state)", none, none⟩]
  edges := [⟨"file", "END"⟩]
  routings := ⟨[
    ("report", ⟨"is_read", ⟨[("unclear", "ask"), ("clear", "file")], by decide⟩⟩),
    ("ask", ⟨"is_clear", ⟨[("yes", "report"), ("never", "__end__"), ("no", "ask")], by decide⟩⟩)], by decide⟩

/-- The survey with its routers in another order, the end under its other name, and an edge that comes too late to
count. -/
def respelledSurvey : Blueprint :=
  { survey with
    edges := [⟨"file", "__end__"⟩, ⟨"file", "ask"⟩]
    routings := ⟨[
      ("ask", ⟨"is_clear", ⟨[("yes", "report"), ("never", "END"), ("no", "ask")], by decide⟩⟩),
      ("report", ⟨"is_read", ⟨[("unclear", "ask"), ("clear", "file")], by decide⟩⟩)], by decide⟩ }

private theorem isPlain_survey : survey.IsPlain := by
  constructor <;> decide

private theorem isPlain_respelledSurvey : respelledSurvey.IsPlain := by
  constructor <;> decide

theorem routing_of_survey :
    survey.executor.text = respelledSurvey.executor.text ∧
      survey.entry = respelledSurvey.entry ∧
      survey.nodes.map NodeSpec.name = respelledSurvey.nodes.map NodeSpec.name ∧
      ∀ node ∈ survey.nodes, survey.action node.name = respelledSurvey.action node.name ∧
        ∀ answer, survey.branch? node.name answer = respelledSurvey.branch? node.name answer := by
  have htext : survey.executor.text = respelledSurvey.executor.text := rfl
  exact ⟨htext, routing_of_executor_text_eq (by decide) (by decide) isPlain_survey
    isPlain_respelledSurvey htext⟩

end Blueprint

end Codegen

end Workgraph
