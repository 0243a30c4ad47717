import Workgraph.Proofs.Occurrences
import Workgraph.Proofs.OneLine

/-!
# Calls of executors

Every place of an executor's text where a call is written: the call of a node in a row or in its arm of the loop, the
call of the router of a node that has one, or a part of a name that looks like a call.
-/

namespace Workgraph.Codegen

/-- What executors call. -/
inductive Callee where
  | node
  | router
  deriving DecidableEq

/-- Whether a router decides what follows. -/
def Action.isChoice : Action → Bool
  | .proceed _ => false
  | .choose _ => true

namespace Callee

/-- What is written after a name to call the function of the name. -/
def call : Callee → String
  | .node => "_node(state)"
  | .router => "_route(&state)"

/-- What is written before a name to call the function of the name. -/
def lead : Callee → String
  | .node => "state = "
  | .router => "current_node = match "

/-- Whether a function of a node with this action is called. -/
def serves : Callee → Action → Bool
  | .node, _ => true
  | .router, action => action.isChoice

-- The texts of the calls after their first character, spelled out so that deciding does not take a literal apart.
private def rest : Callee → List Char
  | .node => ['n', 'o', 'd', 'e', '(', 's', 't', 'a', 't', 'e', ')']
  | .router => ['r', 'o', 'u', 't', 'e', '(', '&', 's', 't', 'a', 't', 'e', ')']

private def word (callee : Callee) : List Char := '_' :: callee.rest

private theorem toList_call (callee : Callee) : callee.call.toList = callee.word := by
  cases callee <;> exact String.toList_ofList

private theorem mark_not_mem_rest (callee : Callee) : '_' ∉ callee.rest := by
  cases callee <;> decide

end Callee

private instance (p : Callee → Prop) [DecidablePred p] : Decidable (∀ callee, p callee) :=
  decidable_of_iff (p .node ∧ p .router)
    ⟨fun h callee => callee.casesOn h.1 h.2, fun h => ⟨h .node, h .router⟩⟩

section Lines

open Text

variable {P : List Char → List Char → Prop} {callee : Callee} {opening tail : List Char} {name : String}

private def IsSilent (s : List Char) : Prop := ∀ callee : Callee, Misses callee.word s

private instance (s : List Char) : Decidable (IsSilent s) :=
  inferInstanceAs (Decidable (∀ callee : Callee, Misses callee.word s))

private def IsLead (s : List Char) : Prop :=
  ∀ callee : Callee, Closes callee.word s ∧ Misses callee.word s

private instance (s : List Char) : Decidable (IsLead s) :=
  inferInstanceAs (Decidable (∀ callee : Callee, Closes callee.word s ∧ Misses callee.word s))

private def IsTail (s : List Char) : Prop :=
  ∀ callee : Callee, Opens callee.word s ∧ Misses callee.word s

private instance (s : List Char) : Decidable (IsTail s) :=
  inferInstanceAs (Decidable (∀ callee : Callee, Opens callee.word s ∧ Misses callee.word s))

private theorem everywhere_literal (h : IsSilent tail) :
    Everywhere P callee.word (String.ofList tail).toList := by
  rw [String.toList_ofList]
  exact (h callee).everywhere

private theorem everywhere_lead (hP : IsStable P) (hopening : IsLead opening)
    (hname : Everywhere P callee.word name.toList) :
    Everywhere P callee.word (String.ofList opening ++ name).toList := by
  rw [String.toList_append, String.toList_ofList]
  exact hname.lead hP (hopening callee).1 (hopening callee).2

private theorem everywhere_tail (hP : IsStable P) (hname : Everywhere P callee.word name.toList)
    (htail : IsTail tail) : Everywhere P callee.word (name ++ String.ofList tail).toList := by
  rw [String.toList_append, String.toList_ofList]
  exact hname.tail hP (htail callee).1 (htail callee).2

private theorem everywhere_framed (hP : IsStable P) (hopening : IsLead opening)
    (hname : Everywhere P callee.word name.toList) (htail : IsTail tail) :
    Everywhere P callee.word (String.ofList opening ++ name ++ String.ofList tail).toList :=
  everywhere_tail hP (everywhere_lead hP hopening hname) htail

private theorem everywhere_between (hP : IsStable P) (hname : Everywhere P callee.word name.toList)
    {mid : List Char} (hmid : IsLead mid ∧ IsTail mid) {more : String}
    (hmore : Everywhere P callee.word more.toList) :
    Everywhere P callee.word (name ++ String.ofList mid ++ more).toList := by
  rw [String.toList_append, String.toList_append, String.toList_ofList]
  exact hname.append_between hP (hmid.2 callee).1 (hmid.1 callee).1 (hmid.1 callee).2 hmore

private theorem everywhere_branchLine (hP : IsStable P) {branch : String × Destination}
    (h : ∀ s ∈ branch.1 :: branch.2.names, Everywhere P callee.word s.toList) :
    Everywhere P callee.word (branchLine branch).toList := by
  obtain ⟨key, destination⟩ := branch
  have hlead : Everywhere P callee.word ("                    \"" ++ key).toList :=
    everywhere_lead hP (by decide) (h key List.mem_cons_self)
  cases destination with
  | stop =>
      rw [branchLine_stop]
      exact everywhere_between hP hlead (by decide) (everywhere_literal (by decide))
  | node name =>
      have hname := h name (List.mem_cons_of_mem key List.mem_cons_self)
      rw [branchLine_node]
      exact everywhere_between hP hlead (by decide) (everywhere_framed hP (by decide) hname (by decide))

variable {action : Action}

/-- The statement is true where a function of the node is called. -/
private def Admits (P : List Char → List Char → Prop) (callee : Callee) (name : String)
    (action : Action) : Prop :=
  callee.serves action = true →
    ∀ before after, (callee.lead ++ name).toList <:+ before → P before after

/-- A line with a call holds it where the name ends. -/
private theorem everywhere_call (written : Callee) (hP : IsStable P) (h : Admits P callee name action)
    (hname : Everywhere P callee.word name.toList) (hserves : written.serves action = true)
    (hopening : IsLead opening ∧ written.lead.toList <:+ opening)
    (htail : '_' ∉ tail ∧ ∀ callee : Callee, callee.rest <+: tail → callee = written) :
    Everywhere P callee.word (String.ofList opening ++ name ++ String.ofList ('_' :: tail)).toList := by
  obtain ⟨hopening, margin, hmargin⟩ := hopening
  have hrest : Everywhere P callee.word tail := Misses.everywhere ⟨'_', List.mem_cons_self, htail.1⟩
  rw [String.toList_append, String.toList_ofList]
  refine (everywhere_lead hP hopening hname).append_word hP callee.mark_not_mem_rest hrest ?_
  rintro after rfl
  -- What follows the name is one call only, so the word that was found there is the one that was written.
  obtain rfl := htail.2 callee (List.prefix_append ..)
  exact h hserves _ _ ⟨margin, by simp [← hmargin]⟩

private theorem everywhere_actionLines (hP : IsStable P) (hname : Everywhere P callee.word name.toList)
    (htexts : ∀ s ∈ action.texts, Everywhere P callee.word s.toList) (h : Admits P callee name action) :
    ∀ line ∈ actionLines name action, Everywhere P callee.word line.toList := by
  cases action with
  | proceed destination =>
      cases destination with
      | stop =>
          simp only [actionLines, List.forall_mem_singleton]
          exact everywhere_literal (by decide)
      | node target =>
          simp only [actionLines, List.forall_mem_singleton]
          exact everywhere_framed hP (by decide) (htexts target List.mem_cons_self) (by decide)
  | choose branches =>
      simp only [actionLines, List.forall_mem_append, List.forall_mem_cons, List.forall_mem_map]
      refine ⟨⟨⟨?_, ?_, ?_⟩, ?_⟩, ?_, ?_, ?_⟩
      · exact everywhere_lead hP (by decide) hname
      · exact everywhere_call .router hP h hname rfl (by decide) (by decide)
      · simp
      · intro branch hbranch
        exact everywhere_branchLine hP fun s hs => htexts s (List.mem_flatMap.2 ⟨branch, hbranch, hs⟩)
      · exact everywhere_literal (by decide)
      · exact everywhere_literal (by decide)
      · simp

private theorem everywhere_armLines (hP : IsStable P) (hname : Everywhere P callee.word name.toList)
    (htexts : ∀ s ∈ action.texts, Everywhere P callee.word s.toList) (h : Admits P callee name action) :
    ∀ line ∈ armLines name action, Everywhere P callee.word line.toList := by
  simp only [armLines, List.forall_mem_append, List.forall_mem_cons]
  refine ⟨⟨⟨?_, ?_, ?_, ?_, ?_, ?_⟩, everywhere_actionLines hP hname htexts h⟩, ?_, ?_⟩
  · exact everywhere_framed hP (by decide) hname (by decide)
  · exact everywhere_framed hP (by decide) hname (by decide)
  · exact everywhere_call .node hP h hname rfl (by decide) (by decide)
  · exact everywhere_framed hP (by decide) hname (by decide)
  · exact everywhere_literal (by decide)
  · simp
  · exact everywhere_literal (by decide)
  · simp

private theorem everywhere_runNode (hP : IsStable P) {node : NodeSpec}
    (hname : Everywhere P callee.word node.name.toList) (h : Admits P callee node.name action) :
    ∀ line ∈ Blueprint.runNode node, Everywhere P callee.word line.toList := by
  simp only [Blueprint.runNode, List.forall_mem_cons]
  refine ⟨?_, ?_, ?_, by simp⟩
  · exact everywhere_lead hP (by decide) hname
  · exact everywhere_call .node hP h hname rfl (by decide) (by decide)
  · exact everywhere_framed hP (by decide) hname (by decide)

private theorem everywhere_blocks {blocks : List Listing}
    (h : ∀ block ∈ blocks, ∀ line ∈ block, Everywhere P callee.word line.toList) :
    ∀ line ∈ Listing.blocks blocks, Everywhere P callee.word line.toList := by
  have hempty : Everywhere P callee.word "".toList := everywhere_literal (by decide)
  fun_induction Listing.blocks blocks with
  | case1 => simpa using hempty
  | case2 block => exact h block List.mem_cons_self
  | case3 block rest hne ih =>
      simp only [List.forall_mem_append, List.forall_mem_cons]
      exact ⟨h block List.mem_cons_self, hempty,
        ih fun block hblock => h block (List.mem_cons_of_mem _ hblock)⟩

variable {b : Blueprint}

private theorem everywhere_linearLogic (hP : IsStable P)
    (hnames : ∀ node ∈ b.nodes, Everywhere P callee.word node.name.toList)
    (h : ∀ node ∈ b.nodes, Admits P callee node.name (b.action node.name)) :
    ∀ line ∈ b.linearLogic, Everywhere P callee.word line.toList := by
  apply everywhere_blocks
  intro block hblock
  obtain ⟨node, hnode, rfl⟩ := List.mem_map.1 hblock
  exact everywhere_runNode hP (hnames node hnode) (h node hnode)

private theorem everywhere_loopLogic (hP : IsStable P) (hentry : Everywhere P callee.word b.entry.toList)
    (hnames : ∀ node ∈ b.nodes, Everywhere P callee.word node.name.toList)
    (htexts : ∀ node ∈ b.nodes, ∀ s ∈ (b.action node.name).texts, Everywhere P callee.word s.toList)
    (h : ∀ node ∈ b.nodes, Admits P callee node.name (b.action node.name)) :
    ∀ line ∈ b.loopLogic, Everywhere P callee.word line.toList := by
  simp only [Blueprint.loopLogic, List.forall_mem_append, List.forall_mem_cons]
  refine ⟨⟨⟨?_, ?_, ?_, ?_, ?_, by simp⟩, ?_⟩, ?_, ?_, ?_, ?_, ?_, by simp⟩
  · exact everywhere_literal (by decide)
  · exact everywhere_framed hP (by decide) hentry (by decide)
  · exact everywhere_literal (by decide)
  · exact everywhere_literal (by decide)
  · exact everywhere_literal (by decide)
  · intro line hline
    obtain ⟨node, hnode, hline⟩ := List.mem_flatMap.1 hline
    exact everywhere_armLines hP (hnames node hnode) (htexts node hnode) (h node hnode) line hline
  · exact everywhere_literal (by decide)
  · exact everywhere_literal (by decide)
  · exact everywhere_literal (by decide)
  · exact everywhere_literal (by decide)
  · exact everywhere_literal (by decide)

end Lines

namespace Blueprint

open Text

def nodeNames (b : Blueprint) : List String := b.nodes.map NodeSpec.name

/-- The names that are copied into an executor. -/
def executorNames (b : Blueprint) : List String :=
  b.entry :: b.nodes.flatMap fun node => node.name :: (b.action node.name).texts

/-- The nodes with a function that is called. -/
def served (b : Blueprint) (callee : Callee) : List String :=
  b.nodeNames.filter fun name => callee.serves (b.action name)

/-- The place is a call of the function of a node, or in a name. -/
def IsCallOrName (b : Blueprint) (callee : Callee) (before after : List Char) : Prop :=
  (∃ name ∈ b.served callee, (callee.lead ++ name).toList <:+ before) ∨
    ∃ name ∈ b.executorNames, Within callee.call.toList name.toList before after

private theorem isStable_isCallOrName (b : Blueprint) (callee : Callee) :
    IsStable (b.IsCallOrName callee) := by
  rintro lead tail before after (⟨name, hname, hcall⟩ | ⟨name, hname, hwithin⟩) hlead htail
  · exact .inl ⟨name, hname, hcall.trans hlead⟩
  · exact .inr ⟨name, hname, isStable_within _ _ hwithin hlead htail⟩

/-- Wherever an executor has the text of a call, it calls the function of a node, or the text is part of a name. -/
theorem isCallOrName_executor (b : Blueprint) (callee : Callee) :
    Everywhere (b.IsCallOrName callee) callee.call.toList b.executor.text.toList := by
  have hP := b.isStable_isCallOrName callee
  have hnames : ∀ name ∈ b.executorNames,
      Everywhere (b.IsCallOrName callee) callee.word name.toList := by
    intro name hname
    rw [← callee.toList_call]
    exact (everywhere_within _ _).imp fun _ _ hwithin => .inr ⟨name, hname, hwithin⟩
  have hentry := hnames b.entry List.mem_cons_self
  have hnode : ∀ node ∈ b.nodes, ∀ name ∈ node.name :: (b.action node.name).texts,
      Everywhere (b.IsCallOrName callee) callee.word name.toList := fun node hnode name hname =>
    hnames name (List.mem_cons_of_mem _ (List.mem_flatMap.2 ⟨node, hnode, hname⟩))
  have hname : ∀ node ∈ b.nodes, Everywhere (b.IsCallOrName callee) callee.word node.name.toList :=
    fun node hmem => hnode node hmem _ List.mem_cons_self
  have hadmits : ∀ node ∈ b.nodes,
      Admits (b.IsCallOrName callee) callee node.name (b.action node.name) := by
    intro node hnode hserves before after hcall
    exact .inl ⟨node.name, List.mem_filter.2 ⟨List.mem_map_of_mem hnode, hserves⟩, hcall⟩
  have hlogic : ∀ line ∈ if b.isConditional then b.loopLogic else b.linearLogic,
      Everywhere (b.IsCallOrName callee) callee.word line.toList := by
    split
    · exact everywhere_loopLogic hP hentry hname
        (fun node hmem s hs => hnode node hmem s (List.mem_cons_of_mem _ hs)) hadmits
    · exact everywhere_linearLogic hP hname hadmits
  rw [callee.toList_call]
  apply everywhere_join hP (by cases callee <;> decide) (by cases callee <;> decide)
    (by cases callee <;> decide)
  simp only [executor, List.forall_mem_append, List.forall_mem_cons]
  refine ⟨⟨⟨?_, ?_, ?_, ?_, by simp⟩, hlogic⟩, ?_, ?_, ?_, ?_, by simp⟩
  · exact everywhere_literal (by decide)
  · exact everywhere_literal (by decide)
  · exact everywhere_framed hP (by decide) hentry (by decide)
  · exact everywhere_literal (by decide)
  · exact everywhere_literal (by decide)
  · exact everywhere_literal (by decide)
  · exact everywhere_literal (by decide)
  · exact everywhere_literal (by decide)

end Blueprint

end Workgraph.Codegen
