import Workgraph.Proofs.Heads

/-!
# Functions of generated programs

A generated program has one definition for each node and each router, one for the executor and one for the entry
point, and no two of them are the same. Its executor calls only functions of nodes and routers that are defined.
-/

namespace Workgraph.Codegen

/-- The line that begins the function of a name. -/
def Callee.head : Callee → String → String
  | .node => nodeHead
  | .router => routerHead

private theorem nodeHead_inj {name other : String} (h : nodeHead name = nodeHead other) : name = other := by
  unfold nodeHead at h
  rwa [String.append_left_inj, String.append_right_inj] at h

private theorem routerHead_inj {name other : String} (h : routerHead name = routerHead other) :
    name = other := by
  unfold routerHead at h
  rwa [String.append_left_inj, String.append_right_inj] at h

private theorem nodeHead_ne_routerHead (name other : String) : nodeHead name ≠ routerHead other := by
  unfold nodeHead routerHead
  rw [String.append_assoc, String.append_assoc]
  exact Text.append_ne_append (by decide) _ _

private theorem nodeHead_ne_executorHead (name : String) : nodeHead name ≠ executorHead :=
  Text.append_literal_ne (by decide) _

private theorem routerHead_ne_executorHead (name : String) : routerHead name ≠ executorHead :=
  Text.append_literal_ne (by decide) _

private theorem nodeHead_ne_entryHead (name : String) : nodeHead name ≠ entryHead :=
  Text.append_literal_ne (by decide) _

private theorem routerHead_ne_entryHead (name : String) : routerHead name ≠ entryHead :=
  Text.append_literal_ne (by decide) _

namespace Blueprint

private theorem nodup_definitions {b : Blueprint} (h : b.nodeNames.Nodup) : b.definitions.Nodup := by
  have hnodes : (b.nodeNames.map nodeHead).Nodup := h.map fun _ _ => nodeHead_inj
  have hrouters : (b.routings.keys.map routerHead).Nodup :=
    b.routings.nodup.map fun _ _ => routerHead_inj
  have hheads : executorHead ≠ entryHead := by decide
  unfold definitions
  rw [List.nodup_append, List.nodup_append]
  refine ⟨⟨hnodes, hrouters, ?_⟩, by simp [hheads], ?_⟩
  · intro line hline other hother
    obtain ⟨name, -, rfl⟩ := List.mem_map.1 hline
    obtain ⟨key, -, rfl⟩ := List.mem_map.1 hother
    exact nodeHead_ne_routerHead name key
  · intro line hline other hother
    simp only [List.mem_append, List.mem_map, List.mem_cons, List.not_mem_nil, or_false] at hline hother
    obtain ⟨name, -, rfl⟩ | ⟨name, -, rfl⟩ := hline <;> obtain rfl | rfl := hother
    · exact nodeHead_ne_executorHead name
    · exact nodeHead_ne_entryHead name
    · exact routerHead_ne_executorHead name
    · exact routerHead_ne_entryHead name

private theorem mem_keys_of_isChoice {b : Blueprint} {name : String} (h : (b.action name).isChoice = true) :
    name ∈ b.routings.keys := by
  unfold action at h
  split at h
  · rename_i routing hrouting
    exact List.mem_map_of_mem (Table.mem_of_get? hrouting)
  · split at h <;> cases h

private theorem head_mem_definitions {b : Blueprint} {callee : Callee} {name : String}
    (h : name ∈ b.served callee) : callee.head name ∈ b.definitions := by
  obtain ⟨hname, hserves⟩ := List.mem_filter.1 h
  simp only [definitions, List.mem_append, List.mem_map]
  cases callee with
  | node => exact .inl (.inl ⟨name, hname, rfl⟩)
  | router => exact .inl (.inr ⟨name, mem_keys_of_isChoice hserves, rfl⟩)

/-- A program defines each of its functions once, in whatever order its tables and its imports are gone through, and
wherever its executor has the text of a call, the function that it calls is one of them or the text is part of a
name. -/
theorem program_definitions_and_executor_calls {b : Blueprint} (hlines : b.IsOneLine)
    (hnames : b.nodeNames.Nodup) (order : NameOrder) (final : Text.FinalReturn) :
    (rows (b.program none order final)).filter isDefinition =
        b.nodeNames.map nodeHead ++ b.routings.keys.map routerHead ++ [executorHead, entryHead] ∧
      ((rows (b.program none order final)).filter isDefinition).Nodup ∧
      b.executor.text.toList <:+: (b.program none order final).toList ∧
      ∀ (callee : Callee) (before after : List Char),
        b.executor.text.toList = before ++ callee.call.toList ++ after →
        (∃ name, (callee.lead ++ name).toList <:+ before ∧
          callee.head name ∈ (rows (b.program none order final)).filter isDefinition) ∨
        ∃ name ∈ b.executorNames, Text.Within callee.call.toList name.toList before after := by
  have hheads : (rows (b.program none order final)).filter isDefinition = b.definitions :=
    heads_program hlines order final
  rw [hheads]
  refine ⟨rfl, nodup_definitions hnames, Listing.infix_text_of_mem (by simp), ?_⟩
  intro callee before after htext
  obtain ⟨name, hname, hcall⟩ | hname := b.isCallOrName_executor callee before after htext
  · exact .inl ⟨name, hcall, head_mem_definitions hname⟩
  · exact .inr hname

/-- An interview with documentation that looks like code and ends in a carriage return, a node that is named like a
call, a router after no node, and tables in no order. -/
def interview : Blueprint where
  entry := "ask"
  fields := [⟨"answers", "dict[str, list[Answer]]", false⟩, ⟨"note", "Note | None", false⟩]
  nodes := [
    ⟨"ask", "ask_user", "(state)", some "Asks.\nasync fn ask_node() \r\n\nfn ask_route()\r", none⟩,
    ⟨"ask_node(state)", "ask_node", "(state)", none, some "interview.py:12"⟩]
  edges := [⟨"ask_node(state)", "END"⟩]
  routings := ⟨[("review", ⟨"is_done", Table.empty⟩),
    ("ask", ⟨"is_clear", ⟨[("yes", "ask_node(state)"), ("no", "ask")], by decide⟩⟩)], by decide⟩

theorem program_interview :
    interview.IsOneLine ∧ interview.nodeNames.Nodup ∧
      (rows (interview.program none .byName .kept)).filter isDefinition =
        [nodeHead "ask", nodeHead "ask_node(state)", routerHead "review", routerHead "ask", executorHead,
          entryHead] := by
  have hlines : interview.IsOneLine := by
    constructor <;> decide
  have hnames : interview.nodeNames.Nodup := by decide
  exact ⟨hlines, hnames, (program_definitions_and_executor_calls hlines hnames .byName .kept).1⟩

end Blueprint

end Workgraph.Codegen
