import Workgraph.Proofs.Transitions

/-!
# The lines that begin functions

The lines of a program that begin the definition of a function. A program is put together from texts of one line each
and from documentation, which is a comment line by line, so these lines can be read off its parts.
-/

namespace Workgraph.Codegen

def rows (s : String) : Listing := (Text.splitAt '\n' s.toList).map String.ofList

theorem rows_of_isOneLine {s : String} (h : IsOneLine s) : rows s = [s] := by
  rw [rows, Text.splitAt_of_not_mem h, List.map_singleton, String.ofList_toList]

private theorem rows_text {lines : Listing} (hne : lines ≠ []) : rows lines.text = lines.flatMap rows := by
  rw [rows, Listing.splitAt_text hne, List.map_flatMap]
  rfl

def definitionLeads : List String := ["async fn ", "fn ", "pub async fn "]

/-- The line begins the definition of a function. -/
def isDefinition (line : String) : Bool := TypeHint.startsWith definitionLeads line.toList

def heads (s : String) : Listing := (rows s).filter isDefinition

theorem heads_empty : heads "" = [] := by decide

theorem heads_text (lines : Listing) : heads lines.text = lines.flatMap heads := by
  cases lines with
  | nil => exact heads_empty
  | cons line rest =>
      rw [heads, rows_text (List.cons_ne_nil line rest), List.filter_flatMap]
      rfl

/-- A beginning of lines that do not define a function. -/
def IsQuiet (opening : List Char) : Prop :=
  '\n' ∉ opening ∧ ∀ lead ∈ definitionLeads, Text.Apart lead.toList opening

-- The leads are spelled out so that deciding does not have to take a literal apart.
instance (opening : List Char) : Decidable (IsQuiet opening) :=
  decidable_of_iff ('\n' ∉ opening ∧
    ∀ lead ∈ [['a', 's', 'y', 'n', 'c', ' ', 'f', 'n', ' '], ['f', 'n', ' '],
      ['p', 'u', 'b', ' ', 'a', 's', 'y', 'n', 'c', ' ', 'f', 'n', ' ']], Text.Apart lead opening)
    (by simp [IsQuiet, definitionLeads])

private theorem startsWith_append {leads : List String} {opening : List Char}
    (h : ∀ lead ∈ leads, Text.Apart lead.toList opening) (rest : List Char) :
    TypeHint.startsWith leads (opening ++ rest) = false := by
  rw [TypeHint.startsWith, List.any_eq_false]
  intro lead hlead
  rw [List.isPrefixOf_iff_prefix]
  exact (h lead hlead).not_begins rest

theorem heads_append {opening : List Char} (h : IsQuiet opening) {rest : String}
    (hrest : IsOneLine rest) : heads (String.ofList opening ++ rest) = [] := by
  have hnone : isDefinition (String.ofList opening ++ rest) = false := by
    rw [isDefinition, String.toList_append, String.toList_ofList, startsWith_append h.2]
  rw [heads, rows_of_isOneLine (isOneLine_append.2 ⟨isOneLine_literal h.1, hrest⟩)]
  simp [hnone]

theorem heads_literal {s : List Char} (h : IsQuiet s) : heads (String.ofList s) = [] := by
  have hnone := heads_append h (isOneLine_literal List.not_mem_nil)
  rwa [String.ofList_nil, String.append_empty] at hnone

theorem heads_framed {opening tail : List Char} {name : String} (h : IsQuiet opening)
    (hname : IsOneLine name) (htail : '\n' ∉ tail) :
    heads (String.ofList opening ++ name ++ String.ofList tail) = [] := by
  rw [String.append_assoc]
  exact heads_append h (isOneLine_append.2 ⟨hname, isOneLine_literal htail⟩)

theorem isDefinition_append {lead : String} (h : lead ∈ definitionLeads) (rest : String) :
    isDefinition (lead ++ rest) = true := by
  rw [isDefinition, TypeHint.startsWith, List.any_eq_true]
  refine ⟨lead, h, ?_⟩
  rw [List.isPrefixOf_iff_prefix, String.toList_append]
  exact List.prefix_append ..

theorem isDefinition_literal {lead s : List Char} (h : String.ofList lead ∈ definitionLeads)
    (hs : lead <+: s) : isDefinition (String.ofList s) = true := by
  obtain ⟨rest, rfl⟩ := hs
  rw [String.ofList_append]
  exact isDefinition_append h _

theorem heads_of_isDefinition {line : String} (hline : IsOneLine line)
    (h : isDefinition line = true) : heads line = [line] := by
  simp [heads, rows_of_isOneLine hline, h]

private theorem heads_brace : heads "\x7d" = [] := heads_literal (by decide)

private theorem heads_result : heads "    Ok(state)" = [] := heads_literal (by decide)

/-- However a text is broken into lines, each line of its comment is a comment. -/
theorem heads_docComment (s : String) (final : Text.FinalReturn) :
    heads (docComment s final) = [] := by
  rw [docComment, heads_text, List.flatMap_eq_nil_iff]
  intro line hline
  obtain ⟨body, hbody, rfl⟩ := List.mem_map.1 hline
  obtain ⟨chars, hchars, rfl⟩ := List.mem_map.1 hbody
  exact heads_append (by decide) (isOneLine_literal (Text.newline_not_mem_lines hchars))

def nodeHead (name : String) : String :=
  "async fn " ++ name ++ "_node(mut state: GraphState) -> Result<GraphState> \x7b"

def routerHead (name : String) : String :=
  "fn " ++ name ++ "_route(state: &GraphState) -> &'static str \x7b"

def executorHead : String := "async fn execute_graph(mut state: GraphState) -> Result<GraphState> \x7b"

def entryHead : String := "pub async fn run_graph(initial_state: GraphState) -> Result<GraphState> \x7b"

private theorem isDefinition_nodeHead (name : String) : isDefinition (nodeHead name) = true := by
  unfold nodeHead
  rw [String.append_assoc]
  exact isDefinition_append (.head _) _

private theorem isDefinition_routerHead (name : String) : isDefinition (routerHead name) = true := by
  unfold routerHead
  rw [String.append_assoc]
  exact isDefinition_append (.tail _ (.head _)) _

private theorem isDefinition_executorHead : isDefinition executorHead = true :=
  isDefinition_literal (.head _) (by decide)

private theorem isDefinition_entryHead : isDefinition entryHead = true :=
  isDefinition_literal (.tail _ (.tail _ (.head _))) (by decide)

private theorem heads_nodeHead {name : String} (h : IsOneLine name) :
    heads (nodeHead name) = [nodeHead name] :=
  heads_of_isDefinition (Text.not_mem_framed (by decide) h (by decide)) (isDefinition_nodeHead name)

private theorem heads_routerHead {name : String} (h : IsOneLine name) :
    heads (routerHead name) = [routerHead name] :=
  heads_of_isDefinition (Text.not_mem_framed (by decide) h (by decide)) (isDefinition_routerHead name)

private theorem heads_executorHead : heads executorHead = [executorHead] :=
  heads_of_isDefinition (isOneLine_literal (by decide)) isDefinition_executorHead

private theorem heads_entryHead : heads entryHead = [entryHead] :=
  heads_of_isDefinition (isOneLine_literal (by decide)) isDefinition_entryHead

private theorem flatMap_heads_nodeFunction {final : Text.FinalReturn} {node : NodeSpec} (hname : IsOneLine node.name)
    (hfunction : IsOneLine node.function) (hsignature : IsOneLine node.signature)
    (hsource : ∀ place ∈ node.source, IsOneLine place) :
    (nodeFunction final node).flatMap heads = [nodeHead node.name] := by
  have horiginal : heads ("/// Original function: " ++ node.function) = [] :=
    heads_append (by decide) hfunction
  have hshown : heads ("/// Signature: " ++ node.signature) = [] :=
    heads_append (by decide) hsignature
  have htask : heads ("    // TODO: Implement " ++ node.name ++ " logic here") = [] :=
    heads_framed (by decide) hname (by decide)
  have hstub : heads "    // This is a stub - replace with actual implementation" = [] :=
    heads_literal (by decide)
  have hhead := heads_nodeHead hname
  unfold nodeHead at hhead
  simp only [nodeFunction, List.flatMap_cons, List.flatMap_nil, heads_docComment, horiginal, hshown,
    hhead, htask, hstub, heads_result, heads_brace, heads_empty, List.nil_append, List.append_nil]
  split
  · rename_i place hplace
    have hshown : heads ("    // Original source: " ++ place) = [] :=
      heads_append (by decide) (hsource place hplace)
    rw [hshown]
    rfl
  · have hmissing : heads "    // Source location not available" = [] := heads_literal (by decide)
    rw [hmissing]
    rfl

private theorem flatMap_heads_routingFunction {name : String} {routing : RoutingSpec}
    (hname : IsOneLine name) (hfunction : IsOneLine routing.function)
    (hkeys : ∀ branch ∈ routing.branches.entries, IsOneLine branch.1) :
    (routingFunction name routing).flatMap heads = [routerHead name] := by
  have hquoted : ∀ s ∈ routing.branches.keys.map (fun key => "\"" ++ key ++ "\""), IsOneLine s := by
    intro s hs
    obtain ⟨key, hkey, rfl⟩ := List.mem_map.1 hs
    obtain ⟨branch, hbranch, rfl⟩ := List.mem_map.1 hkey
    exact Text.not_mem_framed (by decide) (hkeys branch hbranch) (by decide)
  have hnode : heads ("/// Routing function for node: " ++ name) = [] :=
    heads_append (by decide) hname
  have horiginal : heads ("/// Original function: " ++ routing.function) = [] :=
    heads_append (by decide) hfunction
  have htask : heads "    // TODO: Implement routing logic" = [] := heads_literal (by decide)
  have hanswers : heads ("    // This should return one of: " ++
      Text.join ", " (routing.branches.keys.map fun key => "\"" ++ key ++ "\"")) = [] :=
    heads_append (by decide) (isOneLine_join (isOneLine_literal (by decide)) hquoted)
  have hresult : heads "    \"END\"" = [] := heads_literal (by decide)
  have hhead := heads_routerHead hname
  unfold routerHead at hhead
  simp only [routingFunction, List.flatMap_cons, List.flatMap_nil, hnode, horiginal, hhead, htask,
    hanswers, hresult, heads_brace, List.nil_append, List.append_nil]
  rfl

theorem flatMap_heads_blocks (blocks : List Listing) :
    (Listing.blocks blocks).flatMap heads = blocks.flatMap fun block => block.flatMap heads := by
  fun_induction Listing.blocks blocks with
  | case1 => simp [heads_empty]
  | case2 block => simp
  | case3 block rest hne ih =>
      rw [List.flatMap_append, List.flatMap_cons, heads_empty, List.nil_append, ih, List.flatMap_cons]

private theorem heads_join_fields {lines : Listing}
    (h : ∀ line ∈ lines, ∃ rest, IsOneLine rest ∧ line = "    pub " ++ rest) :
    heads (Text.join ",\n" lines) = [] := by
  induction lines with
  | nil => exact heads_empty
  | cons line lines ih =>
      obtain ⟨rest, hrest, rfl⟩ := h line List.mem_cons_self
      cases lines with
      | nil => exact heads_append (by decide) hrest
      | cons next lines =>
          have hfirst : heads ("    pub " ++ rest ++ ",") = [] :=
            heads_framed (by decide) hrest (by decide)
          have hjoin : Text.join ",\n" (("    pub " ++ rest) :: next :: lines) =
              Listing.text ["    pub " ++ rest ++ ",", Text.join ",\n" (next :: lines)] := by
            have hmark : "    pub " ++ rest ++ "," ++ "\n" = "    pub " ++ rest ++ ",\n" :=
              String.append_assoc
            exact congrArg (· ++ Text.join ",\n" (next :: lines)) hmark.symm
          have hlines := ih fun line hline => h line (List.mem_cons_of_mem _ hline)
          rw [hjoin, heads_text, List.flatMap_cons, List.flatMap_singleton, hfirst, hlines]
          rfl

private theorem flatMap_heads_importLines {imports : List String}
    (h : ∀ path ∈ imports, IsOneLine path) (order : NameOrder) :
    (importLines order imports).flatMap heads = [] := by
  have hserde : heads "use serde::\x7bDeserialize, Serialize\x7d;" = [] := heads_literal (by decide)
  have hanyhow : heads "use anyhow::\x7bResult, Context\x7d;" = [] := heads_literal (by decide)
  have htrait : heads "use async_trait::async_trait;" = [] := heads_literal (by decide)
  have hpaths : ((order.list imports).map fun path => "use " ++ path ++ ";").flatMap heads = [] := by
    rw [List.flatMap_map, List.flatMap_eq_nil_iff]
    intro path hpath
    exact heads_framed (by decide) (h path ((order.mem_list imports path).1 hpath)) (by decide)
  simp only [importLines, List.flatMap_append, List.flatMap_cons, List.flatMap_nil, hserde, hanyhow,
    htrait, hpaths, List.append_nil]

private theorem flatMap_heads_entryPoint : entryPoint.flatMap heads = [entryHead] := by
  have hdoc : heads "/// Main entry point for executing the graph" = [] := heads_literal (by decide)
  have hrun : heads "    execute_graph(initial_state).await" = [] := heads_literal (by decide)
  have hhead := heads_entryHead
  unfold entryHead at hhead
  simp only [entryPoint, List.flatMap_cons, List.flatMap_nil, hdoc, hhead, hrun, heads_brace, heads_empty,
    List.nil_append, List.append_nil]
  rfl

private theorem heads_branchLine {key : String} {destination : Destination} (hkey : IsOneLine key)
    (hnames : ∀ name ∈ destination.names, IsOneLine name) :
    heads (branchLine (key, destination)) = [] := by
  cases destination with
  | stop =>
      rw [branchLine_stop, String.append_assoc, String.append_assoc]
      refine heads_append (by decide) ?_
      rw [isOneLine_append, isOneLine_append]
      exact ⟨hkey, isOneLine_literal (by decide), isOneLine_literal (by decide)⟩
  | node name =>
      have hname := hnames name List.mem_cons_self
      rw [branchLine_node, String.append_assoc, String.append_assoc]
      refine heads_append (by decide) ?_
      rw [isOneLine_append, isOneLine_append]
      exact ⟨hkey, isOneLine_literal (by decide), Text.not_mem_framed (by decide) hname (by decide)⟩

private theorem flatMap_heads_actionLines {name : String} {action : Action} (hname : IsOneLine name)
    (haction : ∀ s ∈ action.texts, IsOneLine s) :
    (actionLines name action).flatMap heads = [] := by
  cases action with
  | proceed destination =>
      rw [actionLines_proceed, List.flatMap_singleton]
      cases destination with
      | stop => exact heads_literal (by decide)
      | node target =>
          have htarget := haction target List.mem_cons_self
          rw [jumpLine_node]
          exact heads_framed (by decide) htarget (by decide)
  | choose branches =>
      have hcomment : heads ("                // Conditional routing from " ++ name) = [] :=
        heads_append (by decide) hname
      have hbranches : (branches.map branchLine).flatMap heads = [] := by
        rw [List.flatMap_map, List.flatMap_eq_nil_iff]
        intro branch hbranch
        have htexts : ∀ s ∈ branch.1 :: branch.2.names, IsOneLine s := fun s hs =>
          haction s (List.mem_flatMap.2 ⟨branch, hbranch, hs⟩)
        exact heads_branchLine (htexts _ List.mem_cons_self)
          fun target htarget => htexts target (List.mem_cons_of_mem _ htarget)
      have hdefault : heads
          "                    _ => anyhow::bail!(\"Unknown routing condition\")," = [] :=
        heads_literal (by decide)
      have hend : heads "                \x7d;" = [] := heads_literal (by decide)
      have hcall : heads
          ("                current_node = match " ++ name ++ "_route(&state) \x7b") = [] :=
        heads_framed (by decide) hname (by decide)
      simp only [actionLines, List.flatMap_append, List.flatMap_cons, List.flatMap_nil, hcomment, hcall,
        hbranches, hdefault, hend, List.append_nil]

private theorem flatMap_heads_armLines {name : String} {action : Action} (hname : IsOneLine name)
    (haction : ∀ s ∈ action.texts, IsOneLine s) :
    (armLines name action).flatMap heads = [] := by
  have hopen : heads ("            \"" ++ name ++ "\" => \x7b") = [] :=
    heads_framed (by decide) hname (by decide)
  have htrace : heads ("                tracing::debug!(\"Executing node: " ++ name ++ "\");") = [] :=
    heads_framed (by decide) hname (by decide)
  have hcontext : heads
      ("                    .context(\"Failed to execute node '" ++ name ++ "')\")?;") = [] :=
    heads_framed (by decide) hname (by decide)
  have hend : heads "            \x7d" = [] := heads_literal (by decide)
  have hcall : heads ("                state = " ++ name ++ "_node(state).await") = [] :=
    heads_framed (by decide) hname (by decide)
  simp only [armLines, List.flatMap_append, List.flatMap_cons, List.flatMap_nil, hopen, htrace, hcall,
    hcontext, hend, heads_empty, flatMap_heads_actionLines hname haction, List.append_nil]

private theorem flatMap_heads_runNode {node : NodeSpec} (hname : IsOneLine node.name) :
    (Blueprint.runNode node).flatMap heads = [] := by
  have hcomment : heads ("    // Execute node: " ++ node.name) = [] :=
    heads_append (by decide) hname
  have hcontext : heads
      ("        .context(\"Failed to execute node '" ++ node.name ++ "')\")?;") = [] :=
    heads_framed (by decide) hname (by decide)
  have hcall : heads ("    state = " ++ node.name ++ "_node(state).await") = [] :=
    heads_framed (by decide) hname (by decide)
  simp only [Blueprint.runNode, List.flatMap_cons, List.flatMap_nil, hcomment, hcontext, hcall,
    List.append_nil]

namespace Blueprint

private theorem flatMap_heads_linearLogic {b : Blueprint} (h : b.IsOneLine) :
    b.linearLogic.flatMap heads = [] := by
  rw [linearLogic, flatMap_heads_blocks, List.flatMap_map, List.flatMap_eq_nil_iff]
  exact fun node hnode => flatMap_heads_runNode (h.names node hnode)

private theorem flatMap_heads_loopLogic {b : Blueprint} (h : b.IsOneLine) :
    b.loopLogic.flatMap heads = [] := by
  have hopen : heads ("    let mut current_node = \"" ++ b.entry ++ "\";") = [] :=
    heads_framed (by decide) h.entry (by decide)
  have hcomment : heads "    // Start with entry point" = [] := heads_literal (by decide)
  have hloop : heads "    loop \x7b" = [] := heads_literal (by decide)
  have hmatch : heads "        match current_node \x7b" = [] := heads_literal (by decide)
  have hstop : heads "            \"__end__\" | \"END\" => break," = [] := heads_literal (by decide)
  have hunknown : heads
      "            _ => anyhow::bail!(\"Unknown node: \x7b\x7d\", current_node)," = [] :=
    heads_literal (by decide)
  have hclose : heads "        \x7d" = [] := heads_literal (by decide)
  have hend : heads "    \x7d" = [] := heads_literal (by decide)
  have harms : (b.nodes.flatMap fun node => armLines node.name (b.action node.name)).flatMap heads =
      [] := by
    rw [List.flatMap_assoc, List.flatMap_eq_nil_iff]
    exact fun node hnode => flatMap_heads_armLines (h.names node hnode) (h.action node.name)
  simp only [loopLogic, List.flatMap_append, List.flatMap_cons, List.flatMap_nil, hopen, hcomment,
    hloop, hmatch, harms, hstop, hunknown, hclose, hend, heads_empty, List.append_nil]

private theorem flatMap_heads_executor {b : Blueprint} (h : b.IsOneLine) :
    b.executor.flatMap heads = [executorHead] := by
  have hdoc : heads "/// Execute the compiled graph" = [] := heads_literal (by decide)
  have hstart : heads
      ("    tracing::info!(\"Starting graph execution from entry point: " ++ b.entry ++ "\");") = [] :=
    heads_framed (by decide) h.entry (by decide)
  have hlogic : (if b.isConditional then b.loopLogic else b.linearLogic).flatMap heads = [] := by
    split
    · exact flatMap_heads_loopLogic h
    · exact flatMap_heads_linearLogic h
  have hdone : heads "    tracing::info!(\"Graph execution completed successfully\");" = [] :=
    heads_literal (by decide)
  have hhead := heads_executorHead
  unfold executorHead at hhead
  simp only [executor, List.flatMap_append, List.flatMap_cons, List.flatMap_nil, hdoc, hhead, hstart,
    hlogic, hdone, heads_result, heads_brace, heads_empty, List.nil_append, List.append_nil]
  rfl

private theorem heads_stateStruct {b : Blueprint} (h : b.IsOneLine) : heads b.stateStruct.text = [] := by
  have hderive : heads "#[derive(Debug, Clone, Serialize, Deserialize)]" = [] :=
    heads_literal (by decide)
  have hopen : heads "pub struct GraphState \x7b" = [] := heads_literal (by decide)
  have hfields : heads (Text.join ",\n" (b.fields.map FieldSpec.line)) = [] := by
    apply heads_join_fields
    intro line hline
    obtain ⟨field, hfield, rfl⟩ := List.mem_map.1 hline
    exact exists_fieldLine_eq (h.fields field hfield).1 (h.fields field hfield).2
  simp only [heads_text, stateStruct, List.flatMap_cons, List.flatMap_nil, hderive, hopen, hfields,
    heads_brace, List.append_nil]

private theorem heads_functions {b : Blueprint} (h : b.IsOneLine) (final : Text.FinalReturn) :
    heads (b.functions final).text = b.nodeNames.map nodeHead ++ b.routings.keys.map routerHead := by
  have hnodes : (b.nodes.map (nodeFunction final)).flatMap (fun block => block.flatMap heads) =
      b.nodeNames.map nodeHead := by
    rw [List.flatMap_map, nodeNames, List.map_map, List.map_eq_flatMap]
    exact List.flatMap_congr fun node hnode => flatMap_heads_nodeFunction (h.names node hnode)
      (h.functions node hnode).1 (h.functions node hnode).2 (h.sources node hnode)
  have hrouters : (b.routings.entries.map fun entry => routingFunction entry.1 entry.2).flatMap
      (fun block => block.flatMap heads) = b.routings.keys.map routerHead := by
    rw [List.flatMap_map, Table.keys, List.map_map, List.map_eq_flatMap]
    exact List.flatMap_congr fun entry hentry => flatMap_heads_routingFunction
      (h.routings entry hentry).1 (h.routings entry hentry).2
      fun branch hbranch => (h.branches entry hentry branch hbranch).1
  rw [heads_text, functions, flatMap_heads_blocks, List.flatMap_append, hnodes, hrouters]

def definitions (b : Blueprint) : Listing :=
  b.nodeNames.map nodeHead ++ b.routings.keys.map routerHead ++ [executorHead, entryHead]

theorem heads_program {b : Blueprint} (h : b.IsOneLine) (order : NameOrder)
    (final : Text.FinalReturn) : heads (b.program none order final) = b.definitions := by
  have hgenerated : heads "// Generated by langgraph-rs" = [] := heads_literal (by decide)
  have hwarning : heads "// Do not edit this file manually" = [] := heads_literal (by decide)
  have hexecutor : heads b.executor.text = [executorHead] := by
    rw [heads_text, flatMap_heads_executor h]
  unfold program formatFile
  rw [heads_text]
  simp only [fileHeader, List.flatMap_append, List.flatMap_cons, List.flatMap_nil, hgenerated, hwarning,
    heads_empty, flatMap_heads_importLines b.isOneLine_imports order, heads_stateStruct h,
    heads_functions h final, hexecutor, flatMap_heads_entryPoint, List.nil_append, List.append_nil,
    List.append_assoc, List.singleton_append, definitions]

end Blueprint

end Workgraph.Codegen
