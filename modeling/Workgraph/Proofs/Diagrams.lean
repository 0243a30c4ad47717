import Workgraph.Codegen.Diagram
import Workgraph.Proofs.Lines

/-!
# What diagrams show

Both diagrams are drawn in one way: a first line, a line for each node, a line for each plain edge, and maybe
a last line. As long as names are words, a line of an edge is no other line and shows both ends of the
edge. So a diagram shows the plain edges and of the branches only those that run along a plain edge.
-/

namespace Workgraph.Codegen

namespace Blueprint

/-- The text has this line, after a line before it. -/
def HasLine (text line : String) : Prop := '\n' :: (line.toList ++ ['\n']) <:+: text.toList

theorem toList_linesText (lines : List String) :
    (linesText lines).toList = lines.flatMap fun line => line.toList ++ ['\n'] := by
  simp [linesText, String.toList_join, List.flatMap_map]

private theorem hasLine_of_mem {line : String} {lines : List String} (h : line ∈ lines) (first : String) :
    HasLine (linesText (first :: lines)) line := by
  obtain ⟨before, after, rfl⟩ := List.append_of_mem h
  -- the newline in front of the line ends the line before it
  have hlast : first :: (before ++ line :: after) = (first :: before).dropLast ++
      [(first :: before).getLast (List.cons_ne_nil first before)] ++ line :: after := by
    rw [List.dropLast_concat_getLast]
    rfl
  rw [HasLine, hlast, toList_linesText]
  refine ⟨(first :: before).dropLast.flatMap (fun line => line.toList ++ ['\n']) ++
    ((first :: before).getLast (List.cons_ne_nil first before)).toList,
    after.flatMap fun line => line.toList ++ ['\n'], ?_⟩
  simp

private theorem splitAt_linesText {lines : List String} (h : ∀ line ∈ lines, '\n' ∉ line.toList) :
    Text.splitAt '\n' (linesText lines).toList = lines.map String.toList ++ [[]] := by
  rw [toList_linesText]
  induction lines with
  | nil => rfl
  | cons line rest ih =>
      rw [List.forall_mem_cons] at h
      rw [List.flatMap_cons, List.append_assoc, List.singleton_append, Text.splitAt_append,
        Text.splitAt_of_not_mem h.1, ih h.2]
      rfl

private theorem mem_of_hasLine {line : String} {lines : List String}
    (hlines : ∀ line ∈ lines, '\n' ∉ line.toList) (hline : '\n' ∉ line.toList) (hne : line ≠ "")
    (h : HasLine (linesText lines) line) : line ∈ lines := by
  obtain ⟨before, after, htext⟩ := h
  have hpieces := splitAt_linesText hlines
  rw [← htext, List.append_assoc, List.cons_append, Text.splitAt_append, List.append_assoc,
    List.singleton_append, Text.splitAt_append, Text.splitAt_of_not_mem hline] at hpieces
  have hmem : line.toList ∈ lines.map String.toList ++ [[]] := by
    rw [← hpieces]
    simp
  rcases List.mem_append.1 hmem with hmap | hlast
  · obtain ⟨other, hother, heq⟩ := List.mem_map.1 hmap
    rwa [← String.toList_inj.1 heq]
  · rw [List.mem_singleton] at hlast
    exact absurd (String.toList_inj.1 hlast) hne

/-- A way of drawing blueprints: what stands before a name, between two names, after an edge and after a node,
and the lines around it all. -/
structure Style where
  header : String
  lead : String
  arrow : String
  tail : String
  label : String → String
  footer : List String

namespace Style

variable (style : Style)

def node (name : String) : String := style.lead ++ name ++ style.label name

def edge (edge : EdgeSpec) : String :=
  style.lead ++ edge.source ++ style.arrow ++ edge.target ++ style.tail

def frame : List String := style.header :: style.footer

def lines (b : Blueprint) : List String :=
  style.header :: (b.nodes.map (fun node => style.node node.name) ++ b.edges.map style.edge ++
    style.footer)

def draw (b : Blueprint) : String := linesText (style.lines b)

theorem mem_lines_iff {b : Blueprint} {line : String} :
    line ∈ style.lines b ↔ line ∈ style.frame ∨ (∃ node ∈ b.nodes, style.node node.name = line) ∨
      ∃ edge ∈ b.edges, style.edge edge = line := by
  simp only [lines, frame, List.mem_cons, List.mem_append, List.mem_map]
  grind

theorem hasLine_of_mem_edges {b : Blueprint} {edge : EdgeSpec} (h : edge ∈ b.edges) :
    HasLine (style.draw b) (style.edge edge) := by
  apply hasLine_of_mem
  exact List.mem_append_left _ (List.mem_append_right _ (List.mem_map_of_mem h))

end Style

/-- A name without blanks and newlines. -/
def IsWord (name : String) : Prop := ' ' ∉ name.toList ∧ '\n' ∉ name.toList

instance (name : String) : Decidable (IsWord name) := inferInstanceAs (Decidable (_ ∧ _))

def JoinsWords (edge : EdgeSpec) : Prop := IsWord edge.source ∧ IsWord edge.target

instance (edge : EdgeSpec) : Decidable (JoinsWords edge) := inferInstanceAs (Decidable (_ ∧ _))

/-- Words can be read back: no line is broken, the label of a node is a word, the arrow of an edge has a blank
in it, and the lines around it all begin in another way. -/
structure Style.IsReadable (style : Style) : Prop where
  free : ∀ piece ∈ [style.lead, style.arrow, style.tail] ++ style.frame, '\n' ∉ piece.toList
  label : ∀ name, IsWord name → IsWord (style.label name)
  arrow : ' ' ∈ style.arrow.toList
  frame : ∀ line ∈ "" :: style.frame, ¬ style.lead.toList <+: line.toList

namespace Style.IsReadable

variable {style : Style} (h : style.IsReadable)

include h

private theorem node_free {name : String} (hname : IsWord name) : '\n' ∉ (style.node name).toList := by
  have hlead := h.free style.lead (by simp)
  simp [node, hlead, hname.2, (h.label name hname).2]

theorem edge_free {edge : EdgeSpec} (hedge : JoinsWords edge) : '\n' ∉ (style.edge edge).toList := by
  have hlead := h.free style.lead (by simp)
  have harrow := h.free style.arrow (by simp)
  have htail := h.free style.tail (by simp)
  simp [Style.edge, hlead, harrow, htail, hedge.1.2, hedge.2.2]

private theorem edge_inj {edge other : EdgeSpec} (hedge : JoinsWords edge) (hother : JoinsWords other)
    (heq : style.edge edge = style.edge other) : edge = other := by
  -- the first blank after the lead is in the arrow, so what stands before it is known
  obtain ⟨start, rest, harrow, hstart⟩ := List.eq_append_cons_of_mem h.arrow
  have hfree {edge : EdgeSpec} (hedge : JoinsWords edge) : ' ' ∉ edge.source.toList ++ start := by
    simp [hedge.1.1, hstart]
  have hchars := congrArg String.toList heq
  simp only [Style.edge, String.toList_append, harrow, List.append_assoc, List.cons_append,
    List.append_cancel_left_eq] at hchars
  rw [← List.append_assoc, ← List.append_assoc other.source.toList] at hchars
  obtain ⟨hsource, htarget⟩ := Text.append_mark_inj (hfree hedge) (hfree hother) hchars
  rw [List.append_cancel_right_eq, String.toList_inj] at hsource
  rw [List.append_cancel_left_eq, List.append_cancel_right_eq, String.toList_inj] at htarget
  cases edge
  cases other
  cases hsource
  cases htarget
  rfl

private theorem edge_ne_node (edge : EdgeSpec) {name : String} (hname : IsWord name) :
    style.edge edge ≠ style.node name := by
  intro heq
  have hchars := congrArg String.toList heq
  simp only [Style.edge, node, String.toList_append, List.append_assoc,
    List.append_cancel_left_eq] at hchars
  have hblank : ' ' ∈ name.toList ++ (style.label name).toList := by
    rw [← hchars]
    simp [h.arrow]
  rcases List.mem_append.1 hblank with hin | hin
  · exact hname.1 hin
  · exact (h.label name hname).1 hin

private theorem edge_not_mem_frame (edge : EdgeSpec) : style.edge edge ∉ "" :: style.frame := by
  intro hmem
  apply h.frame _ hmem
  simp [Style.edge]

/-- A drawing of words has the lines of plain edges and of no other edges. -/
theorem hasLine_draw_iff {b : Blueprint} (hnodes : ∀ node ∈ b.nodes, IsWord node.name)
    (hedges : ∀ edge ∈ b.edges, JoinsWords edge) {edge : EdgeSpec} (hedge : JoinsWords edge) :
    HasLine (style.draw b) (style.edge edge) ↔ edge ∈ b.edges := by
  refine ⟨fun hline => ?_, style.hasLine_of_mem_edges⟩
  have hfree : ∀ line ∈ style.lines b, '\n' ∉ line.toList := by
    intro line hline
    rcases style.mem_lines_iff.1 hline with hframe | ⟨node, hnode, rfl⟩ | ⟨edge, hedge, rfl⟩
    · exact h.free line (List.mem_append_right _ hframe)
    · exact h.node_free (hnodes node hnode)
    · exact h.edge_free (hedges edge hedge)
  have hframe := h.edge_not_mem_frame edge
  rw [List.mem_cons, not_or] at hframe
  have hmem := mem_of_hasLine hfree (h.edge_free hedge) hframe.1 hline
  rcases style.mem_lines_iff.1 hmem with hin | ⟨node, hnode, heq⟩ | ⟨other, hother, heq⟩
  · exact absurd hin hframe.2
  · exact absurd heq.symm (h.edge_ne_node edge (hnodes node hnode))
  · rwa [h.edge_inj hedge (hedges other hother) heq.symm]

end Style.IsReadable

def mermaidStyle : Style where
  header := "graph TD"
  lead := "    "
  arrow := " --> "
  tail := ""
  label name := "[" ++ name ++ "]"
  footer := []

def dotStyle : Style where
  header := "digraph G \x7b"
  lead := "    \""
  arrow := "\" -> \""
  tail := "\";"
  label _ := "\";"
  footer := ["\x7d"]

theorem isReadable_mermaidStyle : mermaidStyle.IsReadable where
  free := by decide
  label name hname := by
    constructor
    · simp [mermaidStyle, hname.1]
    · simp [mermaidStyle, hname.2]
  arrow := by decide
  frame := by decide

theorem isReadable_dotStyle : dotStyle.IsReadable where
  free := by decide
  label _ _ := by
    show IsWord "\";"
    decide
  arrow := by decide
  frame := by decide

theorem edge_mermaidStyle : mermaidStyle.edge =
    fun edge => "    " ++ edge.source ++ " --> " ++ edge.target := by
  funext edge
  exact String.append_empty

private theorem node_mermaidStyle : mermaidStyle.node =
    fun name => "    " ++ name ++ "[" ++ name ++ "]" := by
  funext name
  simp only [Style.node, mermaidStyle, String.append_assoc]

private theorem mermaid_eq_draw (b : Blueprint) : b.mermaid = mermaidStyle.draw b := by
  rw [Style.draw, Style.lines, edge_mermaidStyle, node_mermaidStyle]
  exact congrArg linesText (List.append_nil _).symm

/-- The edges that the routings of a blueprint branch along. -/
def branchEdges (b : Blueprint) : List EdgeSpec :=
  b.routings.entries.flatMap fun entry =>
    entry.2.branches.entries.map fun branch => ⟨entry.1, branch.2⟩

def MermaidShows (b : Blueprint) (edge : EdgeSpec) : Prop :=
  HasLine b.mermaid ("    " ++ edge.source ++ " --> " ++ edge.target)

def DotShows (b : Blueprint) (edge : EdgeSpec) : Prop :=
  HasLine b.dot ("    \"" ++ edge.source ++ "\" -> \"" ++ edge.target ++ "\";")

theorem mermaidShows_iff (b : Blueprint) (edge : EdgeSpec) :
    b.MermaidShows edge ↔ HasLine (mermaidStyle.draw b) (mermaidStyle.edge edge) := by
  rw [MermaidShows, mermaid_eq_draw, edge_mermaidStyle]

theorem dotShows_iff (b : Blueprint) (edge : EdgeSpec) :
    b.DotShows edge ↔ HasLine (dotStyle.draw b) (dotStyle.edge edge) := Iff.rfl

structure HasWords (b : Blueprint) : Prop where
  nodes : ∀ node ∈ b.nodes, IsWord node.name
  edges : ∀ edge ∈ b.edges, JoinsWords edge
  branches : ∀ edge ∈ b.branchEdges, JoinsWords edge

/-- Diagrams show every plain edge and leave the routings out. Where names are words, they show a branch exactly
if a plain edge joins the same nodes. -/
theorem mermaid_dot_show_branch_iff (b : Blueprint) :
    (∀ edge ∈ b.edges, b.MermaidShows edge ∧ b.DotShows edge) ∧
      (∀ routings, { b with routings }.mermaid = b.mermaid ∧ { b with routings }.dot = b.dot) ∧
      (b.HasWords → ∀ edge ∈ b.branchEdges,
        (b.MermaidShows edge ↔ edge ∈ b.edges) ∧ (b.DotShows edge ↔ edge ∈ b.edges)) := by
  simp only [mermaidShows_iff, dotShows_iff]
  refine ⟨fun edge hedge => ⟨?_, ?_⟩, fun _ => ⟨rfl, rfl⟩, fun hwords edge hedge => ⟨?_, ?_⟩⟩
  · exact mermaidStyle.hasLine_of_mem_edges hedge
  · exact dotStyle.hasLine_of_mem_edges hedge
  · exact isReadable_mermaidStyle.hasLine_draw_iff hwords.nodes hwords.edges (hwords.branches edge hedge)
  · exact isReadable_dotStyle.hasLine_draw_iff hwords.nodes hwords.edges (hwords.branches edge hedge)

/-- A check that is passed or made again, with these plain edges. -/
def checkpoint (edges : List EdgeSpec) : Blueprint where
  entry := "check"
  fields := []
  nodes := [⟨"check", "check", "(state)", none, none⟩, ⟨"pass", "pass", "(state)", none, none⟩]
  edges := edges
  routings := Table.ofList [("check", ⟨"route", Table.ofList [("again", "check"), ("clear", "pass")]⟩)]

theorem branchEdges_checkpoint (edges : List EdgeSpec) :
    (checkpoint edges).branchEdges = [⟨"check", "check"⟩, ⟨"check", "pass"⟩] := rfl

theorem hasWords_checkpoint {edges : List EdgeSpec} (h : ∀ edge ∈ edges, JoinsWords edge) :
    (checkpoint edges).HasWords := by
  refine ⟨?_, h, ?_⟩
  · show ∀ node ∈ (checkpoint []).nodes, IsWord node.name
    decide
  · rw [branchEdges_checkpoint]
    decide

theorem mermaid_dot_show_paved_branch :
    (checkpoint [⟨"check", "pass"⟩]).MermaidShows ⟨"check", "pass"⟩ ∧
      (checkpoint [⟨"check", "pass"⟩]).DotShows ⟨"check", "pass"⟩ := by
  obtain ⟨-, -, hbranches⟩ := mermaid_dot_show_branch_iff (checkpoint [⟨"check", "pass"⟩])
  obtain ⟨hmermaid, hdot⟩ := hbranches (hasWords_checkpoint (by decide)) ⟨"check", "pass"⟩ <| by
    simp [branchEdges_checkpoint]
  exact ⟨hmermaid.2 (by simp [checkpoint]), hdot.2 (by simp [checkpoint])⟩

/-- Without a plain edge neither diagram shows how the check is passed. -/
theorem mermaid_dot_hide_branch :
    ⟨"check", "pass"⟩ ∈ (checkpoint []).branchEdges ∧
      ¬ (checkpoint []).MermaidShows ⟨"check", "pass"⟩ ∧
      ¬ (checkpoint []).DotShows ⟨"check", "pass"⟩ := by
  have hwords : (checkpoint []).HasWords := hasWords_checkpoint (by simp)
  have hedge : JoinsWords ⟨"check", "pass"⟩ := by decide
  rw [mermaidShows_iff, dotShows_iff,
    isReadable_mermaidStyle.hasLine_draw_iff hwords.nodes hwords.edges hedge,
    isReadable_dotStyle.hasLine_draw_iff hwords.nodes hwords.edges hedge, branchEdges_checkpoint]
  simp [checkpoint]

end Blueprint

end Workgraph.Codegen
