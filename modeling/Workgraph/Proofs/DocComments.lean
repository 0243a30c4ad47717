import Workgraph.Proofs.OneLine

/-!
# Documentation comments

A documentation comment has a line for each line of its text, and nothing of the text stands outside of
these lines. What the lines of a text are is said by a rule of its own: each of them ends with a newline,
which may have a carriage return before it, and only the last one may go without. What becomes of a carriage return at
the end of a last line without a newline is a rule of its own, and everything here is true under both.
-/

namespace Workgraph

namespace Text

/-- The lines of a text, one after the other. -/
inductive HasLines (final : FinalReturn) : List Char → List (List Char) → Prop
  | empty : HasLines final [] []
  | last {line : List Char} (hne : line ≠ []) (hfree : '\n' ∉ line) : HasLines final line [final.line line]
  | ended {line rest : List Char} {lines : List (List Char)} (hfree : '\n' ∉ line)
      (h : HasLines final rest lines) : HasLines final (line ++ '\n' :: rest) (dropReturn line :: lines)

variable {final : FinalReturn}

theorem lines_of_not_mem {line : List Char} (hne : line ≠ []) (hfree : '\n' ∉ line) :
    lines final line = [final.line line] := by
  rw [lines, splitAt_of_not_mem hfree, linesOfPieces, if_neg]
  rwa [List.isEmpty_iff]

theorem lines_append {line : List Char} (hfree : '\n' ∉ line) (rest : List Char) :
    lines final (line ++ '\n' :: rest) = dropReturn line :: lines final rest := by
  rw [lines, splitAt_append, splitAt_of_not_mem hfree, List.singleton_append, linesOfPieces, lines]
  exact splitWhere_ne_nil _ rest

/-- By induction on the length: the text has no newline, or it goes on behind its first one. -/
theorem hasLines_lines (s : List Char) : HasLines final s (lines final s) := by
  induction hlength : s.length using Nat.strongRecOn generalizing s with
  | ind n ih =>
      by_cases hmem : '\n' ∈ s
      · obtain ⟨line, rest, rfl, hfree⟩ := List.eq_append_cons_of_mem hmem
        rw [lines_append hfree]
        refine .ended hfree (ih rest.length ?_ rest rfl)
        simp only [List.length_append, List.length_cons] at hlength
        omega
      · by_cases hne : s = []
        · subst hne
          exact .empty
        · rw [lines_of_not_mem hne hmem]
          exact .last hne hmem

private theorem hasLines_iff {s : List Char} {found : List (List Char)} :
    HasLines final s found ↔ found = lines final s := by
  constructor
  · intro h
    induction h with
    | empty => rfl
    | last hne hfree => rw [lines_of_not_mem hne hfree]
    | ended hfree h ih => rw [lines_append hfree, ih]
  · rintro rfl
    exact hasLines_lines s

end Text

namespace Codegen

open Text

variable {final : FinalReturn}

theorem splitAt_docComment {s : String} (h : lines final s.toList ≠ []) :
    splitAt '\n' (docComment s final).toList = (lines final s.toList).map ("/// ".toList ++ ·) := by
  have hfree : ∀ line ∈ (Listing.ofText final s).map ("/// " ++ ·), '\n' ∉ line.toList := by
    simp only [Listing.ofText, List.map_map, List.forall_mem_map, Function.comp_apply, String.toList_append,
      String.toList_ofList, List.mem_append, not_or]
    exact fun line hline => ⟨by decide, newline_not_mem_lines hline⟩
  have hne : (Listing.ofText final s).map ("/// " ++ ·) ≠ [] := by
    simpa only [Listing.ofText, ne_eq, List.map_eq_nil_iff] using h
  rw [docComment, Listing.splitAt_text_of_free hne hfree, Listing.ofText, List.map_map, List.map_map]
  simp only [Function.comp_def, String.toList_append, String.toList_ofList]

/-- The stub of a node begins with the comment, and the rest of it does not depend on the text. -/
theorem splitAt_nodeFunction {s : String} (h : lines final s.toList ≠ []) (node : NodeSpec) :
    splitAt '\n' (Listing.text (nodeFunction final { node with doc := some s })).toList =
      (lines final s.toList).map ("/// ".toList ++ ·) ++
        (nodeFunction final node).tail.flatMap fun line => splitAt '\n' line.toList := by
  have hcons : nodeFunction final { node with doc := some s } =
      docComment s final :: (nodeFunction final node).tail := rfl
  rw [hcons, Listing.splitAt_text (List.cons_ne_nil _ _), List.flatMap_cons, splitAt_docComment h]

/-- A comment has a line for each line of its text, with the mark of a comment before it. So nothing of the text
begins a line without the mark, also in the stub of a node, and without the marks the lines are there again. -/
theorem docComment_keeps_lines (final : FinalReturn) (s : String) (h : lines final s.toList ≠ []) :
    (∀ found, HasLines final s.toList found ↔ found = lines final s.toList) ∧
    splitAt '\n' (docComment s final).toList = (lines final s.toList).map ("/// ".toList ++ ·) ∧
    (∀ piece ∈ splitAt '\n' (docComment s final).toList, "/// ".toList <+: piece) ∧
    (splitAt '\n' (docComment s final).toList).map (List.drop 4) = lines final s.toList ∧
    ∀ node : NodeSpec, splitAt '\n' (Listing.text (nodeFunction final { node with doc := some s })).toList =
      (lines final s.toList).map ("/// ".toList ++ ·) ++
        (nodeFunction final node).tail.flatMap fun line => splitAt '\n' line.toList := by
  have hpieces := splitAt_docComment h
  refine ⟨fun _ => hasLines_iff, hpieces, ?_, ?_, splitAt_nodeFunction h⟩
  · rw [hpieces, List.forall_mem_map]
    exact fun line _ => List.prefix_append _ line
  · rw [hpieces, List.map_map]
    exact List.map_id _

/-- A text with a blank line, carriage returns before newlines and elsewhere, and one at its end. -/
def memo : String := "Reads.\r\n\n\rWrites.\r\r\nEnds.\r"

/-- The last carriage return of the memo stays under one rule and goes under the other. -/
theorem docComment_memo :
    splitAt '\n' (docComment memo .kept).toList =
      ["/// Reads.".toList, "/// ".toList, "/// \rWrites.\r".toList, "/// Ends.\r".toList] ∧
    splitAt '\n' (docComment memo .dropped).toList =
      ["/// Reads.".toList, "/// ".toList, "/// \rWrites.\r".toList, "/// Ends.".toList] := by
  have hkept : lines .kept memo.toList =
      ["Reads.".toList, [], "\rWrites.\r".toList, "Ends.\r".toList] := by decide +kernel
  have hdropped : lines .dropped memo.toList =
      ["Reads.".toList, [], "\rWrites.\r".toList, "Ends.".toList] := by decide +kernel
  refine ⟨?_, ?_⟩
  · rw [(docComment_keeps_lines .kept memo (by simp [hkept])).2.1, hkept]
    rfl
  · rw [(docComment_keeps_lines .dropped memo (by simp [hdropped])).2.1, hdropped]
    rfl

end Codegen

end Workgraph
