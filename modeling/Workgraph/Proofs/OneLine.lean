import Workgraph.Proofs.Executor

/-!
# Texts of one line

Texts that hold no newline, and what is made of them: the lines of any text, the types that are written for a hint,
and the answers and names of an action.
-/

namespace Workgraph

namespace Text

private theorem subset_of_mem_splitWhere {divides : Char → Bool} {s piece : List Char}
    (h : piece ∈ splitWhere divides s) : piece ⊆ s := by
  induction s generalizing piece with
  | nil => simp_all [splitWhere]
  | cons c rest ih =>
      unfold splitWhere at h
      split at h
      · obtain rfl | h := List.mem_cons.1 h
        · exact List.nil_subset _
        · exact List.subset_cons_of_subset c (ih h)
      · obtain ⟨first, pieces, hsplit⟩ := List.exists_cons_of_ne_nil (splitWhere_ne_nil divides rest)
        rw [hsplit] at h ih
        obtain rfl | h := List.mem_cons.1 h
        · exact List.cons_subset_cons c (ih List.mem_cons_self)
        · exact List.subset_cons_of_subset c (ih (List.mem_cons_of_mem first h))

private theorem trim_subset (blank : Char → Bool) (s : List Char) : trim blank s ⊆ s := by
  intro c hc
  have hback := (List.dropWhile_suffix blank).subset (List.mem_reverse.1 hc)
  exact (List.dropWhile_suffix blank).subset (List.mem_reverse.1 hback)

theorem dropReturn_subset (piece : List Char) : dropReturn piece ⊆ piece := by
  unfold dropReturn
  split
  · exact List.dropLast_subset piece
  · exact List.Subset.refl piece

private theorem FinalReturn.line_subset (final : FinalReturn) (piece : List Char) : final.line piece ⊆ piece := by
  cases final with
  | dropped => exact dropReturn_subset piece
  | kept => exact List.Subset.refl piece

private theorem subset_of_mem_linesOfPieces {final : FinalReturn} {pieces : List (List Char)} {line : List Char}
    (h : line ∈ linesOfPieces final pieces) : ∃ piece ∈ pieces, line ⊆ piece := by
  fun_induction linesOfPieces final pieces with
  | case1 => cases h
  | case2 last hempty => cases h
  | case3 last hempty =>
      obtain rfl := List.mem_singleton.1 h
      exact ⟨last, List.mem_cons_self, final.line_subset last⟩
  | case4 piece pieces hne ih =>
      obtain rfl | h := List.mem_cons.1 h
      · exact ⟨piece, List.mem_cons_self, dropReturn_subset piece⟩
      · obtain ⟨other, hother, hline⟩ := ih h
        exact ⟨other, List.mem_cons_of_mem piece hother, hline⟩

theorem newline_not_mem_lines {final : FinalReturn} {s line : List Char} (h : line ∈ lines final s) :
    '\n' ∉ line := by
  obtain ⟨piece, hpiece, hline⟩ := subset_of_mem_linesOfPieces h
  intro hmem
  have hfree := free_of_mem_splitWhere hpiece '\n' (hline hmem)
  simp at hfree

end Text

namespace Codegen

def IsOneLine (s : String) : Prop := '\n' ∉ s.toList

instance (s : String) : Decidable (IsOneLine s) := inferInstanceAs (Decidable (¬ _))

theorem isOneLine_append {s t : String} : IsOneLine (s ++ t) ↔ IsOneLine s ∧ IsOneLine t := by
  simp [IsOneLine]

theorem isOneLine_literal {s : List Char} (h : '\n' ∉ s) : IsOneLine (String.ofList s) :=
  Text.not_mem_literal h

theorem isOneLine_join {mark : String} (hmark : IsOneLine mark) {texts : List String}
    (h : ∀ s ∈ texts, IsOneLine s) : IsOneLine (Text.join mark texts) := by
  induction texts with
  | nil => exact isOneLine_literal List.not_mem_nil
  | cons s rest ih =>
      cases rest with
      | nil => exact h s List.mem_cons_self
      | cons t rest =>
          rw [Text.join, isOneLine_append, isOneLine_append]
          · exact ⟨⟨h s List.mem_cons_self, hmark⟩, ih fun u hu => h u (List.mem_cons_of_mem s hu)⟩
          · exact List.cons_ne_nil t rest

namespace TargetType

theorem isOneLine_sequence {item : TargetType} (h : IsOneLine item.code) :
    IsOneLine (sequence item).code := by
  rw [code, isOneLine_append, isOneLine_append]
  exact ⟨⟨isOneLine_literal (by decide), h⟩, isOneLine_literal (by decide)⟩

theorem isOneLine_mapping {key value : TargetType} (hkey : IsOneLine key.code)
    (hvalue : IsOneLine value.code) : IsOneLine (mapping key value).code := by
  simp only [code, isOneLine_append]
  exact ⟨⟨⟨⟨isOneLine_literal (by decide), hkey⟩, isOneLine_literal (by decide)⟩, hvalue⟩,
    isOneLine_literal (by decide)⟩

theorem isOneLine_optional {inner : TargetType} (h : IsOneLine inner.code) :
    IsOneLine (optional inner).code := by
  rw [code, isOneLine_append, isOneLine_append]
  exact ⟨⟨isOneLine_literal (by decide), h⟩, isOneLine_literal (by decide)⟩

theorem isOneLine_json : IsOneLine json.code := isOneLine_literal (by decide)

end TargetType

namespace TypeHint

theorem subset_of_parameter? {s inner : List Char} (h : parameter? s = some inner) : inner ⊆ s := by
  unfold parameter? at h
  split at h
  · cases h
  · rename_i c rest hopen
    split at h
    · cases h
    · rename_i d kept hclose
      cases h
      intro x hx
      have hrest : x ∈ rest.reverse.dropWhile (· != ']') := by
        rw [hclose]
        exact List.mem_cons_of_mem d (List.mem_reverse.1 hx)
      have hs : x ∈ s.dropWhile (· != '[') := by
        rw [hopen]
        exact List.mem_cons_of_mem c (List.mem_reverse.1 ((List.dropWhile_suffix _).subset hrest))
      exact (List.dropWhile_suffix _).subset hs

theorem subset_of_mem_pieces {mark : Char} {s piece : List Char} (h : piece ∈ pieces mark s) :
    piece ⊆ s := by
  obtain ⟨part, hpart, rfl⟩ := List.mem_map.1 h
  exact List.Subset.trans (Text.trim_subset _ part) (Text.subset_of_mem_splitWhere hpart)

/-- A plain type is written on one line, and so are the parts of any other shape. -/
def Shape.IsOneLine : Shape → Prop
  | .plain type => Codegen.IsOneLine type.code
  | .sequence item => '\n' ∉ item
  | .mapping key value => '\n' ∉ key ∧ '\n' ∉ value
  | .optional inner => '\n' ∉ inner

private theorem isOneLine_mappingShape {s : List Char} (hs : '\n' ∉ s) : (mappingShape s).IsOneLine := by
  unfold mappingShape
  split
  · rename_i key value hpieces
    obtain ⟨inner, hinner, hpair⟩ := Option.map_eq_some_iff.1 hpieces
    have hfree : ∀ piece ∈ pieces ',' inner, '\n' ∉ piece := fun piece hpiece hmem =>
      hs (subset_of_parameter? hinner (subset_of_mem_pieces hpiece hmem))
    rw [hpair] at hfree
    exact ⟨hfree key (by simp), hfree value (by simp)⟩
  · exact TargetType.isOneLine_mapping (isOneLine_literal (by decide)) TargetType.isOneLine_json

private theorem isOneLine_unionShape {s : List Char} (hs : '\n' ∉ s) : (unionShape s).IsOneLine := by
  simp only [unionShape]
  split
  · split
    · rename_i inner hinner
      have hmem : inner ∈ (pieces '|' s).filter (!isNone ·) := by simp [hinner]
      exact fun h => hs (subset_of_mem_pieces (List.mem_filter.1 hmem).1 h)
    · exact TargetType.isOneLine_json
  · exact TargetType.isOneLine_json

theorem isOneLine_shape {s : List Char} (hs : '\n' ∉ s) : (shape s).IsOneLine := by
  have hinner {inner : List Char} (h : parameter? s = some inner) : '\n' ∉ inner :=
    fun hmem => hs (subset_of_parameter? h hmem)
  unfold shape
  split
  · rename_i type hlookup
    obtain ⟨before, after, hsplit, -⟩ := List.lookup_eq_some_iff.1 hlookup
    have hall : ∀ entry ∈ simpleTypes, Codegen.IsOneLine entry.2.code := by decide
    exact hall (String.ofList s, type) (by rw [hsplit]; simp)
  · split
    · split
      · rename_i item hitem
        exact hinner hitem
      · exact TargetType.isOneLine_sequence TargetType.isOneLine_json
    · split
      · exact isOneLine_mappingShape hs
      · split
        · split
          · rename_i inner hoptional
            exact hinner hoptional
          · exact TargetType.isOneLine_optional TargetType.isOneLine_json
        · split
          · exact isOneLine_unionShape hs
          · exact isOneLine_literal hs

private theorem isOneLine_code {s : List Char} (hs : '\n' ∉ s) : IsOneLine (toType s).code := by
  fun_induction toType s with
  | case1 s type hshape =>
      have hone := isOneLine_shape hs
      rwa [hshape] at hone
  | case2 s item hshape ih =>
      have hone := isOneLine_shape hs
      rw [hshape] at hone
      exact TargetType.isOneLine_sequence (ih hone)
  | case3 s key value hshape ihk ihv =>
      have hone := isOneLine_shape hs
      rw [hshape] at hone
      exact TargetType.isOneLine_mapping (ihk hone.1) (ihv hone.2)
  | case4 s inner hshape ih =>
      have hone := isOneLine_shape hs
      rw [hshape] at hone
      exact TargetType.isOneLine_optional (ih hone)

end TypeHint

namespace TargetType

private theorem isOneLine_of_mem_imports {type : TargetType} {path : String} (h : path ∈ type.imports) :
    IsOneLine path := by
  fun_induction imports type with
  | case1 key value => exact List.mem_singleton.1 h ▸ isOneLine_literal (by decide)
  | case2 => exact List.mem_singleton.1 h ▸ isOneLine_literal (by decide)
  | case3 inner ih => exact ih h
  | case4 inner ih => exact ih h
  | case5 => cases h

end TargetType

theorem exists_fieldLine_eq {field : FieldSpec} (hname : IsOneLine field.name)
    (hhint : IsOneLine field.hint) :
    ∃ rest, IsOneLine rest ∧ field.line = "    pub " ++ rest := by
  have htype : IsOneLine field.type.code := TypeHint.isOneLine_code hhint
  have hcode : IsOneLine (if field.optional && !field.type.isOptional then
      "Option<" ++ field.type.code ++ ">" else field.type.code) := by
    split
    · exact Text.not_mem_framed (by decide) htype (by decide)
    · exact htype
  refine ⟨_, ?_, by rw [FieldSpec.line, String.append_assoc, String.append_assoc]⟩
  rw [isOneLine_append, isOneLine_append]
  exact ⟨hname, isOneLine_literal (by decide), hcode⟩

def Destination.names : Destination → List String
  | .stop => []
  | .node name => [name]

/-- The answers and the names of an action. -/
def Action.texts : Action → List String
  | .proceed destination => destination.names
  | .choose branches => branches.flatMap fun branch => branch.1 :: branch.2.names

theorem Destination.mem_names_ofTarget {name target : String}
    (h : name ∈ (Destination.ofTarget target).names) : name = target := by
  unfold Destination.ofTarget at h
  split at h
  · cases h
  · exact List.mem_singleton.1 h

namespace Blueprint

/-- All texts of a blueprint but the documentation of its nodes are on one line. -/
structure IsOneLine (b : Blueprint) : Prop where
  entry : Codegen.IsOneLine b.entry
  fields : ∀ field ∈ b.fields, Codegen.IsOneLine field.name ∧ Codegen.IsOneLine field.hint
  names : ∀ node ∈ b.nodes, Codegen.IsOneLine node.name
  functions : ∀ node ∈ b.nodes, Codegen.IsOneLine node.function ∧ Codegen.IsOneLine node.signature
  sources : ∀ node ∈ b.nodes, ∀ place ∈ node.source, Codegen.IsOneLine place
  edges : ∀ edge ∈ b.edges, Codegen.IsOneLine edge.target
  routings : ∀ routing ∈ b.routings.entries,
    Codegen.IsOneLine routing.1 ∧ Codegen.IsOneLine routing.2.function
  branches : ∀ routing ∈ b.routings.entries, ∀ branch ∈ routing.2.branches.entries,
    Codegen.IsOneLine branch.1 ∧ Codegen.IsOneLine branch.2

theorem IsOneLine.action {b : Blueprint} (h : b.IsOneLine) (name : String) :
    ∀ s ∈ (b.action name).texts, Codegen.IsOneLine s := by
  intro s hs
  unfold Blueprint.action at hs
  split at hs
  · rename_i routing hrouting
    obtain ⟨branch, hbranch, hs⟩ := List.mem_flatMap.1 hs
    obtain ⟨entry, hentry, rfl⟩ := List.mem_map.1 hbranch
    obtain ⟨hkey, htarget⟩ := h.branches _ (Table.mem_of_get? hrouting) entry hentry
    obtain rfl | hs := List.mem_cons.1 hs
    · exact hkey
    · exact Destination.mem_names_ofTarget hs ▸ htarget
  · split at hs
    · rename_i edge hedge
      exact Destination.mem_names_ofTarget hs ▸ h.edges edge (List.mem_of_find?_eq_some hedge)
    · cases hs

theorem isOneLine_imports (b : Blueprint) : ∀ path ∈ b.imports, Codegen.IsOneLine path := by
  intro path hpath
  obtain ⟨field, -, hfield⟩ := List.mem_flatMap.1 hpath
  exact TargetType.isOneLine_of_mem_imports hfield

end Blueprint

end Codegen

end Workgraph
