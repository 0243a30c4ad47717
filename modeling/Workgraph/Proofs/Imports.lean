import Workgraph.Proofs.Codes
import Workgraph.Proofs.Occurrences
import Workgraph.Proofs.OneLine

/-!
# Imports of generated code

The imports of a type are collected without looking into a mapping, whose own path is all that can be found there,
while its code is written through to the end. A word is written for a type only in the heads of its parts, so both
agree on mappings, and so do the imports of a blueprint and the struct that is written for its fields.
-/

namespace Workgraph.Codegen

namespace TargetType

open Text

section Words

variable {P : List Char → List Char → Prop} {word : List Char}

/-- A word that is written within one head. -/
structure IsSolid (word : List Char) : Prop where
  nonempty : word ≠ []
  bracket : '<' ∉ word
  close : '>' ∉ word
  comma : ',' ∉ word
  blank : ' ' ∉ word

private theorem everywhere_furtherText (hP : IsStable P) (hword : IsSolid word) {types : List TargetType}
    (htypes : ∀ type ∈ types, Everywhere P word type.code.toList) {s : List Char}
    (hs : Everywhere P word s) : Everywhere P word (s ++ furtherText types) := by
  have hnil : Everywhere P word [] := everywhere_nil hword.nonempty
  induction types generalizing s with
  | nil => exact hs.append_apart hP hword.close hnil
  | cons type types ih =>
      have hfurther := ih (fun type htype => htypes type (List.mem_cons_of_mem _ htype))
        (htypes type List.mem_cons_self)
      exact hs.append_apart hP hword.comma (hnil.append_apart hP hword.blank hfurther)

/-- What is true wherever the word stands in the head of a part is true wherever it stands in the code. -/
theorem everywhere_code (hP : IsStable P) (hword : IsSolid word) {type : TargetType}
    (h : ∀ part ∈ type.parts, Everywhere P word part.head.toList) : Everywhere P word type.code.toList := by
  induction type using arguments_induction with
  | step type ih =>
      have hhead := h type (self_mem_parts type)
      have harguments : ∀ argument ∈ type.arguments, Everywhere P word argument.code.toList :=
        fun argument hargument => ih argument hargument fun part hpart =>
          h part (mem_parts_of_argument hargument hpart)
      rw [toList_code]
      generalize type.arguments = arguments at harguments
      cases arguments with
      | nil => simpa [argumentsText] using hhead
      | cons argument rest =>
          refine hhead.append_apart hP hword.bracket (everywhere_furtherText hP hword ?_ ?_)
          · exact fun other hother => harguments other (List.mem_cons_of_mem _ hother)
          · exact harguments argument List.mem_cons_self

end Words

private theorem infix_code_of_mem_arguments {argument type : TargetType} (h : argument ∈ type.arguments) :
    argument.code.toList <:+: type.code.toList := by
  cases type with
  | sequence item =>
      obtain rfl := List.mem_singleton.1 h
      exact ⟨"Vec<".toList, ">".toList, by simp [code]⟩
  | mapping key value =>
      obtain rfl | h := List.mem_cons.1 h
      · exact ⟨"HashMap<".toList, ", ".toList ++ value.code.toList ++ ">".toList, by simp [code]⟩
      · obtain rfl := List.mem_singleton.1 h
        exact ⟨"HashMap<".toList ++ key.code.toList ++ ", ".toList, ">".toList, by simp [code]⟩
  | optional inner =>
      obtain rfl := List.mem_singleton.1 h
      exact ⟨"Option<".toList, ">".toList, by simp [code]⟩
  | _ => cases h

private theorem infix_code_of_mem_parts {part type : TargetType} (h : part ∈ type.parts) :
    part.code.toList <:+: type.code.toList := by
  induction type using arguments_induction with
  | step type ih =>
      obtain rfl | ⟨argument, hargument, hpart⟩ := mem_parts_iff.1 h
      · exact List.infix_refl _
      · exact (ih argument hargument hpart).trans (infix_code_of_mem_arguments hargument)

/-- Whether the type or a part of it is a mapping. -/
def HasMapping (type : TargetType) : Prop := ∃ key value, .mapping key value ∈ type.parts

theorem mapping_mem_imports_iff (type : TargetType) :
    "std::collections::HashMap" ∈ type.imports ↔ type.HasMapping := by
  induction type with
  | mapping key value =>
      -- the imports of the key and the value are not collected, and the mapping itself is enough
      constructor
      · intro _
        exact ⟨key, value, self_mem_parts _⟩
      · intro _
        exact List.mem_singleton_self _
  | sequence item ih => simpa [imports, HasMapping, parts] using ih
  | optional inner ih => simpa [imports, HasMapping, parts] using ih
  | _ => simp [imports, HasMapping, parts]

private theorem eq_of_mem_imports {type : TargetType} {path : String} (h : path ∈ type.imports) :
    path = "std::collections::HashMap" ∨ path = "serde_json::Value" := by
  fun_induction imports type with
  | case1 key value => exact .inl (List.mem_singleton.1 h)
  | case2 => exact .inr (List.mem_singleton.1 h)
  | case3 inner ih => exact ih h
  | case4 inner ih => exact ih h
  | case5 => cases h

private def mappingWord : List Char := ['H', 'a', 's', 'h', 'M', 'a', 'p']

private theorem toList_mappingWord : "HashMap".toList = mappingWord := String.toList_ofList

private theorem isSolid_mappingWord : IsSolid mappingWord := by
  constructor <;> decide

private theorem everywhere_head {type : TargetType} (hmapping : ∀ key value, type = .mapping key value →
      ∀ before after, P before after)
    (hcustom : ∀ name, type = .custom name → Everywhere P mappingWord name.toList) :
    Everywhere P mappingWord type.head.toList := by
  cases type with
  | mapping key value => exact fun before after _ => hmapping key value rfl before after
  | custom name => exact hcustom name rfl
  | sequence item =>
      have hmiss : Misses mappingWord "Vec".toList := by decide
      exact hmiss.everywhere
  | optional inner =>
      have hmiss : Misses mappingWord "Option".toList := by decide
      exact hmiss.everywhere
  | _ => exact Misses.everywhere (by decide)

end TargetType

namespace FieldSpec

/-- The type that a field is declared with: the type of its hint, made optional if the field is. -/
def declaredType (field : FieldSpec) : TargetType :=
  if field.optional && !field.type.isOptional then .optional field.type else field.type

theorem line_eq (field : FieldSpec) :
    field.line = "    pub " ++ field.name ++ ": " ++ field.declaredType.code := by
  unfold line declaredType
  split <;> rfl

private theorem mem_parts_declaredType {field : FieldSpec} {part : TargetType}
    (h : part ∈ field.declaredType.parts) : part ∈ field.type.parts ∨ part = .optional field.type := by
  unfold declaredType at h
  split at h
  · simpa [TargetType.parts, or_comm] using h
  · exact .inl h

private theorem parts_subset_declaredType (field : FieldSpec) : field.type.parts ⊆ field.declaredType.parts := by
  unfold declaredType
  split
  · exact List.subset_cons_self ..
  · exact List.Subset.refl _

end FieldSpec

private theorem mem_importLines_iff {order : NameOrder} {imports : List String} {line : String} :
    line ∈ importLines order imports ↔
      line ∈ importLines order [] ∨ ∃ path ∈ imports, line = "use " ++ path ++ ";" := by
  have hnone : order.list [] = [] := List.eq_nil_iff_forall_not_mem.2 fun name hname =>
    List.not_mem_nil ((order.mem_list [] name).1 hname)
  simp only [importLines, List.mem_append, hnone, List.map_nil, List.not_mem_nil, or_false, List.mem_map,
    order.mem_list, eq_comm]

namespace Blueprint

open Text

variable {b : Blueprint}

theorem mem_imports_iff {path : String} :
    path ∈ b.imports ↔ ∃ field ∈ b.fields, path ∈ field.type.imports := List.mem_flatMap

theorem mapping_mem_imports_iff :
    "std::collections::HashMap" ∈ b.imports ↔ ∃ field ∈ b.fields, field.type.HasMapping := by
  simp only [mem_imports_iff, TargetType.mapping_mem_imports_iff]

/-- The word for mappings is imported, or it is part of a name that was given to a field or to a type. -/
def IsImportedOrName (b : Blueprint) (before after : List Char) : Prop :=
  "std::collections::HashMap" ∈ b.imports ∨ ∃ field ∈ b.fields, ∃ name,
    (name = field.name ∨ .custom name ∈ field.type.parts) ∧
      Within "HashMap".toList name.toList before after

private theorem isStable_isImportedOrName (b : Blueprint) : IsStable b.IsImportedOrName := by
  rintro lead tail before after (himported | ⟨field, hfield, name, hname, hwithin⟩) hlead htail
  · exact .inl himported
  · exact .inr ⟨field, hfield, name, hname, isStable_within _ _ hwithin hlead htail⟩

private theorem everywhere_name {field : FieldSpec} (hfield : field ∈ b.fields) {name : String}
    (hname : name = field.name ∨ .custom name ∈ field.type.parts) :
    Everywhere b.IsImportedOrName TargetType.mappingWord name.toList := by
  rw [← TargetType.toList_mappingWord]
  exact (everywhere_within _ _).imp fun _ _ hwithin => .inr ⟨field, hfield, name, hname, hwithin⟩

private theorem everywhere_declaredType {field : FieldSpec} (hfield : field ∈ b.fields) :
    Everywhere b.IsImportedOrName TargetType.mappingWord field.declaredType.code.toList := by
  refine TargetType.everywhere_code b.isStable_isImportedOrName TargetType.isSolid_mappingWord ?_
  intro part hpart
  have hpart := field.mem_parts_declaredType hpart
  refine TargetType.everywhere_head ?_ ?_
  · rintro key value rfl before after
    have hmapping : TargetType.mapping key value ∈ field.type.parts := hpart.resolve_right nofun
    exact .inl (mapping_mem_imports_iff.2 ⟨field, hfield, key, value, hmapping⟩)
  · rintro name rfl
    exact everywhere_name hfield (.inr (hpart.resolve_right nofun))

private theorem everywhere_line {field : FieldSpec} (hfield : field ∈ b.fields) :
    Everywhere b.IsImportedOrName TargetType.mappingWord field.line.toList := by
  have hP := b.isStable_isImportedOrName
  have hlead : Everywhere b.IsImportedOrName TargetType.mappingWord ("    pub " ++ field.name).toList := by
    rw [String.toList_append]
    exact (everywhere_name hfield (.inl rfl)).lead hP (by decide) (by decide)
  rw [field.line_eq, String.toList_append, String.toList_append]
  exact hlead.append_between hP (by decide) (by decide) (by decide) (everywhere_declaredType hfield)

private theorem isImportedOrName_stateStruct (b : Blueprint) :
    Everywhere b.IsImportedOrName "HashMap".toList b.stateStruct.text.toList := by
  have hP := b.isStable_isImportedOrName
  have hfields : Everywhere b.IsImportedOrName TargetType.mappingWord
      (join ",\n" (b.fields.map FieldSpec.line)).toList := by
    refine everywhere_join hP (by decide) (by decide) (by decide) ?_
    simp only [List.forall_mem_map]
    exact fun field => everywhere_line
  rw [TargetType.toList_mappingWord]
  refine everywhere_join hP (by decide) (by decide) (by decide) ?_
  simp only [stateStruct, List.forall_mem_cons]
  refine ⟨?_, ?_, hfields, ?_, nofun⟩
  · exact Misses.everywhere (by decide)
  · exact Misses.everywhere (by decide)
  · exact Misses.everywhere (by decide)

private theorem line_infix_stateStruct {field : FieldSpec} (hfield : field ∈ b.fields) :
    field.line.toList <:+: b.stateStruct.text.toList := by
  have hfields : field.line.toList <:+: (join ",\n" (b.fields.map FieldSpec.line)).toList :=
    infix_join_of_mem (List.mem_map_of_mem hfield)
  exact hfields.trans (Listing.infix_text_of_mem (by simp [stateStruct]))

private theorem exists_mapping_written (h : "std::collections::HashMap" ∈ b.imports) :
    ∃ field ∈ b.fields, ∃ key value, .mapping key value ∈ field.type.parts ∧
      (TargetType.mapping key value).code.toList <:+: field.line.toList ∧
      field.line.toList <:+: b.stateStruct.text.toList := by
  obtain ⟨field, hfield, key, value, hpart⟩ := mapping_mem_imports_iff.1 h
  refine ⟨field, hfield, key, value, hpart, ?_, line_infix_stateStruct hfield⟩
  have hcode := TargetType.infix_code_of_mem_parts (field.parts_subset_declaredType hpart)
  rw [field.line_eq, String.toList_append]
  exact hcode.trans (List.suffix_append ..).isInfix

private theorem program_imports_stateStruct (b : Blueprint) (source : Option String) (order : NameOrder)
    (final : FinalReturn) : ∃ lead tail, b.program source order final =
      lead ++ ((importLines order b.imports).text ++ ("\n\n" ++ (b.stateStruct.text ++ tail))) := by
  let rest : Listing := ["", (b.functions final).text, "", b.executor.text, ""] ++ entryPoint
  have hlines : fileHeader source ++ importLines order b.imports ++
      ["", b.stateStruct.text, "", (b.functions final).text, "", b.executor.text, ""] ++ entryPoint =
      fileHeader source ++ (importLines order b.imports ++ (["", b.stateStruct.text] ++ rest)) := by
    simp [rest]
  have hmark : "\n\n" = "\n" ++ "\n" := rfl
  refine ⟨(fileHeader source).text ++ "\n", "\n" ++ rest.text, ?_⟩
  unfold program formatFile
  rw [hlines, Listing.text_append (by simp [fileHeader]) (by simp [importLines]),
    Listing.text_append (by simp [importLines]) (by simp), Listing.text_append (by simp) (by simp [rest])]
  simp only [Listing.text, join, hmark, String.append_assoc, String.empty_append]

/-- The path for mappings is imported exactly if a mapping is part of the type of a field. So wherever the struct of
the program has the word for mappings, it is imported or part of a given name, and where it is imported the struct
has a mapping. No other path is imported but the one for JSON values. The import lines of the program are the
standard ones and those of the imports, in whatever order. -/
theorem imports_match_stateStruct (b : Blueprint) (source : Option String) (order : NameOrder)
    (final : FinalReturn) :
    ("std::collections::HashMap" ∈ b.imports ↔ ∃ field ∈ b.fields, field.type.HasMapping) ∧
      (∀ before after, b.stateStruct.text.toList = before ++ "HashMap".toList ++ after →
        "std::collections::HashMap" ∈ b.imports ∨ ∃ field ∈ b.fields, ∃ name,
          (name = field.name ∨ .custom name ∈ field.type.parts) ∧
            Within "HashMap".toList name.toList before after) ∧
      ("std::collections::HashMap" ∈ b.imports →
        ∃ field ∈ b.fields, ∃ key value, .mapping key value ∈ field.type.parts ∧
          (TargetType.mapping key value).code.toList <:+: field.line.toList ∧
          field.line.toList <:+: b.stateStruct.text.toList) ∧
      (∀ path ∈ b.imports, path = "std::collections::HashMap" ∨ path = "serde_json::Value") ∧
      (∃ lead tail, b.program source order final =
        lead ++ ((importLines order b.imports).text ++ ("\n\n" ++ (b.stateStruct.text ++ tail)))) ∧
      ∀ line, line ∈ importLines order b.imports ↔
        line ∈ importLines order [] ∨ ∃ path ∈ b.imports, line = "use " ++ path ++ ";" := by
  refine ⟨mapping_mem_imports_iff, b.isImportedOrName_stateStruct, exists_mapping_written, ?_,
    b.program_imports_stateStruct source order final, fun line => mem_importLines_iff⟩
  intro path hpath
  obtain ⟨field, -, himport⟩ := mem_imports_iff.1 hpath
  exact TargetType.eq_of_mem_imports himport

end Blueprint

end Workgraph.Codegen
