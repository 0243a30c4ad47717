import Workgraph.Codegen.TargetType
import Workgraph.Text.Search

/-!
# Type hints

The hints of state fields are texts such as `list[str]`, `dict[str, int]`, `Optional[T]` or
`T | None`. A hint is first taken apart into a shape with parts, which are shorter
hints; then the parts are mapped in turn.
-/

namespace Workgraph.Codegen.TypeHint

/-- The types of hints of one word. -/
def simpleTypes : List (String × TargetType) := [
  ("str", .text),
  ("int", .int64),
  ("float", .float64),
  ("bool", .bool),
  ("None", .unit),
  ("NoneType", .unit),
  ("Any", .json),
  ("object", .json)]

/-- How a hint is built from its parts. -/
inductive Shape where
  | plain (type : TargetType)
  | sequence (item : List Char)
  | mapping (key value : List Char)
  | optional (inner : List Char)

/-- What stands between the first opening and the last closing bracket, if they come in this order. -/
def parameter? (s : List Char) : Option (List Char) :=
  match s.dropWhile (· != '[') with
  | [] => none
  | _ :: inner =>
    match inner.reverse.dropWhile (· != ']') with
    | [] => none
    | _ :: kept => some kept.reverse

/-- The pieces between the occurrences of a character, without the white space around them. -/
def pieces (mark : Char) (s : List Char) : List (List Char) :=
  (Text.splitAt mark s).map (Text.trim Text.isWhite)

/-- Whether a hint is the one of a value that is absent. -/
def isNone (s : List Char) : Bool := s == "None".toList || s == "NoneType".toList

/-- The shape of alternatives: one alternative besides the absent value is optional, all else is open. -/
def unionShape (s : List Char) : Shape :=
  let parts := pieces '|' s
  if parts.any isNone then
    match parts.filter (!isNone ·) with
    | [inner] => .optional inner
    | _ => .plain .json
  else .plain .json

/-- The shape of a mapping: its parameter has to have exactly one comma. -/
def mappingShape (s : List Char) : Shape :=
  match (parameter? s).map (pieces ',') with
  | some [key, value] => .mapping key value
  | _ => .plain (.mapping .text .json)

def startsWith (words : List String) (s : List Char) : Bool :=
  words.any fun word => word.toList.isPrefixOf s

def shape (s : List Char) : Shape :=
  match simpleTypes.lookup (String.ofList s) with
  | some type => .plain type
  | none =>
    if startsWith ["list[", "List["] s then
      match parameter? s with
      | some item => .sequence item
      | none => .plain (.sequence .json)
    else if startsWith ["dict[", "Dict["] s then mappingShape s
    else if startsWith ["Optional["] s then
      match parameter? s with
      | some inner => .optional inner
      | none => .plain (.optional .json)
    else if s.contains '|' then unionShape s
    else .plain (.custom (String.ofList s))

theorem length_lt_of_parameter? {s inner : List Char} (h : parameter? s = some inner) :
    inner.length < s.length := by
  unfold parameter? at h
  split at h
  · simp at h
  · rename_i c rest hdrop
    have hrest : rest.length < s.length := by
      have := (List.dropWhile_suffix (l := s) (· != '[')).length_le
      rw [hdrop, List.length_cons] at this
      omega
    split at h
    · simp at h
    · rename_i d kept hkept
      have hlen := (List.dropWhile_suffix (l := rest.reverse) (· != ']')).length_le
      rw [hkept] at hlen
      simp only [Option.some.injEq] at h
      subst h
      simp only [List.length_cons, List.length_reverse] at hlen ⊢
      omega

theorem length_trim_le (blank : Char → Bool) (s : List Char) :
    (Text.trim blank s).length ≤ s.length := by
  unfold Text.trim
  have h₁ := (List.dropWhile_suffix (l := s) blank).length_le
  have h₂ := (List.dropWhile_suffix (l := (s.dropWhile blank).reverse) blank).length_le
  simp only [List.length_reverse] at h₂ ⊢
  omega

/-- The pieces and the characters that divide them make up the text. -/
theorem length_splitWhere (divides : Char → Bool) (s : List Char) :
    (Text.splitWhere divides s).flatten.length + (Text.splitWhere divides s).length =
      s.length + 1 := by
  induction s with
  | nil => simp [Text.splitWhere]
  | cons c rest ih =>
      unfold Text.splitWhere
      split
      · simp only [List.flatten_cons, List.nil_append, List.length_cons] at ih ⊢
        omega
      · cases hsplit : Text.splitWhere divides rest with
        | nil => simp [hsplit] at ih
        | cons piece pieces =>
            rw [hsplit] at ih
            simp only [List.flatten_cons, List.length_append, List.length_cons] at ih ⊢
            omega

theorem length_le_of_mem_pieces {mark : Char} {s piece : List Char} (h : piece ∈ pieces mark s) :
    piece.length + (pieces mark s).length ≤ s.length + 1 := by
  obtain ⟨part, hpart, rfl⟩ := List.mem_map.1 h
  have h₁ := length_trim_le Text.isWhite part
  have h₂ := (List.sublist_flatten_of_mem hpart).length_le
  have h₃ := length_splitWhere (· == mark) s
  simp only [pieces, Text.splitAt, List.length_map] at h₂ ⊢
  omega

theorem length_splitWhere_of_mem {divides : Char → Bool} {s : List Char} {c : Char} (hc : c ∈ s)
    (hdivides : divides c = true) : 2 ≤ (Text.splitWhere divides s).length := by
  induction s with
  | nil => simp at hc
  | cons d rest ih =>
      have hpos : 1 ≤ (Text.splitWhere divides rest).length := by
        cases rest with
        | nil => simp [Text.splitWhere]
        | cons e more =>
            unfold Text.splitWhere
            split
            · simp
            · split <;> simp
      unfold Text.splitWhere
      split
      · simp only [List.length_cons]
        omega
      · rename_i hd
        have hrest : c ∈ rest := by
          rcases List.mem_cons.1 hc with rfl | h
          · exact absurd hdivides hd
          · exact h
        have := ih hrest
        cases hsplit : Text.splitWhere divides rest with
        | nil => simp [hsplit] at this
        | cons piece pieces => simpa [hsplit] using this

theorem length_lt_of_unionShape {s inner : List Char} (hbar : s.contains '|' = true)
    (h : unionShape s = .optional inner) : inner.length < s.length := by
  unfold unionShape at h
  simp only at h
  split at h
  · split at h
    · rename_i found hfilter
      simp only [Shape.optional.injEq] at h
      subst h
      have hmem : found ∈ pieces '|' s :=
        (List.mem_filter.1 (by rw [hfilter]; simp)).1
      have hle := length_le_of_mem_pieces hmem
      have htwo : 2 ≤ (Text.splitWhere (· == '|') s).length :=
        length_splitWhere_of_mem (List.contains_iff_mem.1 hbar) (by simp)
      simp only [pieces, Text.splitAt, List.length_map] at hle
      omega
    · simp at h
  · simp at h

theorem length_lt_of_mappingShape {s key value : List Char}
    (h : mappingShape s = .mapping key value) :
    key.length < s.length ∧ value.length < s.length := by
  unfold mappingShape at h
  cases hp : parameter? s with
  | none => simp [hp] at h
  | some inner =>
      have hlt := length_lt_of_parameter? hp
      simp only [hp, Option.map_some] at h
      split at h
      · rename_i k v hpieces
        simp only [Option.some.injEq] at hpieces
        simp only [Shape.mapping.injEq] at h
        obtain ⟨rfl, rfl⟩ := h
        have hk : k.length + (pieces ',' inner).length ≤ inner.length + 1 :=
          length_le_of_mem_pieces (by rw [hpieces]; simp)
        have hv : v.length + (pieces ',' inner).length ≤ inner.length + 1 :=
          length_le_of_mem_pieces (by rw [hpieces]; simp)
        rw [hpieces] at hk hv
        simp only [List.length_cons, List.length_nil] at hk hv
        omega
      · simp at h

def Shape.parts : Shape → List (List Char)
  | .plain _ => []
  | .sequence item => [item]
  | .mapping key value => [key, value]
  | .optional inner => [inner]

/-- The parts of a hint are shorter than it. -/
theorem length_lt_of_mem_parts {s part : List Char} (h : part ∈ (shape s).parts) :
    part.length < s.length := by
  unfold shape at h
  split at h
  · simp [Shape.parts] at h
  · split at h
    · split at h
      · rename_i hparam
        simp only [Shape.parts, List.mem_singleton] at h
        subst h
        exact length_lt_of_parameter? hparam
      · simp [Shape.parts] at h
    · split at h
      · cases hshape : mappingShape s with
        | mapping key value =>
            have := length_lt_of_mappingShape hshape
            simp only [hshape, Shape.parts, List.mem_cons, List.not_mem_nil, or_false] at h
            rcases h with rfl | rfl
            · exact this.1
            · exact this.2
        | plain type => simp [hshape, Shape.parts] at h
        | sequence item =>
            unfold mappingShape at hshape
            split at hshape <;> simp at hshape
        | optional inner =>
            unfold mappingShape at hshape
            split at hshape <;> simp at hshape
      · split at h
        · split at h
          · rename_i hparam
            simp only [Shape.parts, List.mem_singleton] at h
            subst h
            exact length_lt_of_parameter? hparam
          · simp [Shape.parts] at h
        · split at h
          · rename_i hbar
            cases hshape : unionShape s with
            | optional inner =>
                simp only [hshape, Shape.parts, List.mem_singleton] at h
                subst h
                exact length_lt_of_unionShape hbar hshape
            | plain type => simp [hshape, Shape.parts] at h
            | sequence item =>
                unfold unionShape at hshape
                simp only at hshape
                split at hshape
                · split at hshape <;> simp at hshape
                · simp at hshape
            | mapping key value =>
                unfold unionShape at hshape
                simp only at hshape
                split at hshape
                · split at hshape <;> simp at hshape
                · simp at hshape
          · simp [Shape.parts] at h

/-- The type that a hint stands for. -/
def toType (s : List Char) : TargetType :=
  match _h : shape s with
  | .plain type => type
  | .sequence item => .sequence (toType item)
  | .mapping key value => .mapping (toType key) (toType value)
  | .optional inner => .optional (toType inner)
termination_by s.length
decreasing_by
  all_goals exact length_lt_of_mem_parts (by simp [_h, Shape.parts])

end Workgraph.Codegen.TypeHint
