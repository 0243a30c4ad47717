import Workgraph.Codegen.TypeMapper
import Workgraph.Proofs.Annotations

/-!
# Hints in brackets

A name with brackets around any text, which need not be a hint itself. The first opening and the last closing
bracket are those of the name, so the text between them comes out as it is, whatever brackets, bars and commas
it holds. A type mapper looks a hint up as a whole and does not look into the brackets.
-/

namespace Workgraph

namespace Text

def beforeMark (mark : Char) (s : List Char) : List Char := s.takeWhile (· != mark)

def afterMark (mark : Char) (s : List Char) : List Char := (s.dropWhile (· != mark)).tail

variable {mark : Char} {s : List Char}

private theorem not_mem_beforeMark : mark ∉ beforeMark mark s := by
  intro h
  have hne := List.all_eq_true.1 List.all_takeWhile mark h
  simp at hne

private theorem beforeMark_append_afterMark (h : mark ∈ s) :
    beforeMark mark s ++ mark :: afterMark mark s = s := by
  induction s with
  | nil => cases h
  | cons c rest ih =>
      by_cases hc : c = mark
      · subst hc
        simp [beforeMark, afterMark]
      · have hrest : mark ∈ rest := (List.mem_cons.1 h).resolve_left (Ne.symm hc)
        have hne : (c != mark) = true := bne_iff_ne.2 hc
        simpa [beforeMark, afterMark, hne] using ih hrest

private theorem splitAt_of_count_eq_one (h : s.count mark = 1) :
    splitAt mark s = [beforeMark mark s, afterMark mark s] := by
  have hmem : mark ∈ s := List.count_pos_iff.1 (by omega)
  have hwhole := beforeMark_append_afterMark hmem
  have hafter : mark ∉ afterMark mark s := by
    rw [← List.count_eq_zero]
    have hcount := congrArg (List.count mark) hwhole
    rw [List.count_append, List.count_cons_self, h] at hcount
    omega
  have hsplit := splitAt_append mark (beforeMark mark s) (afterMark mark s)
  rw [hwhole, splitAt_of_not_mem not_mem_beforeMark, splitAt_of_not_mem hafter] at hsplit
  exact hsplit

end Text

namespace Codegen

namespace TypeHint

open Text

/-- The type of a dictionary by the text in its brackets, which has to have exactly one comma. -/
def dictType (s : List Char) : TargetType :=
  if s.count ',' = 1 then
    .mapping (toType (trim isWhite (beforeMark ',' s))) (toType (trim isWhite (afterMark ',' s)))
  else .mapping .text .json

theorem toType_eq_dictType {name : String} (hname : name = "dict" ∨ name = "Dict") (s : List Char) :
    toType (bracketed name s) = dictType s := by
  by_cases h : s.count ',' = 1
  · have hpieces : pieces ',' s =
        [trim isWhite (beforeMark ',' s), trim isWhite (afterMark ',' s)] := by
      rw [pieces, splitAt_of_count_eq_one h]
      rfl
    rw [dictType, if_pos h]
    exact toType_of_dict hname hpieces
  · rw [dictType, if_neg h]
    exact toType_of_dict_open hname h

/-- A name that stands around one hint, in its two spellings for lists. -/
inductive Wrapper where
  | list
  | capitalList
  | optional
  deriving DecidableEq, Repr

namespace Wrapper

def name : Wrapper → String
  | .list => "list"
  | .capitalList => "List"
  | .optional => "Optional"

def type : Wrapper → TargetType → TargetType
  | .list | .capitalList => .sequence
  | .optional => .optional

private theorem toType_bracketed (wrapper : Wrapper) (s : List Char) :
    toType (bracketed wrapper.name s) = wrapper.type (toType s) := by
  cases wrapper with
  | list => exact toType_of_list (.inl rfl) s
  | capitalList => exact toType_of_list (.inr rfl) s
  | optional => exact toType_of_optional s

/-- A text within a tower of names, the first of which is the outermost. -/
def tower (wrappers : List Wrapper) (s : List Char) : List Char :=
  wrappers.foldr (fun wrapper inner => bracketed wrapper.name inner) s

def towerType (wrappers : List Wrapper) (inner : TargetType) : TargetType :=
  wrappers.foldr Wrapper.type inner

private theorem toType_tower (wrappers : List Wrapper) (s : List Char) :
    toType (tower wrappers s) = towerType wrappers (toType s) := by
  induction wrappers with
  | nil => rfl
  | cons wrapper wrappers ih =>
      rw [tower, towerType, List.foldr_cons, List.foldr_cons, toType_bracketed]
      exact congrArg wrapper.type ih

end Wrapper

/-- Whatever text stands in the brackets: its type is that of the item of a list or of the value that may be
absent, also under a tower of such names, and a dictionary has the types of the two texts around its comma. -/
theorem toType_in_brackets (s : List Char) (wrappers : List Wrapper) :
    toType (bracketed "list" s) = .sequence (toType s) ∧
      toType (bracketed "List" s) = .sequence (toType s) ∧
      toType (bracketed "Optional" s) = .optional (toType s) ∧
      toType (bracketed "dict" s) = dictType s ∧
      toType (bracketed "Dict" s) = dictType s ∧
      toType (Wrapper.tower wrappers s) = Wrapper.towerType wrappers (toType s) := by
  refine ⟨?_, ?_, ?_, ?_, ?_, ?_⟩
  · exact toType_of_list (.inl rfl) s
  · exact toType_of_list (.inr rfl) s
  · exact toType_of_optional s
  · exact toType_eq_dictType (.inl rfl) s
  · exact toType_eq_dictType (.inr rfl) s
  · exact Wrapper.toType_tower wrappers s

end TypeHint

namespace TypeMapper

open TypeHint

/-- The mapper after some hints were given types, in this order. -/
def ofHistory (history : List (String × TargetType)) : TypeMapper :=
  history.foldl (fun mapper entry => mapper.add entry.1 entry.2) {}

def registered (history : List (String × TargetType)) : List String := history.map Prod.fst

/-- The type that a hint was given last. -/
def IsLatest (history : List (String × TargetType)) (hint : String) (type : TargetType) : Prop :=
  ∃ earlier later, history = earlier ++ (hint, type) :: later ∧ hint ∉ registered later

variable {history : List (String × TargetType)} {hint : String}

private theorem custom_foldl_add (mapper : TypeMapper) (history : List (String × TargetType)) :
    (history.foldl (fun mapper entry => mapper.add entry.1 entry.2) mapper).custom =
      history.reverse ++ mapper.custom := by
  induction history generalizing mapper with
  | nil => rfl
  | cons entry history ih =>
      rw [List.foldl_cons, ih]
      simp [add]

theorem custom_ofHistory (history : List (String × TargetType)) :
    (ofHistory history).custom = history.reverse := by
  rw [ofHistory, custom_foldl_add, List.append_nil]

private theorem lookup_ofHistory_eq_none (h : hint ∉ registered history) :
    (ofHistory history).custom.lookup hint = none := by
  rw [custom_ofHistory, List.lookup_eq_none_iff]
  intro entry hentry
  rw [bne_iff_ne]
  rintro rfl
  exact h (List.mem_map_of_mem (List.mem_reverse.1 hentry))

private theorem IsLatest.lookup_eq {type : TargetType} (h : IsLatest history hint type) :
    (ofHistory history).custom.lookup hint = some type := by
  obtain ⟨earlier, later, rfl, hlater⟩ := h
  rw [custom_ofHistory, List.lookup_eq_some_iff]
  refine ⟨later.reverse, earlier.reverse, by simp, ?_⟩
  intro entry hentry
  rw [bne_iff_ne]
  rintro rfl
  exact hlater (List.mem_map_of_mem (List.mem_reverse.1 hentry))

private theorem exists_isLatest (h : hint ∈ registered history) : ∃ type, IsLatest history hint type := by
  induction history with
  | nil => cases h
  | cons entry history ih =>
      by_cases hlater : hint ∈ registered history
      · obtain ⟨type, earlier, later, rfl, hnot⟩ := ih hlater
        exact ⟨type, entry :: earlier, later, rfl, hnot⟩
      · obtain rfl : hint = entry.1 := (List.mem_cons.1 h).resolve_right hlater
        exact ⟨entry.2, [], history, rfl, hlater⟩

theorem map_of_unregistered (h : hint ∉ registered history) :
    (ofHistory history).map hint = toType hint.toList := by
  rw [map, lookup_ofHistory_eq_none h]

theorem IsLatest.map_eq {type : TargetType} (h : IsLatest history hint type) :
    (ofHistory history).map hint = type := by
  rw [map, h.lookup_eq]

theorem map_eq_toType_iff : (ofHistory history).map hint = toType hint.toList ↔
    ∀ type, IsLatest history hint type → type = toType hint.toList := by
  constructor
  · intro h type hlatest
    rw [← h, hlatest.map_eq]
  · intro h
    by_cases hmem : hint ∈ registered history
    · obtain ⟨type, hlatest⟩ := exists_isLatest hmem
      rw [hlatest.map_eq, h type hlatest]
    · exact map_of_unregistered hmem

private theorem toList_list (s : String) : ("list[" ++ s ++ "]").toList = bracketed "list" s.toList := by
  simp [bracketed]

private theorem toList_optional (s : String) :
    ("Optional[" ++ s ++ "]").toList = bracketed "Optional" s.toList := by
  simp [bracketed]

/-- The types that hints were given do not reach into brackets: there the type of the shape stands, which is the
type of the hint itself exactly if the hint was last given no other. -/
theorem map_in_brackets_iff {s : String} (hlist : "list[" ++ s ++ "]" ∉ registered history)
    (hoptional : "Optional[" ++ s ++ "]" ∉ registered history) :
    (ofHistory history).map ("list[" ++ s ++ "]") = .sequence (toType s.toList) ∧
      (ofHistory history).map ("Optional[" ++ s ++ "]") = .optional (toType s.toList) ∧
      ((ofHistory history).map ("list[" ++ s ++ "]") = .sequence ((ofHistory history).map s) ↔
        ∀ type, IsLatest history s type → type = toType s.toList) ∧
      ((ofHistory history).map ("Optional[" ++ s ++ "]") = .optional ((ofHistory history).map s) ↔
        ∀ type, IsLatest history s type → type = toType s.toList) := by
  have hsequence : (ofHistory history).map ("list[" ++ s ++ "]") = .sequence (toType s.toList) := by
    rw [map_of_unregistered hlist, toList_list, toType_of_list (.inl rfl)]
  have habsent : (ofHistory history).map ("Optional[" ++ s ++ "]") = .optional (toType s.toList) := by
    rw [map_of_unregistered hoptional, toList_optional, toType_of_optional]
  refine ⟨hsequence, habsent, ?_, ?_⟩
  · rw [hsequence, TargetType.sequence.injEq, eq_comm, map_eq_toType_iff]
  · rw [habsent, TargetType.optional.injEq, eq_comm, map_eq_toType_iff]

theorem toType_userId : toType "UserId".toList = .custom "UserId" := by
  rw [toType_eq]
  rfl

def renamed : List (String × TargetType) :=
  [("UserId", .int64), ("Tag", .custom "Label"), ("UserId", .custom "UserId")]

theorem map_renamed_in_brackets :
    "list[" ++ "UserId" ++ "]" ∉ registered renamed ∧
      "Optional[" ++ "UserId" ++ "]" ∉ registered renamed ∧
      (ofHistory renamed).map ("list[" ++ "UserId" ++ "]") =
        .sequence ((ofHistory renamed).map "UserId") := by
  have hlist : "list[" ++ "UserId" ++ "]" ∉ registered renamed := by decide
  have hoptional : "Optional[" ++ "UserId" ++ "]" ∉ registered renamed := by decide
  refine ⟨hlist, hoptional, (map_in_brackets_iff hlist hoptional).2.2.1.2 ?_⟩
  intro type hlatest
  rw [toType_userId, ← hlatest.map_eq]
  rfl

def numbered : List (String × TargetType) := [("UserId", .int64)]

/-- In a list of users their number is lost. -/
theorem map_list_of_numbered :
    "list[UserId]" ∉ registered numbered ∧ "Optional[UserId]" ∉ registered numbered ∧
      (ofHistory numbered).map "UserId" = .int64 ∧
      (ofHistory numbered).map "list[UserId]" = .sequence (.custom "UserId") ∧
      (ofHistory numbered).map "list[UserId]" ≠ .sequence ((ofHistory numbered).map "UserId") := by
  have hlist : "list[UserId]" ∉ registered numbered := by decide
  have hoptional : "Optional[UserId]" ∉ registered numbered := by decide
  have hnumber : (ofHistory numbered).map "UserId" = .int64 := rfl
  have hlost : (ofHistory numbered).map "list[UserId]" = .sequence (.custom "UserId") := by
    rw [map_of_unregistered hlist, ← toType_userId]
    exact toType_of_list (.inl rfl) "UserId".toList
  refine ⟨hlist, hoptional, hnumber, hlost, ?_⟩
  rw [hlost, hnumber]
  simp

end TypeMapper

end Codegen

end Workgraph
