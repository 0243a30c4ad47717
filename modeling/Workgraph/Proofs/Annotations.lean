import Workgraph.Codegen.Program
import Workgraph.Proofs.Lines

/-!
# Annotations

Hints that follow a grammar of words, lists, optional types and dictionaries. The mapping takes a hint apart by its
first word, its outermost brackets and the commas or bars between, and does not look at how deep these stand. So
a dictionary keeps the types of its key and value only if both are free of dictionaries, and `T | None` is
optional only if `T` is a word.
-/

namespace Workgraph

namespace Text

theorem dropWhile_append_of_head {p : Char → Bool} {pad s : List Char} (hpad : ∀ c ∈ pad, p c = true)
    (hs : ∀ c ∈ s.head?, p c = false) : (pad ++ s).dropWhile p = s := by
  rw [List.dropWhile_append_of_pos hpad]
  cases s with
  | nil => rfl
  | cons c rest => simp [hs c rfl]

/-- A text that neither begins nor ends with a blank. -/
def IsTrim (blank : Char → Bool) (s : List Char) : Prop :=
  (∀ c ∈ s.head?, blank c = false) ∧ ∀ c ∈ s.getLast?, blank c = false

theorem trim_padded {blank : Char → Bool} {s : List Char} (hs : IsTrim blank s) (pad pad' : List Char)
    (hpad : ∀ c ∈ pad, blank c = true) (hpad' : ∀ c ∈ pad', blank c = true) :
    trim blank (pad ++ (s ++ pad')) = s := by
  cases s with
  | nil =>
      have hall : ∀ c ∈ pad ++ ([] ++ pad'), blank c = true := by
        intro c hc
        exact (List.mem_append.1 hc).elim (hpad c) (hpad' c)
      have hnone := dropWhile_append_of_head (s := []) hall nofun
      rw [List.append_nil] at hnone
      rw [trim, hnone]
      rfl
  | cons c rest =>
      have hfront : (pad ++ (c :: rest ++ pad')).dropWhile blank = c :: rest ++ pad' :=
        dropWhile_append_of_head hpad hs.1
      have hback : (pad'.reverse ++ (c :: rest).reverse).dropWhile blank = (c :: rest).reverse := by
        refine dropWhile_append_of_head (fun d hd => hpad' d (List.mem_reverse.1 hd)) ?_
        rw [List.head?_reverse]
        exact hs.2
      rw [trim, hfront, List.reverse_append, hback, List.reverse_reverse]

private theorem length_splitAt (mark : Char) (s : List Char) :
    (splitAt mark s).length = s.count mark + 1 := by
  unfold splitAt
  induction s with
  | nil => rfl
  | cons c rest ih =>
      unfold splitWhere
      split
      · rename_i h
        simp [ih, List.count_cons, h]
      · rename_i h
        cases hsplit : splitWhere (· == mark) rest with
        | nil => simp [hsplit] at ih
        | cons piece pieces => simpa [hsplit, List.count_cons, h] using ih

end Text

namespace Codegen

namespace TypeHint

open Text (IsTrim)

theorem toType_eq (s : List Char) : toType s =
    match shape s with
    | .plain type => type
    | .sequence item => .sequence (toType item)
    | .mapping key value => .mapping (toType key) (toType value)
    | .optional inner => .optional (toType inner) := by
  rw [toType]
  split <;> rename_i h <;> rw [h]

private theorem toType_congr {s t : List Char} (h : shape s = shape t) : toType s = toType t := by
  rw [toType_eq s, toType_eq t, h]

theorem parameter?_brackets {lead tail : List Char} (hlead : '[' ∉ lead) (htail : ']' ∉ tail)
    (inner : List Char) : parameter? (lead ++ '[' :: (inner ++ ']' :: tail)) = some inner := by
  have hopen : (lead ++ '[' :: (inner ++ ']' :: tail)).dropWhile (· != '[') =
      '[' :: (inner ++ ']' :: tail) := by
    apply Text.dropWhile_append_of_head
    · intro c hc
      exact bne_iff_ne.2 (ne_of_mem_of_not_mem hc hlead)
    · simp
  have hclose : (tail.reverse ++ ']' :: inner.reverse).dropWhile (· != ']') = ']' :: inner.reverse := by
    apply Text.dropWhile_append_of_head
    · intro c hc
      exact bne_iff_ne.2 (ne_of_mem_of_not_mem (List.mem_reverse.1 hc) htail)
    · simp
  simp [parameter?, hopen, hclose]

theorem lookup_simpleTypes_of_mem {c : Char} (hc : c = '[' ∨ c = ' ') {s : List Char} (h : c ∈ s) :
    simpleTypes.lookup (String.ofList s) = none := by
  have hfree : ∀ entry ∈ simpleTypes, '[' ∉ entry.1.toList ∧ ' ' ∉ entry.1.toList := by
    simp [simpleTypes]
  rw [List.lookup_eq_none_iff]
  intro entry hentry
  rw [bne_iff_ne]
  intro heq
  have hmem : c ∈ entry.1.toList := by
    rw [← heq, String.toList_ofList]
    exact h
  obtain rfl | rfl := hc
  · exact (hfree entry hentry).1 hmem
  · exact (hfree entry hentry).2 hmem

def bracketed (name : String) (inner : List Char) : List Char :=
  name.toList ++ '[' :: (inner ++ [']'])

section Brackets

variable {tail : List Char}

private theorem bracketed_append (name : String) (inner tail : List Char) :
    bracketed name inner ++ tail = name.toList ++ '[' :: (inner ++ ']' :: tail) := by
  simp [bracketed]

theorem parameter?_bracketed (name : String) (hname : '[' ∉ name.toList) (htail : ']' ∉ tail)
    (inner : List Char) : parameter? (bracketed name inner ++ tail) = some inner := by
  rw [bracketed_append]
  exact parameter?_brackets hname htail inner

theorem lookup_simpleTypes_bracketed (name : String) (inner tail : List Char) :
    simpleTypes.lookup (String.ofList (bracketed name inner ++ tail)) = none :=
  lookup_simpleTypes_of_mem (.inl rfl) (by simp [bracketed])

/-- What comes after the last bracket does not matter. -/
theorem shape_list {name : String} (hname : name = "list" ∨ name = "List") (htail : ']' ∉ tail)
    (inner : List Char) : shape (bracketed name inner ++ tail) = .sequence inner := by
  have hopen : '[' ∉ name.toList := by
    obtain rfl | rfl := hname <;> simp
  have hlist : startsWith ["list[", "List["] (bracketed name inner ++ tail) = true := by
    obtain rfl | rfl := hname <;> simp [startsWith, bracketed]
  simp only [shape, lookup_simpleTypes_bracketed, hlist, if_true, parameter?_bracketed name hopen htail]

theorem shape_optional (htail : ']' ∉ tail) (inner : List Char) :
    shape (bracketed "Optional" inner ++ tail) = .optional inner := by
  have hlist : startsWith ["list[", "List["] (bracketed "Optional" inner ++ tail) = false := by
    simp [startsWith, bracketed, List.isPrefixOf]
  have hdict : startsWith ["dict[", "Dict["] (bracketed "Optional" inner ++ tail) = false := by
    simp [startsWith, bracketed, List.isPrefixOf]
  have hoptional : startsWith ["Optional["] (bracketed "Optional" inner ++ tail) = true := by
    simp [startsWith, bracketed]
  simp only [shape, lookup_simpleTypes_bracketed, hlist, hdict, hoptional, if_true,
    parameter?_bracketed "Optional" (by simp) htail, Bool.false_eq_true, if_false]

theorem shape_dict {name : String} (hname : name = "dict" ∨ name = "Dict") (htail : ']' ∉ tail)
    (inner : List Char) : shape (bracketed name inner ++ tail) =
      match pieces ',' inner with
      | [key, value] => .mapping key value
      | _ => .plain (.mapping .text .json) := by
  have hopen : '[' ∉ name.toList := by
    obtain rfl | rfl := hname <;> simp
  have hlist : startsWith ["list[", "List["] (bracketed name inner ++ tail) = false := by
    obtain rfl | rfl := hname <;> simp [startsWith, bracketed, List.isPrefixOf]
  have hdict : startsWith ["dict[", "Dict["] (bracketed name inner ++ tail) = true := by
    obtain rfl | rfl := hname <;> simp [startsWith, bracketed]
  simp only [shape, lookup_simpleTypes_bracketed, hlist, hdict, if_true, Bool.false_eq_true, if_false,
    mappingShape, parameter?_bracketed name hopen htail, Option.map_some]
  split <;> simp_all

theorem toType_of_list {name : String} (hname : name = "list" ∨ name = "List") (inner : List Char) :
    toType (bracketed name inner) = .sequence (toType inner) := by
  have hshape := shape_list hname List.not_mem_nil inner
  rw [List.append_nil] at hshape
  rw [toType_eq, hshape]

theorem toType_of_optional (inner : List Char) :
    toType (bracketed "Optional" inner) = .optional (toType inner) := by
  have hshape := shape_optional List.not_mem_nil inner
  rw [List.append_nil] at hshape
  rw [toType_eq, hshape]

end Brackets

private theorem length_pieces (mark : Char) (s : List Char) :
    (pieces mark s).length = s.count mark + 1 := by
  rw [pieces, List.length_map, Text.length_splitAt]

section Dictionaries

variable {name : String} {s : List Char}

theorem toType_of_dict (hname : name = "dict" ∨ name = "Dict") {key value : List Char}
    (h : pieces ',' s = [key, value]) :
    toType (bracketed name s) = .mapping (toType key) (toType value) := by
  have hshape := shape_dict hname List.not_mem_nil s
  rw [List.append_nil, h] at hshape
  rw [toType_eq, hshape]

theorem toType_of_dict_open (hname : name = "dict" ∨ name = "Dict") (h : s.count ',' ≠ 1) :
    toType (bracketed name s) = .mapping .text .json := by
  have hshape := shape_dict hname List.not_mem_nil s
  have hlength := length_pieces ',' s
  rw [List.append_nil] at hshape
  split at hshape
  · rename_i hpieces
    simp only [hpieces, List.length_cons, List.length_nil] at hlength
    omega
  · rw [toType_eq, hshape]

end Dictionaries

theorem pieces_pair {mark : Char} {s t : List Char} (hmark : Text.isWhite mark = false)
    (hs : mark ∉ s) (ht : mark ∉ t) (hstrim : IsTrim Text.isWhite s) (httrim : IsTrim Text.isWhite t)
    (pad : List Char) (hpad : ∀ c ∈ pad, Text.isWhite c = true) :
    pieces mark (s ++ (pad ++ mark :: ' ' :: t)) = [s, t] := by
  have hblank {c : Char} (hc : Text.isWhite c = true) : mark ≠ c := by
    rintro rfl
    rw [hmark] at hc
    cases hc
  have hfirst : mark ∉ s ++ pad := by
    rw [List.mem_append, not_or]
    exact ⟨hs, fun hc => hblank (hpad mark hc) rfl⟩
  have hsecond : mark ∉ ' ' :: t := by
    rw [List.mem_cons, not_or]
    exact ⟨hblank rfl, ht⟩
  have hsplit : Text.splitAt mark (s ++ (pad ++ mark :: ' ' :: t)) = [s ++ pad, ' ' :: t] := by
    rw [← List.append_assoc, Text.splitAt_append, Text.splitAt_of_not_mem hfirst,
      Text.splitAt_of_not_mem hsecond]
    rfl
  have hone : Text.trim Text.isWhite (s ++ pad) = s :=
    Text.trim_padded hstrim [] pad nofun hpad
  have htwo : Text.trim Text.isWhite (' ' :: t) = t := by
    simpa using Text.trim_padded httrim [' '] [] (by simp [Text.isWhite]) nofun
  rw [pieces, hsplit, List.map_cons, List.map_cons, hone, htwo, List.map_nil]

def either (s t : List Char) : List Char := s ++ ' ' :: '|' :: ' ' :: t

theorem startsWith_either {s : List Char} (hs : '[' ∉ s) (t : List Char) (names : List String)
    (hnames : ∀ name ∈ names, '[' ∈ name.toList ∧ ' ' ∉ name.toList) :
    startsWith names (either s t) = false := by
  rw [startsWith, List.any_eq_false]
  intro name hname
  rw [List.isPrefixOf_iff_prefix]
  intro hprefix
  obtain ⟨hopen, hblank⟩ := hnames name hname
  have hhead : s ++ [' '] <+: either s t := ⟨'|' :: ' ' :: t, by simp [either]⟩
  obtain hshort | hlong := List.prefix_or_prefix_of_prefix hprefix hhead
  · obtain hmem | hmem := List.mem_append.1 (hshort.subset hopen)
    · exact hs hmem
    · simp at hmem
  · exact hblank (hlong.subset (by simp))

private theorem shape_either {s t : List Char} (hopen : '[' ∉ s) (hs : '|' ∉ s) (ht : '|' ∉ t)
    (hstrim : IsTrim Text.isWhite s) (httrim : IsTrim Text.isWhite t) :
    shape (either s t) =
      if isNone s then (if isNone t then .plain .json else .optional t)
      else if isNone t then .optional s else .plain .json := by
  have hsimple : simpleTypes.lookup (String.ofList (either s t)) = none :=
    lookup_simpleTypes_of_mem (.inr rfl) (by simp [either])
  have hbar : (either s t).contains '|' = true := by simp [either]
  have hpieces : pieces '|' (either s t) = [s, t] :=
    pieces_pair rfl hs ht hstrim httrim [' '] (by simp [Text.isWhite])
  simp only [shape, hsimple, startsWith_either hopen t ["list[", "List["] (by simp),
    startsWith_either hopen t ["dict[", "Dict["] (by simp),
    startsWith_either hopen t ["Optional["] (by simp), Bool.false_eq_true, if_false, hbar, if_true,
    unionShape, hpieces]
  cases hnone : isNone s <;> cases hnone' : isNone t <;> simp [hnone, hnone']

end TypeHint

open TypeHint Text

/-- A character that cannot stand in a word. -/
def isMark (c : Char) : Bool :=
  c == '[' || c == ']' || c == ',' || c == '|' || isWhite c

/-- A name without marks. -/
structure Word where
  chars : List Char
  unmarked : ∀ c ∈ chars, isMark c = false

/-- A hint of the grammar. -/
inductive Annotation where
  | word (name : Word)
  | list (item : Annotation)
  | optional (inner : Annotation)
  | dict (key value : Annotation)

theorem Word.not_mem (name : Word) {c : Char} (hc : isMark c = true) : c ∉ name.chars := by
  intro hmem
  rw [name.unmarked c hmem] at hc
  cases hc

theorem Word.isTrim (name : Word) : IsTrim isWhite name.chars := by
  have hblank : ∀ c ∈ name.chars, isWhite c = false := by
    intro c hc
    have hmark := name.unmarked c hc
    simp only [isMark, Bool.or_eq_false_iff] at hmark
    exact hmark.2
  exact ⟨fun c hc => hblank c (List.mem_of_head? hc), fun c hc => hblank c (List.mem_of_getLast? hc)⟩

namespace Annotation

def text : Annotation → List Char
  | .word name => name.chars
  | .list item => bracketed "list" item.text
  | .optional inner => bracketed "Optional" inner.text
  | .dict key value => bracketed "dict" (key.text ++ ',' :: ' ' :: value.text)

def dictionaries : Annotation → Nat
  | .word _ => 0
  | .list item => item.dictionaries
  | .optional inner => inner.dictionaries
  | .dict key value => key.dictionaries + value.dictionaries + 1

private theorem bar_not_mem_text (a : Annotation) : '|' ∉ a.text := by
  induction a with
  | word name => exact name.not_mem rfl
  | list item ih => simpa [text, bracketed] using ih
  | optional inner ih => simpa [text, bracketed] using ih
  | dict key value ihk ihv => simpa [text, bracketed] using ⟨ihk, ihv⟩

theorem count_comma_text (a : Annotation) : a.text.count ',' = a.dictionaries := by
  induction a with
  | word name => exact List.count_eq_zero.2 (name.not_mem rfl)
  | list item ih => simpa [text, bracketed, dictionaries, List.count_cons] using ih
  | optional inner ih => simpa [text, bracketed, dictionaries, List.count_cons] using ih
  | dict key value ihk ihv =>
      simp only [text, bracketed, dictionaries, List.count_append, List.count_cons, ihk, ihv]
      simp
      omega

theorem isTrim_bracketed {name : String} (hname : ∀ c ∈ name.toList.head?, isWhite c = false)
    (inner : List Char) : IsTrim isWhite (bracketed name inner) := by
  constructor
  · intro c hc
    rw [bracketed, List.head?_append] at hc
    cases hhead : name.toList.head? with
    | none =>
        rw [hhead] at hc
        cases hc
        rfl
    | some d =>
        rw [hhead] at hc
        cases hc
        exact hname c hhead
  · intro c hc
    have hlast : (bracketed name inner).getLast? = some ']' := by
      rw [bracketed, ← List.cons_append, ← List.append_assoc, List.getLast?_concat]
    rw [hlast] at hc
    cases hc
    rfl

theorem isTrim_text (a : Annotation) : IsTrim isWhite a.text := by
  cases a with
  | word name => exact name.isTrim
  | list item => exact isTrim_bracketed (by simp [isWhite]) _
  | optional inner => exact isTrim_bracketed (by simp [isWhite]) _
  | dict key value => exact isTrim_bracketed (by simp [isWhite]) _

theorem toType_list (item : Annotation) :
    toType (list item).text = .sequence (toType item.text) :=
  toType_of_list (.inl rfl) item.text

theorem toType_optional (inner : Annotation) :
    toType (optional inner).text = .optional (toType inner.text) :=
  toType_of_optional inner.text

private theorem pieces_dict {key value : Annotation} (hkey : key.dictionaries = 0)
    (hvalue : value.dictionaries = 0) :
    pieces ',' (key.text ++ ',' :: ' ' :: value.text) = [key.text, value.text] := by
  rw [← count_comma_text, List.count_eq_zero] at hkey hvalue
  exact pieces_pair rfl hkey hvalue key.isTrim_text value.isTrim_text [] nofun

private theorem count_comma_dict (key value : Annotation) :
    (key.text ++ ',' :: ' ' :: value.text).count ',' = key.dictionaries + value.dictionaries + 1 := by
  rw [List.count_append, List.count_cons_self, List.count_cons_of_ne (by decide), count_comma_text,
    count_comma_text]
  omega

/-- Every comma counts, also one within the key or the value. -/
theorem toType_dict (key value : Annotation) : toType (dict key value).text =
    if key.dictionaries = 0 ∧ value.dictionaries = 0 then
      .mapping (toType key.text) (toType value.text)
    else .mapping .text .json := by
  by_cases h : key.dictionaries = 0 ∧ value.dictionaries = 0
  · rw [if_pos h]
    exact toType_of_dict (.inl rfl) (pieces_dict h.1 h.2)
  · rw [if_neg h]
    apply toType_of_dict_open (.inl rfl)
    rw [count_comma_dict]
    omega

theorem dictionaries_eq_zero_of_toType {a : Annotation}
    (h : toType a.text = .text ∨ toType a.text = .json) : a.dictionaries = 0 := by
  cases a with
  | word name => rfl
  | list item => simp [toType_list] at h
  | optional inner => simp [toType_optional] at h
  | dict key value =>
      rw [toType_dict] at h
      split at h <;> simp at h

/-- A dictionary keeps the types of its key and its value exactly when no dictionary stands in them. -/
theorem toType_dict_eq_mapping_iff (key value : Annotation) :
    toType (dict key value).text = .mapping (toType key.text) (toType value.text) ↔
      key.dictionaries = 0 ∧ value.dictionaries = 0 := by
  rw [toType_dict]
  constructor
  · intro h
    split at h
    · assumption
    · obtain ⟨hkey, hvalue⟩ := TargetType.mapping.inj h
      exact ⟨dictionaries_eq_zero_of_toType (.inl hkey.symm),
        dictionaries_eq_zero_of_toType (.inr hvalue.symm)⟩
  · intro h
    rw [if_pos h]

def str : Annotation := .word ⟨"str".toList, by simp [isMark, isWhite]⟩

def int : Annotation := .word ⟨"int".toList, by simp [isMark, isWhite]⟩

def user : Annotation := .word ⟨"User".toList, by simp [isMark, isWhite]⟩

/-- The type of a dictionary in a dictionary is lost. -/
theorem toType_dict_of_dict :
    toType (dict str (dict str int)).text = .mapping .text .json ∧
      toType (dict str (dict str int)).text ≠
        .mapping (toType str.text) (toType (dict str int).text) := by
  have hlost : toType (dict str (dict str int)).text =
      .mapping .text .json := toType_dict _ _
  refine ⟨hlost, ?_⟩
  rw [hlost, toType_dict str int]
  intro h
  cases (TargetType.mapping.inj h).2

def isWord : Annotation → Bool
  | .word _ => true
  | _ => false

private theorem shape_append {a : Annotation} (ha : a.isWord = false) {tail : List Char} (htail : ']' ∉ tail) :
    shape (a.text ++ tail) = shape a.text := by
  have hnil : ']' ∉ ([] : List Char) := List.not_mem_nil
  rw [← List.append_nil a.text, List.append_assoc, List.nil_append]
  cases a with
  | word name => cases ha
  | list item => rw [text, shape_list (.inl rfl) htail, shape_list (.inl rfl) hnil]
  | optional inner => rw [text, shape_optional htail, shape_optional hnil]
  | dict key value => rw [text, shape_dict (.inl rfl) htail, shape_dict (.inl rfl) hnil]

theorem isNone_of_isWord {a : Annotation} (ha : a.isWord = false) : isNone a.text = false := by
  have hopen : '[' ∈ a.text := by
    cases a with
    | word name => cases ha
    | list item => simp [text, bracketed]
    | optional inner => simp [text, bracketed]
    | dict key value => simp [text, bracketed]
  rw [isNone, Bool.or_eq_false_iff, beq_eq_false_iff_ne, beq_eq_false_iff_ne]
  constructor
  · intro h
    rw [h] at hopen
    simp at hopen
  · intro h
    rw [h] at hopen
    simp at hopen

private theorem toType_of_isNone {s : List Char} (h : isNone s = true) : toType s = .unit := by
  have hsimple : simpleTypes.lookup (String.ofList s) = some .unit := by
    rw [isNone, Bool.or_eq_true, beq_iff_eq, beq_iff_eq] at h
    obtain rfl | rfl := h
    · rw [String.ofList_toList]
      rfl
    · rw [String.ofList_toList]
      rfl
  rw [toType_eq, shape, hsimple]

theorem toType_either (name : Word) (a : Annotation) : toType (either name.chars a.text) =
    if isNone name.chars then (if isNone a.text then .json else .optional (toType a.text))
    else if isNone a.text then .optional (toType name.chars) else .json := by
  rw [toType_eq, shape_either (name.not_mem rfl) (name.not_mem rfl) a.bar_not_mem_text name.isTrim
    a.isTrim_text]
  cases isNone name.chars <;> cases isNone a.text <;> rfl

def absent : Word := ⟨"None".toList, by simp [isMark, isWhite]⟩

theorem isNone_absent : isNone absent.chars = true := by
  simp [isNone, absent]

private theorem toType_absent_either (a : Annotation) : toType (either absent.chars a.text) =
    if isNone a.text then .json else .optional (toType a.text) := by
  rw [toType_either, isNone_absent, if_pos rfl]

/-- Only a word can be seen to have the absent value as its alternative when it comes first. -/
theorem toType_either_absent (a : Annotation) : toType (either a.text absent.chars) =
    if a.isWord then (if isNone a.text then .json else .optional (toType a.text))
    else toType a.text := by
  cases hword : a.isWord with
  | true =>
      cases a with
      | word name =>
          have htype := toType_either name (.word absent)
          rw [text, isNone_absent, if_pos rfl, if_pos rfl] at htype
          rw [text, htype, if_pos rfl]
      | _ => cases hword
  | false => exact toType_congr (shape_append hword (by simp [absent]))

/-- The line that declares a field, by the characters of its hint. -/
def fieldLine (name : String) (s : List Char) (optional : Bool) : String :=
  (FieldSpec.mk name (String.ofList s) optional).line

/-- A type as it is declared, with the mark of a field that may be absent. -/
def declared (type : TargetType) (optional : Bool) : String :=
  if optional && !type.isOptional then "Option<" ++ type.code ++ ">" else type.code

theorem fieldLine_eq (name : String) (s : List Char) (b : Bool) :
    fieldLine name s b = "    pub " ++ name ++ ": " ++ declared (toType s) b := by
  simp only [fieldLine, FieldSpec.line, FieldSpec.type, String.toList_ofList, declared]

private theorem fieldLine_eq_iff {name : String} {s t : List Char} {b c : Bool} :
    fieldLine name s b = fieldLine name t c ↔ declared (toType s) b = declared (toType t) c := by
  rw [fieldLine_eq, fieldLine_eq, String.append_right_inj]

theorem declared_of_optional (type : TargetType) (b : Bool) :
    declared (.optional type) b = "Option<" ++ type.code ++ ">" := by
  simp [declared, TargetType.isOptional, TargetType.code]

private theorem code_ne_option (type : TargetType) : type.code ≠ "Option<" ++ type.code ++ ">" := by
  intro h
  have hlength := congrArg String.length h
  have hmark : "Option<".length = 7 := rfl
  rw [String.length_append, String.length_append, hmark] at hlength
  omega

theorem declared_alternative_iff {s : List Char} (b : Bool) :
    declared (if isNone s then .json else .optional (toType s)) b =
      "Option<" ++ (toType s).code ++ ">" ↔ isNone s = false := by
  cases hnone : isNone s with
  | false => simp [declared_of_optional]
  | true =>
      rw [toType_of_isNone hnone]
      cases b <;> simp [declared, TargetType.isOptional, TargetType.code]

/-- A field that may be absent is declared as such by `Optional[T]`, by `None | T` unless `T` is the absent value
itself, and by `T | None` if besides `T` is a word or the field is marked. -/
theorem nullable_fieldLine_iff {a : Annotation} (ha : (toType a.text).isOptional = false)
    (name : String) (b : Bool) :
    fieldLine name (optional a).text b = fieldLine name a.text true ∧
      (fieldLine name (either absent.chars a.text) b = fieldLine name a.text true ↔
        isNone a.text = false) ∧
      (fieldLine name (either a.text absent.chars) b = fieldLine name a.text true ↔
        isNone a.text = false ∧ (a.isWord = true ∨ b = true)) := by
  have hplain : declared (toType a.text) true = "Option<" ++ (toType a.text).code ++ ">" := by
    simp [declared, ha]
  simp only [fieldLine_eq_iff, hplain]
  refine ⟨?_, ?_, ?_⟩
  · rw [toType_optional, declared_of_optional]
  · rw [toType_absent_either, declared_alternative_iff]
  · rw [toType_either_absent]
    cases hword : a.isWord with
    | true => simp [declared_alternative_iff]
    | false =>
        cases b with
        | true => simp [hplain, isNone_of_isWord hword]
        | false => simp [declared, code_ne_option]

def teams : Annotation := dict str (list user)

theorem nullable_fieldLine_teams :
    (toType teams.text).isOptional = false ∧
      fieldLine "teams" (optional teams).text false = fieldLine "teams" teams.text true ∧
      fieldLine "teams" (either absent.chars teams.text) false = fieldLine "teams" teams.text true ∧
      fieldLine "teams" (either teams.text absent.chars) false ≠ fieldLine "teams" teams.text true := by
  have hplain : (toType teams.text).isOptional = false := by
    rw [teams, toType_dict, if_pos (by decide)]
    rfl
  obtain ⟨hoptional, hfirst, hlast⟩ := nullable_fieldLine_iff hplain "teams" false
  refine ⟨hplain, hoptional, hfirst.2 (isNone_of_isWord rfl), fun h => ?_⟩
  cases (hlast.1 h).2 <;> contradiction

/-- A list that may be absent is declared as one that may not. -/
theorem fieldLine_list_or_absent :
    fieldLine "items" (either (list int).text absent.chars) false = "    pub items: Vec<i64>" ∧
      fieldLine "items" (list int).text true = "    pub items: Option<Vec<i64>>" := by
  have hint : toType int.text = .int64 := by
    rw [toType_eq]
    rfl
  have hlist : toType (list int).text = .sequence .int64 := by
    rw [toType_list, hint]
  have hlost : toType (either (list int).text absent.chars) = .sequence .int64 := by
    rw [toType_either_absent]
    exact hlist
  rw [fieldLine_eq, fieldLine_eq, hlist, hlost]
  exact ⟨rfl, rfl⟩

end Annotation

end Codegen

end Workgraph
