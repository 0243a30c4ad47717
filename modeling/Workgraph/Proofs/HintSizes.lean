import Mathlib.Data.String.Basic
import Workgraph.Proofs.Annotations
import Workgraph.Proofs.Codes

/-!
# Sizes of hints and types

The parts of a hint come out of its text without overlap, and each part leaves a character of the text
behind. So every part is shorter than the hint, and a type has hardly more parts than its hint has
characters. What stands in brackets is cut out between two places that are bounds of characters.
-/

namespace Workgraph

namespace Text

private theorem trim_sublist (blank : Char → Bool) (s : List Char) : (trim blank s).Sublist s := by
  have hback : ((s.dropWhile blank).reverse.dropWhile blank).reverse.Sublist (s.dropWhile blank) := by
    rw [← List.reverse_sublist, List.reverse_reverse]
    exact List.dropWhile_sublist blank
  exact hback.trans (List.dropWhile_sublist blank)

private theorem flatten_splitWhere_sublist (divides : Char → Bool) (s : List Char) :
    (splitWhere divides s).flatten.Sublist s := by
  induction s with
  | nil => exact List.Sublist.refl _
  | cons c rest ih =>
      unfold splitWhere
      split
      · exact ih.cons c
      · obtain ⟨first, pieces, hsplit⟩ := List.exists_cons_of_ne_nil (splitWhere_ne_nil divides rest)
        rw [hsplit] at ih ⊢
        exact ih.cons_cons c

private theorem utf8Len_add_length_le {s t : List Char} (h : s.Sublist t) :
    String.utf8Len s + t.length ≤ String.utf8Len t + s.length := by
  induction h with
  | slnil => exact Nat.le_refl _
  | cons c h ih =>
      have hsize := c.utf8Size_pos
      simp only [String.utf8Len_cons, List.length_cons]
      omega
  | cons_cons c h ih =>
      simp only [String.utf8Len_cons, List.length_cons]
      omega

theorem exists_of_dropWhile_eq_cons {c d : Char} {s rest : List Char}
    (h : s.dropWhile (· != c) = d :: rest) : ∃ lead, s = lead ++ c :: rest ∧ c ∉ lead := by
  induction s with
  | nil => cases h
  | cons e s ih =>
      by_cases he : e = c
      · subst he
        rw [List.dropWhile_cons_of_neg (by simp)] at h
        obtain ⟨-, rfl⟩ := List.cons.inj h
        exact ⟨[], rfl, List.not_mem_nil⟩
      · rw [List.dropWhile_cons_of_pos (by simpa using he)] at h
        obtain ⟨lead, rfl, hlead⟩ := ih h
        refine ⟨e :: lead, rfl, ?_⟩
        rw [List.mem_cons, not_or]
        exact ⟨Ne.symm he, hlead⟩

/-- A character stands at this offset, which counts bytes, and nowhere before it. -/
def IsFirstAt (c : Char) (s : String) (offset : Nat) : Prop :=
  ∃ lead rest, s.toList = lead ++ c :: rest ∧ c ∉ lead ∧ (String.ofList lead).utf8ByteSize = offset

/-- A character stands at this offset, which counts bytes, and nowhere behind it. -/
def IsLastAt (c : Char) (s : String) (offset : Nat) : Prop :=
  ∃ lead rest, s.toList = lead ++ c :: rest ∧ c ∉ rest ∧ (String.ofList lead).utf8ByteSize = offset

theorem isValid_of_append {s : String} {front back : List Char} (h : s.toList = front ++ back) :
    String.Pos.Raw.IsValid s ⟨String.utf8Len front⟩ := by
  rw [String.Pos.Raw.isValid_iff_exists_append]
  refine ⟨String.ofList front, String.ofList back, ?_, ?_⟩
  · rw [← String.ofList_append, ← h, String.ofList_toList]
  · rw [String.rawEndPos_ofList]

private theorem exists_between {c d : Char} (hne : c ≠ d) {s : String} {start stop : Nat}
    (hstart : IsFirstAt c s start) (hstop : IsLastAt d s stop) (hlt : start < stop) : ∃ lead inner tail,
      s.toList = lead ++ c :: (inner ++ d :: tail) ∧ c ∉ lead ∧ d ∉ tail ∧
        String.utf8Len lead = start ∧ String.utf8Len (lead ++ c :: inner) = stop := by
  obtain ⟨lead, rest, hlead, hfirst, hstart⟩ := hstart
  obtain ⟨kept, tail, hkept, hlast, hstop⟩ := hstop
  rw [String.utf8ByteSize_ofList] at hstart hstop
  rcases List.append_eq_append_iff.1 (hlead.symm.trans hkept) with ⟨between, hbetween, hrest⟩ |
    ⟨between, hbetween, -⟩
  · -- what stands before the second character begins with what stands before the first one
    cases between with
    | nil => exact absurd (List.cons.inj hrest).1 hne
    | cons e inner =>
        obtain ⟨rfl, rfl⟩ := List.cons.inj hrest
        exact ⟨lead, inner, tail, hlead, hfirst, hlast, hstart, hbetween ▸ hstop⟩
  · -- the other way round the offsets would not be in this order
    rw [hbetween, String.utf8Len_append] at hstart
    omega

end Text

namespace Codegen.TypeHint

open Text

theorem parameter?_eq_some_iff {s inner : List Char} : parameter? s = some inner ↔
    ∃ lead tail, s = lead ++ '[' :: (inner ++ ']' :: tail) ∧ '[' ∉ lead ∧ ']' ∉ tail := by
  constructor
  · intro h
    unfold parameter? at h
    split at h
    · cases h
    · rename_i hopen
      split at h
      · cases h
      · rename_i hclose
        obtain ⟨lead, rfl, hlead⟩ := exists_of_dropWhile_eq_cons hopen
        obtain ⟨tail, htail, hlast⟩ := exists_of_dropWhile_eq_cons hclose
        cases h
        refine ⟨lead, tail.reverse, ?_, hlead, mt List.mem_reverse.1 hlast⟩
        rw [List.reverse_eq_iff.1 htail]
        simp
  · rintro ⟨lead, tail, rfl, hlead, htail⟩
    exact parameter?_brackets hlead htail inner

/-- The slice behind the first opening bracket and before the last closing one is cut at bounds of characters
inside of the text, and it is the parameter. -/
theorem slice_in_range {s : String} {start stop : Nat} (hstart : IsFirstAt '[' s start)
    (hstop : IsLastAt ']' s stop) (hlt : start < stop) :
    String.Pos.Raw.IsValid s ⟨start + 1⟩ ∧ String.Pos.Raw.IsValid s ⟨stop⟩ ∧ stop ≤ s.utf8ByteSize ∧
      parameter? s.toList = some (String.Pos.Raw.extract s ⟨start + 1⟩ ⟨stop⟩).toList := by
  obtain ⟨lead, inner, tail, hs, hlead, htail, rfl, rfl⟩ := exists_between (by decide) hstart hstop hlt
  have hopen : String.utf8Len (lead ++ ['[']) = String.utf8Len lead + 1 := by
    rw [String.utf8Len_append]
    rfl
  have hclose : String.utf8Len (lead ++ '[' :: inner) = String.utf8Len lead + 1 + String.utf8Len inner := by
    rw [List.append_cons, String.utf8Len_append, hopen]
  have hwhole : s.toList = lead ++ ['['] ++ inner ++ ']' :: tail := by
    rw [hs]
    simp
  have hvalid : String.Pos.Raw.IsValid s ⟨String.utf8Len (lead ++ '[' :: inner)⟩ := by
    apply isValid_of_append
    rw [hs, ← List.cons_append, ← List.append_assoc]
  refine ⟨?_, hvalid, hvalid.le_rawEndPos, ?_⟩
  · rw [← hopen]
    apply isValid_of_append
    rw [hwhole, List.append_assoc]
  · have hextract := String.extract_of_valid (lead ++ ['[']) inner (']' :: tail)
    rw [hopen, ← hclose, ← hwhole, String.ofList_toList] at hextract
    rw [hextract, String.toList_ofList, parameter?_eq_some_iff]
    exact ⟨lead, tail, hs, hlead, htail⟩

private theorem exists_places_of_parameter? {s : String} {inner : List Char} (h : parameter? s.toList = some inner) :
    ∃ start stop, IsFirstAt '[' s start ∧ IsLastAt ']' s stop ∧ start < stop := by
  obtain ⟨lead, tail, hs, hlead, htail⟩ := parameter?_eq_some_iff.1 h
  refine ⟨_, _, ⟨lead, _, hs, hlead, rfl⟩, ⟨lead ++ '[' :: inner, tail, ?_, htail, rfl⟩, ?_⟩
  · rw [hs]
    simp
  · rw [String.utf8ByteSize_ofList, String.utf8ByteSize_ofList, String.utf8Len_append, String.utf8Len_cons]
    have hsize := Char.utf8Size_pos '['
    omega

theorem flatten_map_trim_sublist (pieces : List (List Char)) :
    (pieces.map (trim isWhite)).flatten.Sublist pieces.flatten := by
  induction pieces with
  | nil => exact List.Sublist.refl _
  | cons piece rest ih => exact (trim_sublist isWhite piece).append ih

theorem flatten_pieces_sublist (mark : Char) (s : List Char) : (pieces mark s).flatten.Sublist s :=
  (flatten_map_trim_sublist _).trans (flatten_splitWhere_sublist _ s)

private theorem length_flatten_pieces_le (mark : Char) (s : List Char) :
    (pieces mark s).flatten.length + (pieces mark s).length ≤ s.length + 1 := by
  have htrim := (flatten_map_trim_sublist (splitAt mark s)).length_le
  have hsplit := length_splitWhere (· == mark) s
  rw [← splitAt] at hsplit
  rw [pieces, List.length_map]
  omega

/-- The parts of a shape come out of a text without overlap, each of them leaves a character behind, and a
type that is found at once has hardly more parts than the text has characters. -/
structure Shape.Fits (shape : Shape) (s : List Char) : Prop where
  sublist : shape.parts.flatten.Sublist s
  length : shape.parts.flatten.length + shape.parts.length ≤ s.length
  plain : ∀ type, shape = .plain type → type.parts.length ≤ s.length + 1

theorem fits_plain {type : TargetType} {s : List Char} (h : type.parts.length ≤ s.length + 1) :
    (Shape.plain type).Fits s where
  sublist := List.nil_sublist s
  length := Nat.zero_le _
  plain := by
    rintro _ ⟨⟩
    exact h

theorem sublist_of_parameter? {s inner : List Char} (h : parameter? s = some inner) : inner.Sublist s := by
  obtain ⟨lead, tail, rfl, -, -⟩ := parameter?_eq_some_iff.1 h
  exact (((List.sublist_append_left inner _).cons '[').trans (List.sublist_append_right lead _))

theorem fits_single {shape : Shape} {part s : List Char} (hparts : shape.parts = [part])
    (hsublist : part.Sublist s) (hlength : part.length < s.length) : shape.Fits s where
  sublist := by simpa [hparts] using hsublist
  length := by simpa [hparts] using Nat.succ_le_of_lt hlength
  plain := by
    rintro _ rfl
    cases hparts

private theorem fits_mappingShape {s : List Char} (h : 2 ≤ s.length) : (mappingShape s).Fits s := by
  -- the type that stands for all other mappings has three parts
  have hopen : (Shape.plain (.mapping .text .json)).Fits s := fits_plain (Nat.succ_le_succ h)
  unfold mappingShape
  cases hparameter : parameter? s with
  | none => exact hopen
  | some inner =>
      have hshorter := length_lt_of_parameter? hparameter
      have hsublist := flatten_pieces_sublist ',' inner
      have hlength := length_flatten_pieces_le ',' inner
      rw [Option.map_some]
      split
      · rename_i key value hpieces
        rw [Option.some.inj hpieces] at hsublist hlength
        refine ⟨hsublist.trans (sublist_of_parameter? hparameter), ?_, nofun⟩
        exact hlength.trans hshorter
      · exact hopen

private theorem unionShape_eq (s : List Char) :
    unionShape s = .plain .json ∨ ∃ inner ∈ pieces '|' s, unionShape s = .optional inner := by
  unfold unionShape
  simp only
  split
  · split
    · rename_i inner hfilter
      exact .inr ⟨inner, List.mem_of_mem_filter (hfilter ▸ List.mem_singleton_self inner), rfl⟩
    · exact .inl rfl
  · exact .inl rfl

private theorem fits_unionShape {s : List Char} (hbar : s.contains '|' = true) : (unionShape s).Fits s := by
  obtain hopen | ⟨inner, hmem, hshape⟩ := unionShape_eq s
  · rw [hopen]
    exact fits_plain (Nat.succ_le_succ (Nat.zero_le _))
  · have hshorter := length_lt_of_unionShape hbar hshape
    rw [hshape]
    exact fits_single rfl ((List.sublist_flatten_of_mem hmem).trans (flatten_pieces_sublist '|' s)) hshorter

theorem length_of_startsWith {words : List String} {s : List Char} {n : Nat} (h : startsWith words s = true)
    (hwords : ∀ word ∈ words, n ≤ word.toList.length) : n ≤ s.length := by
  obtain ⟨word, hword, hbegins⟩ := List.any_eq_true.1 h
  exact (hwords word hword).trans (List.isPrefixOf_iff_prefix.1 hbegins).length_le

theorem fits_wrapped {s : List Char} {wrap : List Char → Shape} {type : TargetType}
    (hwrap : ∀ part, (wrap part).parts = [part]) (htype : type.parts.length ≤ s.length + 1) :
    (match parameter? s with
      | some part => wrap part
      | none => .plain type).Fits s := by
  split
  · rename_i part hparameter
    exact fits_single (hwrap part) (sublist_of_parameter? hparameter) (length_lt_of_parameter? hparameter)
  · exact fits_plain htype

private theorem length_parts_of_lookup {s : String} {type : TargetType} (h : simpleTypes.lookup s = some type) :
    type.parts.length = 1 := by
  have hsimple : ∀ entry ∈ simpleTypes, entry.2.parts.length = 1 := by decide
  obtain ⟨before, after, hentries, -⟩ := List.lookup_eq_some_iff.1 h
  apply hsimple (s, type)
  simp [hentries]

theorem fits_shape (s : List Char) : (shape s).Fits s := by
  unfold shape
  split
  · rename_i type hlookup
    apply fits_plain
    rw [length_parts_of_lookup hlookup]
    exact Nat.succ_le_succ (Nat.zero_le _)
  split <;> rename_i hlist
  · exact fits_wrapped (fun _ => rfl) (Nat.succ_le_succ (length_of_startsWith hlist (by decide)))
  split <;> rename_i hdict
  · exact fits_mappingShape (length_of_startsWith hdict (by decide))
  split <;> rename_i hoptional
  · exact fits_wrapped (fun _ => rfl) (Nat.succ_le_succ (length_of_startsWith hoptional (by decide)))
  split <;> rename_i hbar
  · exact fits_unionShape hbar
  · exact fits_plain (Nat.succ_le_succ (Nat.zero_le _))

section Parts

variable {shape : Shape} {s part : List Char}

theorem Shape.Fits.length_lt (h : shape.Fits s) (hpart : part ∈ shape.parts) : part.length < s.length := by
  have hle := (List.sublist_flatten_of_mem hpart).length_le
  have hpos := List.length_pos_of_mem hpart
  have hlength := h.length
  omega

private theorem Shape.Fits.utf8Len_lt (h : shape.Fits s) (hpart : part ∈ shape.parts) :
    String.utf8Len part < String.utf8Len s := by
  have hshorter := h.length_lt hpart
  have hbytes := utf8Len_add_length_le ((List.sublist_flatten_of_mem hpart).trans h.sublist)
  omega

end Parts

/-- By induction along the mapping: a wrapper has one of the characters that its parts leave behind. -/
theorem length_parts_toType_le (s : List Char) : (toType s).parts.length ≤ s.length + 1 := by
  fun_induction toType s with
  | case1 s type hshape => exact (fits_shape s).plain type hshape
  | case2 s item hshape ih | case4 s item hshape ih =>
      have hshorter : item.length < s.length := (fits_shape s).length_lt (by simp [hshape, Shape.parts])
      simp only [TargetType.parts, List.length_cons]
      omega
  | case3 s key value hshape ihkey ihvalue =>
      -- both parts may be one larger than their texts, but the comma and the brackets are left over
      have hlength := (fits_shape s).length
      simp only [hshape, Shape.parts, List.flatten_cons, List.flatten_nil, List.append_nil,
        List.length_append, List.length_cons, List.length_nil] at hlength
      simp only [TargetType.parts, List.length_cons, List.length_append]
      omega

/-- The type of a shape, with the types of its parts given. -/
def Shape.typeWith (call : List Char → TargetType) : Shape → TargetType
  | .plain type => type
  | .sequence item => .sequence (call item)
  | .mapping key value => .mapping (call key) (call value)
  | .optional inner => .optional (call inner)

private theorem typeWith_eq_toType {s : List Char} {call : List Char → TargetType}
    (h : ∀ part ∈ (shape s).parts, call part = toType part) : (shape s).typeWith call = toType s := by
  rw [toType_eq]
  cases hshape : shape s <;> simp_all [Shape.typeWith, Shape.parts]

/-- The mapping of any text calls itself on shorter texts only, also counted in bytes. What it cuts out of
brackets lies between two bounds of characters, and the type has at most one part more than the text has
characters. -/
theorem toType_parts_bounded (s : String) :
    (∀ part ∈ (shape s.toList).parts,
      part.length < s.length ∧ (String.ofList part).utf8ByteSize < s.utf8ByteSize) ∧
    (∀ call, (∀ part : List Char, part.length < s.length → call part = toType part) →
      (shape s.toList).typeWith call = toType s.toList) ∧
    (∀ start stop, IsFirstAt '[' s start → IsLastAt ']' s stop → start < stop →
      String.Pos.Raw.IsValid s ⟨start + 1⟩ ∧ String.Pos.Raw.IsValid s ⟨stop⟩ ∧ stop ≤ s.utf8ByteSize ∧
        parameter? s.toList = some (String.Pos.Raw.extract s ⟨start + 1⟩ ⟨stop⟩).toList) ∧
    ((¬∃ start stop, IsFirstAt '[' s start ∧ IsLastAt ']' s stop ∧ start < stop) →
      parameter? s.toList = none) ∧
    (toType s.toList).parts.length ≤ s.length + 1 := by
  have hfits := fits_shape s.toList
  refine ⟨?_, ?_, fun start stop => slice_in_range, ?_, ?_⟩
  · intro part hpart
    have hbytes : s.utf8ByteSize = String.utf8Len s.toList := by
      rw [← String.utf8ByteSize_ofList, String.ofList_toList]
    rw [String.utf8ByteSize_ofList, hbytes]
    exact ⟨hfits.length_lt hpart, hfits.utf8Len_lt hpart⟩
  · intro call hcall
    exact typeWith_eq_toType fun part hpart => hcall part (hfits.length_lt hpart)
  · intro hnone
    rw [Option.eq_none_iff_forall_ne_some]
    intro inner hinner
    exact hnone (exists_places_of_parameter? hinner)
  · exact length_parts_toType_le s.toList

end Codegen.TypeHint

end Workgraph
