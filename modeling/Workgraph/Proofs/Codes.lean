import Workgraph.Codegen.TargetType
import Workgraph.Proofs.Annotations

/-!
# Reading types back

A type is written as a head, and after it the types in its brackets if it has any. No head holds a bracket or
a comma, so the head ends where the first of these stands, and what is written for a type ends where the bracket or
comma of the type around it stands. Both are found from the left, so a text is the code of one type at most.
-/

namespace Workgraph

namespace Text

private theorem append_inj_of_free {isMark : Char → Bool} {s t r q : List Char}
    (hs : ∀ c ∈ s, isMark c = false) (ht : ∀ c ∈ t, isMark c = false)
    (hr : ∀ c ∈ r.head?, isMark c = true) (hq : ∀ c ∈ q.head?, isMark c = true)
    (h : s ++ r = t ++ q) : s = t ∧ r = q := by
  have hdrop {s r : List Char} (hs : ∀ c ∈ s, isMark c = false)
      (hr : ∀ c ∈ r.head?, isMark c = true) : (s ++ r).dropWhile (fun c => !isMark c) = r := by
    apply dropWhile_append_of_head
    · intro c hc
      simp [hs c hc]
    · intro c hc
      simp [hr c hc]
  have hrq : r = q := by
    rw [← hdrop hs hr, h, hdrop ht hq]
  subst hrq
  exact ⟨List.append_cancel_right h, rfl⟩

end Text

namespace Codegen

namespace TargetType

/-- The word that a type begins with. -/
def head : TargetType → String
  | .text => "String"
  | .int32 => "i32"
  | .int64 => "i64"
  | .float32 => "f32"
  | .float64 => "f64"
  | .bool => "bool"
  | .sequence _ => "Vec"
  | .mapping _ _ => "HashMap"
  | .optional _ => "Option"
  | .json => "serde_json::Value"
  | .custom name => name
  | .unit => "()"

def arguments : TargetType → List TargetType
  | .sequence item => [item]
  | .mapping key value => [key, value]
  | .optional inner => [inner]
  | _ => []

theorem arguments_induction {P : TargetType → Prop}
    (step : ∀ type : TargetType, (∀ argument ∈ type.arguments, P argument) → P type)
    (type : TargetType) : P type := by
  induction type with
  | sequence item ih => exact step _ (by simpa [arguments] using ih)
  | mapping key value ihk ihv => exact step _ (by simpa [arguments] using ⟨ihk, ihv⟩)
  | optional inner ih => exact step _ (by simpa [arguments] using ih)
  | _ => exact step _ (by simp [arguments])

/-- The types that occur in a type, itself included. -/
def parts : TargetType → List TargetType
  | .sequence item => .sequence item :: item.parts
  | .mapping key value => .mapping key value :: (key.parts ++ value.parts)
  | .optional inner => .optional inner :: inner.parts
  | type => [type]

theorem mem_parts_iff {part type : TargetType} :
    part ∈ type.parts ↔ part = type ∨ ∃ argument ∈ type.arguments, part ∈ argument.parts := by
  cases type <;> simp [parts, arguments]

theorem self_mem_parts (type : TargetType) : type ∈ type.parts := mem_parts_iff.2 (.inl rfl)

theorem mem_parts_of_argument {part argument type : TargetType} (hargument : argument ∈ type.arguments)
    (hpart : part ∈ argument.parts) : part ∈ type.parts :=
  mem_parts_iff.2 (.inr ⟨argument, hargument, hpart⟩)

/-- What is written after the first of the arguments. -/
def furtherText : List TargetType → List Char
  | [] => ['>']
  | argument :: rest => ',' :: ' ' :: (argument.code.toList ++ furtherText rest)

def argumentsText : List TargetType → List Char
  | [] => []
  | argument :: rest => '<' :: (argument.code.toList ++ furtherText rest)

theorem toList_code (type : TargetType) :
    type.code.toList = type.head.toList ++ argumentsText type.arguments := by
  cases type <;> simp [code, head, arguments, argumentsText, furtherText]

/-- The types that are written without brackets, by their heads. -/
def plainTypes : List (String × TargetType) := [
  ("String", .text),
  ("i32", .int32),
  ("i64", .int64),
  ("f32", .float32),
  ("f64", .float64),
  ("bool", .bool),
  ("serde_json::Value", .json),
  ("()", .unit)]

def ofHead (head : String) : List TargetType → TargetType
  | [] => (plainTypes.lookup head).getD (.custom head)
  | [argument] => if head = "Vec" then .sequence argument else .optional argument
  | key :: value :: _ => .mapping key value

/-- Whether a character ends the head of a type. -/
def isBound (c : Char) : Bool := c == '<' || c == '>' || c == ','

/-- All names in a type end where their heads end, and none of them is that of another type. -/
def IsPlain (type : TargetType) : Prop :=
  ∀ name, .custom name ∈ type.parts →
    (∀ c ∈ name.toList, isBound c = false) ∧ plainTypes.lookup name = none

theorem IsPlain.argument {type argument : TargetType} (h : type.IsPlain)
    (hargument : argument ∈ type.arguments) : argument.IsPlain :=
  fun name hname => h name (mem_parts_of_argument hargument hname)

theorem IsPlain.ofHead_head {type : TargetType} (h : type.IsPlain) :
    ofHead type.head type.arguments = type := by
  cases type with
  | custom name =>
      rw [head, arguments, ofHead, (h name (self_mem_parts _)).2]
      · rfl
      all_goals simp
  | _ => rfl

theorem IsPlain.head_free {type : TargetType} (h : type.IsPlain) :
    ∀ c ∈ type.head.toList, isBound c = false := by
  cases type with
  | custom name => exact (h name (self_mem_parts _)).1
  | _ => simp [head, isBound]

/-- What can follow a type: nothing, or what the type around it goes on with. -/
def Follows (r : List Char) : Prop := ∀ c ∈ r.head?, c = '>' ∨ c = ','

theorem follows_nil : Follows [] := nofun

theorem follows_furtherText (types : List TargetType) (r : List Char) : Follows (furtherText types ++ r) := by
  cases types with
  | nil => simp [furtherText, Follows]
  | cons type rest => simp [furtherText, Follows]

private theorem head_inj {type other : TargetType} (htype : type.IsPlain) (hother : other.IsPlain)
    {r q : List Char} (hr : Follows r) (hq : Follows q)
    (h : type.code.toList ++ r = other.code.toList ++ q) :
    type.head = other.head ∧ argumentsText type.arguments ++ r = argumentsText other.arguments ++ q := by
  have hbound {types : List TargetType} {r : List Char} (hr : Follows r) :
      ∀ c ∈ (argumentsText types ++ r).head?, isBound c = true := by
    intro c hc
    cases types with
    | nil => obtain rfl | rfl := hr c hc <;> rfl
    | cons type rest =>
        cases hc
        rfl
  rw [toList_code, toList_code, List.append_assoc, List.append_assoc] at h
  obtain ⟨hhead, hrest⟩ :=
    Text.append_inj_of_free htype.head_free hother.head_free (hbound hr) (hbound hq) h
  exact ⟨String.toList_inj.1 hhead, hrest⟩

/-- A type that is read from the left of a text in one way. -/
def IsReadable (type : TargetType) : Prop :=
  ∀ {other : TargetType} {r q : List Char}, other.IsPlain → Follows r → Follows q →
    type.code.toList ++ r = other.code.toList ++ q → type = other ∧ r = q

private theorem furtherText_inj {types others : List TargetType} (htypes : ∀ type ∈ types, type.IsReadable)
    (hothers : ∀ other ∈ others, other.IsPlain) {r q : List Char}
    (h : furtherText types ++ r = furtherText others ++ q) : types = others ∧ r = q := by
  induction types generalizing others with
  | nil =>
      cases others with
      | nil => exact ⟨rfl, List.append_cancel_left h⟩
      | cons other others => simp [furtherText] at h
  | cons type types ih =>
      cases others with
      | nil => simp [furtherText] at h
      | cons other others =>
          simp only [furtherText, List.cons_append, List.append_assoc, List.cons.injEq, true_and] at h
          obtain ⟨rfl, hrest⟩ := htypes type List.mem_cons_self (hothers other List.mem_cons_self)
            (follows_furtherText types r) (follows_furtherText others q) h
          obtain ⟨rfl, hrq⟩ := ih (fun t ht => htypes t (List.mem_cons_of_mem _ ht))
            (fun t ht => hothers t (List.mem_cons_of_mem _ ht)) hrest
          exact ⟨rfl, hrq⟩

theorem not_follows_argumentsText (type : TargetType) (types : List TargetType) (r : List Char) :
    ¬ Follows (argumentsText (type :: types) ++ r) := by
  simp [argumentsText, Follows]

private theorem argumentsText_inj {types others : List TargetType} (htypes : ∀ type ∈ types, type.IsReadable)
    (hothers : ∀ other ∈ others, other.IsPlain) {r q : List Char} (hr : Follows r) (hq : Follows q)
    (h : argumentsText types ++ r = argumentsText others ++ q) : types = others ∧ r = q := by
  -- what follows a type never opens a bracket, so a type without arguments is not taken for one with some
  cases types with
  | nil =>
      cases others with
      | nil => exact ⟨rfl, h⟩
      | cons other others =>
          change r = _ at h
          rw [h] at hr
          exact absurd hr (not_follows_argumentsText other others q)
  | cons type types =>
      cases others with
      | nil =>
          change _ = q at h
          rw [← h] at hq
          exact absurd hq (not_follows_argumentsText type types r)
      | cons other others =>
          have hfurther : furtherText (type :: types) ++ r = furtherText (other :: others) ++ q := by
            simpa [argumentsText, furtherText] using h
          exact furtherText_inj htypes hothers hfurther

private theorem isReadable {type : TargetType} (h : type.IsPlain) : type.IsReadable := by
  induction type using arguments_induction with
  | step type ih =>
      intro other r q hother hr hq htext
      -- the head is cut off first, and what is left are arguments, which are shorter types
      obtain ⟨hhead, hrest⟩ := head_inj h hother hr hq htext
      obtain ⟨harguments, hrq⟩ := argumentsText_inj (fun a ha => ih a ha (h.argument ha))
        (fun a ha => hother.argument ha) hr hq hrest
      refine ⟨?_, hrq⟩
      rw [← h.ofHead_head, ← hother.ofHead_head, hhead, harguments]

/-- Whether a character can stand in a name: a letter, a digit or an underscore. Beyond ASCII, where letters and digits
of all scripts are, no character is left out. -/
def isNameChar (c : Char) : Bool := c.isAlphanum || c == '_' || 128 ≤ c.toNat

/-- A name for a type, other than those of the types that have one already. -/
structure IsTypeName (name : String) : Prop where
  nonempty : name ≠ ""
  chars : ∀ c ∈ name.toList, isNameChar c = true
  fresh : name ∉ ["String", "i32", "i64", "f32", "f64", "bool"]

private theorem isBound_of_isNameChar {c : Char} (h : isNameChar c = true) : isBound c = false := by
  rw [isBound, Bool.or_eq_false_iff, Bool.or_eq_false_iff, beq_eq_false_iff_ne, beq_eq_false_iff_ne,
    beq_eq_false_iff_ne]
  refine ⟨⟨?_, ?_⟩, ?_⟩
  all_goals
    rintro rfl
    revert h
    decide

private theorem IsTypeName.lookup_eq_none {name : String} (h : IsTypeName name) : plainTypes.lookup name = none := by
  have htaken : ∀ entry ∈ plainTypes, entry.1 ∈ ["String", "i32", "i64", "f32", "f64", "bool"] ∨
      entry.1.toList.all isNameChar = false := by
    decide
  rw [List.lookup_eq_none_iff]
  intro entry hentry
  rw [bne_iff_ne]
  rintro rfl
  obtain hword | hmark := htaken entry hentry
  · exact h.fresh hword
  · rw [List.all_eq_true.2 h.chars] at hmark
    cases hmark

theorem isPlain_of_isTypeName {type : TargetType}
    (h : ∀ name, .custom name ∈ type.parts → IsTypeName name) : type.IsPlain := by
  intro name hname
  have hword := h name hname
  exact ⟨fun c hc => isBound_of_isNameChar (hword.chars c hc), hword.lookup_eq_none⟩

/-- Types whose names are words that no other type has are told apart by their codes. -/
theorem code_eq_iff {type other : TargetType}
    (htype : ∀ name, .custom name ∈ type.parts → IsTypeName name)
    (hother : ∀ name, .custom name ∈ other.parts → IsTypeName name) :
    type.code = other.code ↔ type = other := by
  constructor
  · intro h
    have hread := isReadable (isPlain_of_isTypeName htype) (isPlain_of_isTypeName hother) follows_nil
      follows_nil (congrArg (·.toList ++ []) h)
    exact hread.1
  · rintro rfl
    rfl

-- a name that another type has already is not told apart from it
example : (custom "String").code = text.code := rfl

theorem code_of_nested_mappings :
    (∀ name, .custom name ∈ (mapping text (mapping (custom "Vec") bool)).parts → IsTypeName name) ∧
      (∀ name, .custom name ∈ (mapping (mapping text (custom "Vec")) bool).parts → IsTypeName name) ∧
      (mapping text (mapping (custom "Vec") bool)).code ≠ (mapping (mapping text (custom "Vec")) bool).code := by
  have hvec : IsTypeName "Vec" := ⟨by decide, by simp [isNameChar], by decide⟩
  have hleft : ∀ name, .custom name ∈ (mapping text (mapping (custom "Vec") bool)).parts →
      IsTypeName name := by
    intro name hname
    obtain rfl : name = "Vec" := by simpa [parts] using hname
    exact hvec
  have hright : ∀ name, .custom name ∈ (mapping (mapping text (custom "Vec")) bool).parts →
      IsTypeName name := by
    intro name hname
    obtain rfl : name = "Vec" := by simpa [parts] using hname
    exact hvec
  refine ⟨hleft, hright, ?_⟩
  rw [Ne, code_eq_iff hleft hright]
  simp

end TargetType

end Codegen

end Workgraph
