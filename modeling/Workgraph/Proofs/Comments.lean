import Mathlib.Combinatorics.Enumerative.DyckWord
import Workgraph.Proofs.Lines

/-!
# The source in its comment

A generated file shows the source that it was made from in a block comment. Comments nest, so such a comment ends
where the marks that open and those that close one come out even. The source is copied as it is, and its own marks
count: the comment ends with the mark that follows the source exactly if the marks of the source are nested.
-/

namespace Workgraph.Codegen

namespace Comment

/-- The marks of a text, read from the left and without overlap: a step up where a comment is opened, and a
step down where one is closed. -/
def marks : List Char → List DyckStep
  | '/' :: '*' :: rest => .U :: marks rest
  | '*' :: '/' :: rest => .D :: marks rest
  | _ :: rest => marks rest
  | [] => []

/-- What is left of a text once all the comments that are open at its beginning, and all that are opened on
the way, are closed. -/
def behind? : Nat → List Char → Option (List Char)
  | 0, rest => some rest
  | depth + 1, '/' :: '*' :: rest => behind? (depth + 2) rest
  | depth + 1, '*' :: '/' :: rest => behind? depth rest
  | depth + 1, _ :: rest => behind? (depth + 1) rest
  | _ + 1, [] => none

/-- What is left of a text behind the comment that it begins with. -/
def behindFirst? : List Char → Option (List Char)
  | '/' :: '*' :: rest => behind? 1 rest
  | _ => none

/-- The depth after some marks; none if all comments are closed on the way. -/
def climb : Nat → List DyckStep → Option Nat
  | 0, _ => none
  | depth + 1, [] => some (depth + 1)
  | depth + 1, .U :: steps => climb (depth + 2) steps
  | depth + 1, .D :: steps => climb depth steps

/-- The marks of a text open and close whole comments. -/
def IsNested (s : List Char) : Prop := ∃ word : DyckWord, word.toList = marks s

@[simp]
theorem behind?_zero (rest : List Char) : behind? 0 rest = some rest := by
  rw [behind?]

@[simp]
theorem climb_zero (steps : List DyckStep) : climb 0 steps = none := by
  rw [climb]

private theorem forall_take_cons {P : List DyckStep → Prop} {step : DyckStep} {steps : List DyckStep} :
    (∀ i, P ((step :: steps).take i)) ↔ P [] ∧ ∀ i, P (step :: steps.take i) := by
  constructor
  · exact fun h => ⟨h 0, fun i => h (i + 1)⟩
  · rintro ⟨hnil, hcons⟩ i
    cases i with
    | zero => exact hnil
    | succ i => exact hcons i

/-- A climb stays above zero, and ends at the depth that is left of what was opened. -/
theorem climb_eq_some_iff {steps : List DyckStep} {depth reached : Nat} :
    climb depth steps = some reached ↔
      (∀ i, (steps.take i).count .D < depth + (steps.take i).count .U) ∧
        reached + steps.count .D = depth + steps.count .U := by
  induction steps generalizing depth with
  | nil =>
      cases depth with
      | zero => simp
      | succ depth => simp [climb, eq_comm]
  | cons step steps ih =>
      rw [forall_take_cons (P := fun steps => steps.count .D < depth + steps.count .U)]
      cases depth with
      | zero => simp
      | succ depth =>
          cases step with
          | U =>
              rw [climb, ih]
              simp only [List.count_nil, List.count_cons_self, List.count_cons_of_ne, ne_eq, reduceCtorEq,
                not_false_eq_true, Nat.add_zero, Nat.zero_lt_succ, true_and]
              refine and_congr (forall_congr' fun i => ?_) ?_ <;> omega
          | D =>
              rw [climb, ih]
              simp only [List.count_nil, List.count_cons_self, List.count_cons_of_ne, ne_eq, reduceCtorEq,
                not_false_eq_true, Nat.add_zero, Nat.zero_lt_succ, true_and]
              refine and_congr (forall_congr' fun i => ?_) ?_ <;> omega

theorem isNested_iff_climb (s : List Char) : IsNested s ↔ climb 1 (marks s) = some 1 := by
  rw [climb_eq_some_iff]
  constructor
  · rintro ⟨word, hword⟩
    rw [← hword]
    refine ⟨fun i => ?_, by rw [word.count_U_eq_count_D]⟩
    have hle := word.count_D_le_count_U i
    omega
  · rintro ⟨hstays, hcount⟩
    refine ⟨⟨marks s, by omega, fun i => ?_⟩, rfl⟩
    have hlt := hstays i
    omega

instance (s : List Char) : Decidable (IsNested s) :=
  decidable_of_iff _ (isNested_iff_climb s).symm

theorem behind?_cons {c : Char} (depth : Nat) {rest : List Char}
    (hopen : ∀ more, c = '/' → rest ≠ '*' :: more) (hclose : ∀ more, c = '*' → rest ≠ '/' :: more) :
    behind? (depth + 1) (c :: rest) = behind? (depth + 1) rest := by
  rw [behind?]
  · rintro more rfl rfl
    exact hopen more rfl rfl
  · rintro more rfl rfl
    exact hclose more rfl rfl

private theorem behind?_plain {s : List Char} (h : ∀ c ∈ s, c ≠ '/' ∧ c ≠ '*') (depth : Nat) (rest : List Char) :
    behind? (depth + 1) (s ++ rest) = behind? (depth + 1) rest := by
  induction s with
  | nil => rfl
  | cons c s ih =>
      rw [List.forall_mem_cons] at h
      rw [List.cons_append, behind?_cons depth (fun _ hc => absurd hc h.1.1) (fun _ hc => absurd hc h.1.2),
        ih h.2]

/-- The newline behind a source keeps its last character from beginning a mark. -/
theorem append_newline_ne {d : Char} {s : List Char} (h : ∀ more, s ≠ d :: more) (hd : d ≠ '\n')
    (rest more : List Char) : s ++ '\n' :: rest ≠ d :: more := by
  cases s with
  | nil => simp [hd.symm]
  | cons e s =>
      intro heq
      obtain ⟨rfl, -⟩ := List.cons.inj heq
      exact h s rfl

/-- A source is read through, at the depth that its marks climb to, or a part of it is left behind the comments
that it closes. -/
theorem behind?_source (s rest : List Char) (depth : Nat) :
    (∃ reached, climb depth (marks s) = some reached ∧
      behind? depth (s ++ '\n' :: rest) = behind? reached rest) ∨
    climb depth (marks s) = none ∧
      ∃ left, behind? depth (s ++ '\n' :: rest) = some (left ++ '\n' :: rest) := by
  fun_induction marks s generalizing depth with
  | case1 s ih | case2 s ih =>
      cases depth with
      | zero => exact .inr ⟨climb_zero _, _, behind?_zero _⟩
      | succ depth => exact ih _
  | case3 c s hopen hclose ih =>
      cases depth with
      | zero => exact .inr ⟨climb_zero _, _, behind?_zero _⟩
      | succ depth =>
          rw [List.cons_append, behind?_cons depth]
          · exact ih _
          · exact fun more hc => append_newline_ne (hopen · hc) (by decide) rest more
          · exact fun more hc => append_newline_ne (hclose · hc) (by decide) rest more
  | case4 =>
      cases depth with
      | zero => exact .inr ⟨climb_zero _, [], behind?_zero _⟩
      | succ depth => exact .inl ⟨_, rfl, behind?_cons depth (by simp) (by simp)⟩

private theorem length_add_le_of_behind? {s left : List Char} {depth : Nat} (h : behind? depth s = some left) :
    left.length + depth ≤ s.length := by
  fun_induction behind? depth s with
  | case1 s => simp_all
  | case2 depth s ih | case3 depth s ih =>
      have hle := ih h
      simp only [List.length_cons]
      omega
  | case4 depth c s hopen hclose ih =>
      have hle := ih h
      simp only [List.length_cons]
      omega
  | case5 => cases h

private theorem behind?_closing_eq_iff {depth : Nat} (rest : List Char) :
    behind? depth ('*' :: '/' :: rest) = some rest ↔ depth = 1 := by
  cases depth with
  | zero =>
      have hne : ['*', '/'] ++ rest ≠ rest := mt List.append_left_eq_self.1 (List.cons_ne_nil _ _)
      simpa using hne
  | succ depth =>
      rw [behind?]
      constructor
      · intro hleft
        have hlength := length_add_le_of_behind? hleft
        omega
      · intro hdepth
        obtain rfl : depth = 0 := by omega
        exact behind?_zero rest

/-- The mark behind a source closes the comment around it exactly if the marks of the source are nested. -/
theorem behind?_source_eq_iff (s rest : List Char) :
    behind? 1 (s ++ '\n' :: '*' :: '/' :: rest) = some rest ↔ IsNested s := by
  rw [isNested_iff_climb]
  obtain ⟨reached, hclimb, hbehind⟩ | ⟨hclimb, left, hbehind⟩ := behind?_source s ('*' :: '/' :: rest) 1
  · rw [hclimb, hbehind, behind?_closing_eq_iff, Option.some_inj]
  · rw [hclimb, hbehind]
    have hne : left ++ ['\n', '*', '/'] ++ rest ≠ rest := mt List.append_left_eq_self.1 (by simp)
    simpa using hne

end Comment

def fileHead : String :=
  Listing.text ["// Generated by langgraph-rs", "// Do not edit this file manually", ""] ++ "\n"

def sourceComment (source : String) : String :=
  Listing.text ["/*", "Original Python code:", "", source, "*/"]

def codePart (order : NameOrder) (imports : List String) (stateStruct functions executor : String) : String :=
  "\n" ++ Listing.text ("" :: (importLines order imports ++
    ["", stateStruct, "", functions, "", executor, ""] ++ entryPoint))

theorem formatFile_of_source (order : NameOrder) (imports : List String)
    (stateStruct functions executor source : String) :
    formatFile imports stateStruct functions executor (some source) order =
      fileHead ++ (sourceComment source ++ codePart order imports stateStruct functions executor) := by
  have hlines : fileHeader (some source) ++ importLines order imports ++
      ["", stateStruct, "", functions, "", executor, ""] ++ entryPoint =
      ["// Generated by langgraph-rs", "// Do not edit this file manually", ""] ++
        (["/*", "Original Python code:", "", source, "*/"] ++ "" :: (importLines order imports ++
          ["", stateStruct, "", functions, "", executor, ""] ++ entryPoint)) := by
    simp [fileHeader]
  unfold formatFile
  rw [hlines, Listing.text_append (by simp) (by simp), Listing.text_append (by simp) (by simp),
    ← String.append_assoc]
  rfl

private theorem toList_sourceComment_append (source rest : String) :
    (sourceComment source ++ rest).toList = '/' :: '*' :: ("\nOriginal Python code:\n\n".toList ++
      (source.toList ++ '\n' :: '*' :: '/' :: rest.toList)) := by
  simp [sourceComment, Listing.text, Text.join]

theorem behindFirst?_sourceComment (source rest : String) :
    Comment.behindFirst? (sourceComment source ++ rest).toList =
      Comment.behind? 1 (source.toList ++ '\n' :: '*' :: '/' :: rest.toList) := by
  rw [toList_sourceComment_append, Comment.behindFirst?, Comment.behind?_plain (by simp)]

/-- The comment with the source ends with the mark behind the source exactly if the marks of the source
are nested. -/
theorem formatFile_comment_iff_isNested (order : NameOrder) (imports : List String)
    (stateStruct functions executor source : String) :
    formatFile imports stateStruct functions executor (some source) order =
      fileHead ++ (sourceComment source ++ codePart order imports stateStruct functions executor) ∧
    (Comment.behindFirst? (sourceComment source ++
        codePart order imports stateStruct functions executor).toList =
      some (codePart order imports stateStruct functions executor).toList ↔
        Comment.IsNested source.toList) := by
  refine ⟨formatFile_of_source order imports stateStruct functions executor source, ?_⟩
  rw [behindFirst?_sourceComment, Comment.behind?_source_eq_iff]

/-- A pattern with both marks in it is nested. -/
example : Comment.IsNested "glob('src/**/*.py')".toList := by decide

/-- A source with a pattern of file names. -/
def globbing : String := "files = glob('*/main.py')"

/-- The pattern closes the comment, and what follows it is read as code. -/
theorem formatFile_globbing :
    formatFile [] "" "" "" (some globbing) =
      fileHead ++ (sourceComment globbing ++ codePart .byName [] "" "" "") ∧
    Comment.behindFirst? (sourceComment globbing ++ codePart .byName [] "" "" "").toList =
      some ("main.py')\n*/" ++ codePart .byName [] "" "" "").toList ∧
    Comment.behindFirst? (sourceComment globbing ++ codePart .byName [] "" "" "").toList ≠
      some (codePart .byName [] "" "" "").toList := by
  refine ⟨formatFile_of_source .byName [] "" "" "" globbing, ?_, ?_⟩
  · rw [behindFirst?_sourceComment]
    generalize codePart .byName [] "" "" "" = rest
    simp [globbing, Comment.behind?]
  · rw [behindFirst?_sourceComment, ne_eq, Comment.behind?_source_eq_iff]
    decide

end Workgraph.Codegen
