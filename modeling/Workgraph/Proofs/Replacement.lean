import Mathlib.Data.List.Basic
import Workgraph.Proofs.Lines

/-!
# Replacement

A scan for a pattern either finds it where it stands and goes on behind it, or passes one character. What is
replaced and what is counted follow the same scan, so a replacement changes the number of characters of any
sort by what the pattern and the new text hold of them, once for each occurrence.
-/

namespace Workgraph.Text

variable {pattern : List Char}

private theorem replaceFrom_eq (pattern new : List Char) (skip : Nat) (s : List Char) :
    replaceFrom pattern new skip s = replace pattern new (s.drop skip) := by
  induction s generalizing skip with
  | nil => simp [replace, replaceFrom]
  | cons c rest ih =>
      cases skip with
      | zero => rfl
      | succ skip => rw [replaceFrom, ih, List.drop_succ_cons]

private theorem countFrom_eq (pattern : List Char) (skip : Nat) (s : List Char) :
    countFrom pattern skip s = count pattern (s.drop skip) := by
  induction s generalizing skip with
  | nil => simp [count, countFrom]
  | cons c rest ih =>
      cases skip with
      | zero => rfl
      | succ skip => rw [countFrom, ih, List.drop_succ_cons]

theorem replace_nil (pattern new : List Char) : replace pattern new [] = [] := rfl

theorem count_nil (pattern : List Char) : count pattern [] = 0 := rfl

theorem replace_append (hne : pattern ≠ []) (new rest : List Char) :
    replace pattern new (pattern ++ rest) = new ++ replace pattern new rest := by
  obtain ⟨c, tail, rfl⟩ := List.exists_cons_of_ne_nil hne
  have hfound : (c :: tail).isPrefixOf (c :: (tail ++ rest)) = true :=
    List.isPrefixOf_iff_prefix.2 (List.prefix_append (c :: tail) rest)
  rw [List.cons_append, replace, replaceFrom, if_pos hfound, replaceFrom_eq]
  simp

theorem count_append (hne : pattern ≠ []) (rest : List Char) :
    count pattern (pattern ++ rest) = count pattern rest + 1 := by
  obtain ⟨c, tail, rfl⟩ := List.exists_cons_of_ne_nil hne
  have hfound : (c :: tail).isPrefixOf (c :: (tail ++ rest)) = true :=
    List.isPrefixOf_iff_prefix.2 (List.prefix_append (c :: tail) rest)
  rw [List.cons_append, count, countFrom, if_pos hfound, countFrom_eq]
  simp [Nat.add_comm]

theorem replace_cons {c : Char} {rest : List Char} (h : ¬pattern <+: c :: rest) (new : List Char) :
    replace pattern new (c :: rest) = c :: replace pattern new rest := by
  rw [replace, replaceFrom, if_neg (mt List.isPrefixOf_iff_prefix.1 h)]
  rfl

theorem count_cons {c : Char} {rest : List Char} (h : ¬pattern <+: c :: rest) :
    count pattern (c :: rest) = count pattern rest := by
  rw [count, countFrom, if_neg (mt List.isPrefixOf_iff_prefix.1 h)]
  rfl

theorem replace_append_of_passed {s rest : List Char}
    (h : ∀ tail, tail ≠ [] → tail <:+ s → ¬pattern <+: tail ++ rest) (new : List Char) :
    replace pattern new (s ++ rest) = s ++ replace pattern new rest := by
  induction s with
  | nil => rfl
  | cons c s ih =>
      have hpassed : ¬pattern <+: c :: (s ++ rest) := h (c :: s) (List.cons_ne_nil c s) (List.suffix_refl _)
      have hrest := ih fun tail hne htail => h tail hne (htail.trans (List.suffix_cons c s))
      rw [List.cons_append, replace_cons hpassed, hrest, List.cons_append]

theorem count_append_of_passed {s rest : List Char}
    (h : ∀ tail, tail ≠ [] → tail <:+ s → ¬pattern <+: tail ++ rest) :
    count pattern (s ++ rest) = count pattern rest := by
  induction s with
  | nil => rfl
  | cons c s ih =>
      have hpassed : ¬pattern <+: c :: (s ++ rest) := h (c :: s) (List.cons_ne_nil c s) (List.suffix_refl _)
      rw [List.cons_append, count_cons hpassed]
      exact ih fun tail hne htail => h tail hne (htail.trans (List.suffix_cons c s))

/-- Induction along a scan. -/
theorem scan_induction {motive : List Char → Prop} (hne : pattern ≠ []) (nil : motive [])
    (found : ∀ rest, motive rest → motive (pattern ++ rest))
    (passed : ∀ c rest, ¬pattern <+: c :: rest → motive rest → motive (c :: rest)) (s : List Char) :
    motive s := by
  induction hlength : s.length using Nat.strongRecOn generalizing s with
  | ind n ih =>
      subst hlength
      by_cases hfound : pattern <+: s
      · obtain ⟨rest, rfl⟩ := hfound
        have hpos := List.length_pos_iff.2 hne
        exact found rest (ih rest.length (by rw [List.length_append]; omega) rest rfl)
      · cases s with
        | nil => exact nil
        | cons c rest => exact passed c rest hfound (ih rest.length (Nat.lt_succ_self _) rest rfl)

/-- What a replacement takes away and puts in, counted for any sort of characters. -/
theorem countP_replace (hne : pattern ≠ []) (q : Char → Bool) (new s : List Char) :
    (replace pattern new s).countP q + count pattern s * pattern.countP q =
      s.countP q + count pattern s * new.countP q := by
  induction s using scan_induction hne with
  | nil => simp [replace_nil, count_nil]
  | found rest ih =>
      rw [replace_append hne, count_append hne, List.countP_append, List.countP_append,
        Nat.add_one_mul, Nat.add_one_mul]
      omega
  | passed c rest hc ih =>
      rw [replace_cons hc, count_cons hc, List.countP_cons, List.countP_cons]
      omega

theorem length_replace (hne : pattern ≠ []) (new s : List Char) :
    (replace pattern new s).length + count pattern s * pattern.length =
      s.length + count pattern s * new.length := by
  simpa using countP_replace hne (fun _ => true) new s

theorem replace_self (hne : pattern ≠ []) (s : List Char) : replace pattern pattern s = s := by
  induction s using scan_induction hne with
  | nil => rfl
  | found rest ih => rw [replace_append hne, ih]
  | passed c rest hc ih => rw [replace_cons hc, ih]

theorem count_eq_zero_iff (hne : pattern ≠ []) (s : List Char) :
    count pattern s = 0 ↔ ¬pattern <:+: s := by
  induction s using scan_induction hne with
  | nil => simp [count_nil, hne]
  | found rest ih =>
      rw [count_append hne]
      simp [(List.prefix_append pattern rest).isInfix]
  | passed c rest hc ih => rw [count_cons hc, ih, List.infix_cons_iff, or_iff_right hc]

theorem replace_of_absent {s : List Char} (hne : pattern ≠ []) (h : ¬pattern <:+: s)
    (new : List Char) : replace pattern new s = s := by
  induction s using scan_induction hne with
  | nil => rfl
  | found rest ih => exact absurd (List.prefix_append pattern rest).isInfix h
  | passed c rest hc ih => rw [replace_cons hc, ih fun hrest => h (List.infix_cons_iff.2 (.inr hrest))]

end Workgraph.Text
