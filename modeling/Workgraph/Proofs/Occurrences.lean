import Workgraph.Proofs.Lines

/-!
# Occurrences of a word

Where a word stands in a text that is put together from pieces. A mark that is not in the word keeps the pieces on
its two sides apart, so each occurrence is found in one of the pieces, with the rest of the text around it.
-/

namespace Workgraph

namespace Text

/-- The word stands in a part of the text, and this part stands right there. -/
def Within (word part before after : List Char) : Prop :=
  ∃ lead tail, part = lead ++ word ++ tail ∧ lead <:+ before ∧ tail <+: after

/-- A statement about what is before and after a word that stays true with more text around. -/
def IsStable (P : List Char → List Char → Prop) : Prop :=
  ∀ ⦃lead tail before after⦄, P lead tail → lead <:+ before → tail <+: after → P before after

/-- Wherever the word stands in the text, the statement is true of what is before it and after it. -/
def Everywhere (P : List Char → List Char → Prop) (word s : List Char) : Prop :=
  ∀ before after, s = before ++ word ++ after → P before after

theorem isStable_within (word part : List Char) : IsStable (Within word part) := by
  rintro lead tail before after ⟨u, v, rfl, hu, hv⟩ hlead htail
  exact ⟨u, v, rfl, hu.trans hlead, hv.trans htail⟩

theorem everywhere_within (word part : List Char) : Everywhere (Within word part) word part :=
  fun before after h => ⟨before, after, h, List.suffix_rfl, List.prefix_rfl⟩

/-- Some character of the word is not in the text. -/
def Misses (word s : List Char) : Prop := ∃ c ∈ word, c ∉ s

instance (word s : List Char) : Decidable (Misses word s) :=
  decidable_of_iff (word.any (· ∉ s) = true) (by simp [Misses])

/-- The text ends with a character that is not in the word. -/
def Closes (word s : List Char) : Prop := s.getLast?.any (· ∉ word)

instance (word s : List Char) : Decidable (Closes word s) := inferInstanceAs (Decidable (_ = true))

/-- The text begins with a character that is not in the word. -/
def Opens (word s : List Char) : Prop := s.head?.any (· ∉ word)

instance (word s : List Char) : Decidable (Opens word s) := inferInstanceAs (Decidable (_ = true))

section

variable {P Q : List Char → List Char → Prop} {word s t : List Char}

theorem Everywhere.imp (h : Everywhere P word s) (himp : ∀ before after, P before after → Q before after) :
    Everywhere Q word s :=
  fun before after hs => himp before after (h before after hs)

theorem Misses.everywhere (h : Misses word s) : Everywhere P word s := by
  rintro before after rfl
  obtain ⟨c, hc, hnot⟩ := h
  exact absurd (by simp [hc]) hnot

/-- An occurrence is on one side of a mark, or the mark is a character of it. -/
private theorem Everywhere.append_mark {mark : Char} (hP : IsStable P) (hs : Everywhere P word s)
    (ht : Everywhere P word t)
    (hacross : ∀ u v before after, word = u ++ mark :: v → s = before ++ u → t = v ++ after →
      P before after) :
    Everywhere P word (s ++ mark :: t) := by
  intro before after h
  rw [List.append_assoc, List.append_eq_append_iff] at h
  obtain ⟨gap, rfl, hrest⟩ | ⟨gap, rfl, hrest⟩ := h
  · -- the word begins at the mark or after it
    cases gap with
    | nil =>
        cases word with
        | nil => exact hP (hs s [] (by simp)) (by simp) List.nil_prefix
        | cons c word =>
            obtain ⟨rfl, rfl⟩ := List.cons.inj hrest
            exact hacross [] word _ after rfl (by simp) rfl
    | cons c gap =>
        obtain ⟨-, rfl⟩ := List.cons.inj hrest
        exact hP (ht gap after (by simp)) ⟨s ++ [c], by simp⟩ List.prefix_rfl
  · -- the word begins before the mark
    rw [List.append_eq_append_iff] at hrest
    obtain ⟨rest, rfl, rfl⟩ | ⟨rest, rfl, hrest⟩ := hrest
    · exact hP (hs before rest (by simp)) List.suffix_rfl (List.prefix_append rest (mark :: t))
    · cases rest with
      | nil => exact hP (hs before [] (by simp)) List.suffix_rfl List.nil_prefix
      | cons c rest =>
          obtain ⟨rfl, rfl⟩ := List.cons.inj hrest
          exact hacross gap rest before after rfl rfl rfl

theorem Everywhere.append_apart {mark : Char} (hP : IsStable P) (hmark : mark ∉ word)
    (hs : Everywhere P word s) (ht : Everywhere P word t) : Everywhere P word (s ++ mark :: t) := by
  refine hs.append_mark hP ht ?_
  rintro u v before after rfl
  simp at hmark

theorem Everywhere.append_word {first : Char} {rest : List Char} (hP : IsStable P) (hfirst : first ∉ rest)
    (hs : Everywhere P (first :: rest) s) (ht : Everywhere P (first :: rest) t)
    (hhere : ∀ after, t = rest ++ after → P s after) :
    Everywhere P (first :: rest) (s ++ first :: t) := by
  refine hs.append_mark hP ht ?_
  intro u v before after hword hbefore hafter
  cases u with
  | nil =>
      obtain ⟨-, rfl⟩ := List.cons.inj hword
      rw [List.append_nil] at hbefore
      exact hbefore ▸ hhere after hafter
  | cons c u =>
      obtain ⟨-, rfl⟩ := List.cons.inj hword
      simp at hfirst

theorem Misses.mono (h : Misses word t) (hs : s ⊆ t) : Misses word s := by
  obtain ⟨c, hc, hnot⟩ := h
  exact ⟨c, hc, fun hmem => hnot (hs hmem)⟩

theorem Everywhere.lead (hP : IsStable P) (hclose : Closes word s) (hmiss : Misses word s)
    (ht : Everywhere P word t) : Everywhere P word (s ++ t) := by
  rcases List.eq_nil_or_concat s with rfl | ⟨s, mark, rfl⟩
  · exact ht
  · have hmark : mark ∉ word := by simpa [Closes] using hclose
    have hs : Everywhere P word s := (hmiss.mono (by simp)).everywhere
    simpa using hs.append_apart hP hmark ht

theorem Everywhere.tail (hP : IsStable P) (hs : Everywhere P word s) (hopen : Opens word t)
    (hmiss : Misses word t) : Everywhere P word (s ++ t) := by
  cases t with
  | nil => simpa using hs
  | cons mark t =>
      have hmark : mark ∉ word := by simpa [Opens] using hopen
      exact hs.append_apart hP hmark (hmiss.mono (List.subset_cons_self mark t)).everywhere

theorem Everywhere.append_between {mid : List Char} (hP : IsStable P) (hs : Everywhere P word s)
    (hopen : Opens word mid) (hclose : Closes word mid) (hmiss : Misses word mid)
    (ht : Everywhere P word t) : Everywhere P word (s ++ mid ++ t) := by
  cases mid with
  | nil => simp [Opens] at hopen
  | cons mark mid =>
      have hmark : mark ∉ word := by simpa [Opens] using hopen
      rw [List.append_assoc, List.cons_append]
      refine hs.append_apart hP hmark ?_
      cases mid with
      | nil => exact ht
      | cons c mid => exact ht.lead hP hclose (hmiss.mono (List.subset_cons_self mark _))

theorem everywhere_nil (hne : word ≠ []) : Everywhere P word [] := by
  intro before after h
  simp [hne] at h

theorem everywhere_join {mark : String} (hP : IsStable P) (hopen : Opens word mark.toList)
    (hclose : Closes word mark.toList) (hmiss : Misses word mark.toList) {texts : List String}
    (h : ∀ s ∈ texts, Everywhere P word s.toList) : Everywhere P word (join mark texts).toList := by
  induction texts with
  | nil =>
      obtain ⟨c, hc, -⟩ := hmiss
      exact everywhere_nil (List.ne_nil_of_mem hc)
  | cons s rest ih =>
      have hs := h s List.mem_cons_self
      cases rest with
      | nil => exact hs
      | cons t rest =>
          rw [toList_join_cons _ _ (List.cons_ne_nil t rest)]
          exact hs.append_between hP hopen hclose hmiss
            (ih fun u hu => h u (List.mem_cons_of_mem s hu))

end

end Text

end Workgraph
