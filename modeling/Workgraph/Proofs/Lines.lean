import Workgraph.Codegen.Listing

/-!
# Lines and marks

Cutting a text at a mark undoes joining pieces that do not hold the mark. So the text of a listing determines
its lines, and a line determines a name that a mark ends. A literal is by definition the text of its characters,
and the lemmas on literals leave only these characters to look at.
-/

namespace Workgraph

namespace Text

private theorem splitWhere_of_free {divides : Char → Bool} {s : List Char}
    (h : ∀ c ∈ s, divides c = false) : splitWhere divides s = [s] := by
  induction s with
  | nil => rfl
  | cons c rest ih =>
      have hrest : splitWhere divides rest = [rest] := by
        apply ih
        intro d hd
        exact h d (List.mem_cons_of_mem c hd)
      simp [splitWhere, h c List.mem_cons_self, hrest]

theorem splitWhere_ne_nil (divides : Char → Bool) (s : List Char) : splitWhere divides s ≠ [] := by
  cases s with
  | nil => exact List.cons_ne_nil _ _
  | cons c rest =>
      unfold splitWhere
      split
      · exact List.cons_ne_nil _ _
      · split <;> exact List.cons_ne_nil _ _

private theorem splitWhere_append {divides : Char → Bool} {mark : Char} (hmark : divides mark = true)
    (s rest : List Char) :
    splitWhere divides (s ++ mark :: rest) = splitWhere divides s ++ splitWhere divides rest := by
  induction s with
  | nil => simp [splitWhere, hmark]
  | cons c s ih =>
      rw [List.cons_append, splitWhere, splitWhere, ih]
      split
      · rfl
      · obtain ⟨piece, pieces, hsplit⟩ := List.exists_cons_of_ne_nil (splitWhere_ne_nil divides s)
        rw [hsplit]
        rfl

theorem free_of_mem_splitWhere {divides : Char → Bool} {s piece : List Char}
    (h : piece ∈ splitWhere divides s) : ∀ c ∈ piece, divides c = false := by
  induction s generalizing piece with
  | nil => simp_all [splitWhere]
  | cons c rest ih =>
      unfold splitWhere at h
      split at h
      · obtain rfl | h := List.mem_cons.1 h
        · exact nofun
        · exact ih h
      · rename_i hc
        obtain ⟨first, pieces, hsplit⟩ := List.exists_cons_of_ne_nil (splitWhere_ne_nil divides rest)
        rw [hsplit] at h ih
        obtain rfl | h := List.mem_cons.1 h
        · intro d hd
          obtain rfl | hd := List.mem_cons.1 hd
          · exact Bool.eq_false_iff.2 hc
          · exact ih List.mem_cons_self d hd
        · exact ih (List.mem_cons_of_mem first h)

theorem splitAt_append (mark : Char) (s rest : List Char) :
    splitAt mark (s ++ mark :: rest) = splitAt mark s ++ splitAt mark rest := by
  apply splitWhere_append
  exact beq_self_eq_true mark

theorem toList_join_cons (mark s : String) {rest : List String} (h : rest ≠ []) :
    (join mark (s :: rest)).toList = s.toList ++ mark.toList ++ (join mark rest).toList := by
  cases rest with
  | nil => exact absurd rfl h
  | cons t rest => simp [join]

theorem infix_join_of_mem {mark s : String} {texts : List String} (h : s ∈ texts) :
    s.toList <:+: (join mark texts).toList := by
  induction texts with
  | nil => cases h
  | cons first rest ih =>
      cases rest with
      | nil => exact List.mem_singleton.1 h ▸ List.infix_rfl
      | cons next rest =>
          rw [toList_join_cons _ _ (List.cons_ne_nil next rest)]
          obtain rfl | h := List.mem_cons.1 h
          · exact ((List.prefix_append ..).trans (List.prefix_append ..)).isInfix
          · exact (ih h).trans (List.suffix_append ..).isInfix

theorem splitAt_join {mark : Char} {texts : List String} (hne : texts ≠ []) :
    splitAt mark (join (String.singleton mark) texts).toList =
      texts.flatMap fun s => splitAt mark s.toList := by
  induction texts with
  | nil => exact absurd rfl hne
  | cons s rest ih =>
      cases rest with
      | nil => simp [join]
      | cons t rest =>
          rw [toList_join_cons _ _ (List.cons_ne_nil t rest), String.toList_singleton,
            List.append_assoc, List.singleton_append, List.flatMap_cons, ← ih (List.cons_ne_nil t rest)]
          exact splitAt_append mark s.toList _

theorem splitAt_of_not_mem {mark : Char} {s : List Char} (h : mark ∉ s) : splitAt mark s = [s] := by
  apply splitWhere_of_free
  intro c hc
  exact beq_eq_false_iff_ne.2 (ne_of_mem_of_not_mem hc h)

/-- What stands before the first mark and what stands after it are both determined. -/
theorem append_mark_inj {mark : Char} {s t : List Char} (hs : mark ∉ s) (ht : mark ∉ t)
    {r q : List Char} (h : s ++ mark :: r = t ++ mark :: q) : s = t ∧ r = q := by
  induction s generalizing t with
  | nil =>
      cases t with
      | nil => exact ⟨rfl, (List.cons.inj h).2⟩
      | cons d t =>
          have hd : mark = d := (List.cons.inj h).1
          exact absurd (hd ▸ List.mem_cons_self) ht
  | cons c s ih =>
      cases t with
      | nil =>
          have hc : c = mark := (List.cons.inj h).1
          exact absurd (hc ▸ List.mem_cons_self) hs
      | cons d t =>
          obtain ⟨rfl, hrest⟩ := List.cons.inj h
          obtain ⟨rfl, hrq⟩ := ih (fun hm => hs (List.mem_cons_of_mem c hm))
            (fun hm => ht (List.mem_cons_of_mem c hm)) hrest
          exact ⟨rfl, hrq⟩

theorem dropWhile_append {p : Char → Bool} {s : List Char} (h : s.dropWhile p ≠ []) (rest : List Char) :
    (s ++ rest).dropWhile p = s.dropWhile p ++ rest := by
  rw [List.dropWhile_append, if_neg]
  rwa [List.isEmpty_iff]

/-- Neither of two texts begins with the other. -/
def Apart (s t : List Char) : Prop := ¬ s <+: t ∧ ¬ t <+: s

instance (s t : List Char) : Decidable (Apart s t) := inferInstanceAs (Decidable (_ ∧ _))

theorem Apart.not_begins {s t : List Char} (h : Apart s t) (rest : List Char) : ¬ s <+: t ++ rest := by
  intro hbegins
  obtain hst | hts := List.prefix_or_prefix_of_prefix hbegins (List.prefix_append t rest)
  · exact h.1 hst
  · exact h.2 hts

theorem append_ne_append {s t : List Char} (h : Apart s t) (r q : String) :
    String.ofList s ++ r ≠ String.ofList t ++ q := by
  intro he
  have hchars : s ++ r.toList = t ++ q.toList := by
    simpa using congrArg String.toList he
  exact h.not_begins q.toList ⟨r.toList, hchars⟩

theorem append_ne_literal {s t : List Char} (h : Apart s t) (r : String) :
    String.ofList s ++ r ≠ String.ofList t := by
  have hne := append_ne_append h r ""
  rwa [String.append_empty] at hne

theorem append_literal_ne {s t : List Char} (h : ¬ s <:+ t) (r : String) :
    r ++ String.ofList s ≠ String.ofList t := by
  intro he
  apply h
  exact ⟨r.toList, by simpa using congrArg String.toList he⟩

theorem not_mem_literal {c : Char} {s : List Char} (h : c ∉ s) : c ∉ (String.ofList s).toList := by
  rwa [String.toList_ofList]

theorem not_mem_framed {c : Char} {lead tail : List Char} {name : String} (hlead : c ∉ lead)
    (hname : c ∉ name.toList) (htail : c ∉ tail) :
    c ∉ (String.ofList lead ++ name ++ String.ofList tail).toList := by
  simp only [String.toList_append, String.toList_ofList, List.mem_append, not_or]
  exact ⟨⟨hlead, hname⟩, htail⟩

end Text

namespace Codegen.Listing

theorem splitAt_text {lines : Listing} (hne : lines ≠ []) :
    Text.splitAt '\n' lines.text.toList = lines.flatMap fun line => Text.splitAt '\n' line.toList :=
  Text.splitAt_join hne

theorem splitAt_text_of_free {lines : Listing} (hne : lines ≠ [])
    (hfree : ∀ line ∈ lines, '\n' ∉ line.toList) :
    Text.splitAt '\n' lines.text.toList = lines.map String.toList := by
  have hlines : lines.map (fun line => Text.splitAt '\n' line.toList) =
      lines.map fun line => [line.toList] :=
    List.map_congr_left fun line hline => Text.splitAt_of_not_mem (hfree line hline)
  rw [splitAt_text hne, List.map_eq_flatMap, List.flatMap_def, List.flatMap_def, hlines]

theorem text_inj {lines others : Listing} (hlines : lines ≠ []) (hothers : others ≠ [])
    (hfree : ∀ line ∈ lines, '\n' ∉ line.toList) (hother : ∀ line ∈ others, '\n' ∉ line.toList)
    (h : lines.text = others.text) : lines = others := by
  have hsplit : lines.map String.toList = others.map String.toList := by
    rw [← splitAt_text_of_free hlines hfree, ← splitAt_text_of_free hothers hother, h]
  exact (List.map_inj_right fun _ _ => String.toList_inj.1).1 hsplit

theorem infix_text_of_mem {line : String} {lines : Listing} (h : line ∈ lines) :
    line.toList <:+: lines.text.toList :=
  Text.infix_join_of_mem h

theorem text_append {lines others : Listing} (hlines : lines ≠ []) (hothers : others ≠ []) :
    Listing.text (lines ++ others) = lines.text ++ ("\n" ++ others.text) := by
  induction lines with
  | nil => exact absurd rfl hlines
  | cons line lines ih =>
      cases lines with
      | nil =>
          obtain ⟨other, others, rfl⟩ := List.exists_cons_of_ne_nil hothers
          exact String.append_assoc
      | cons next lines =>
          have hrest := ih (List.cons_ne_nil next lines)
          show line ++ "\n" ++ Listing.text (next :: lines ++ others) = _
          rw [hrest, ← String.append_assoc]
          rfl

end Codegen.Listing

end Workgraph
