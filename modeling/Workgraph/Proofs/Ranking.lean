import Mathlib.Data.Finset.Card
import Workgraph.Proofs.Numbers
import Workgraph.Proofs.Recommendations

/-!
# Ranking

Whole scores have a total order, so recommendations with such scores are sorted: by falling scores, and where
scores are equal by their places in the list. The first ten of this order are the best ones. The reasons are
counted before the others are dropped.
-/

namespace Workgraph

namespace Value

private theorem exists_collected (texts : List String) {seen : List String} (hseen : seen.Nodup) :
    ∃ found : List String,
      (texts.map Value.text).foldl (fun seen x => if isAmong x seen then seen else seen ++ [x])
        (seen.map .text) = found.map .text ∧
      found.Nodup ∧ ∀ s, s ∈ found ↔ s ∈ seen ∨ s ∈ texts := by
  induction texts generalizing seen with
  | nil => exact ⟨seen, rfl, hseen, by simp⟩
  | cons text rest ih =>
      rw [List.map_cons, List.foldl_cons, isAmong_texts]
      split <;> rename_i hamong
      · have hmem : text ∈ seen := by simpa using hamong
        obtain ⟨found, hfound, hnodup, hall⟩ := ih hseen
        refine ⟨found, hfound, hnodup, fun s => ?_⟩
        rw [hall, List.mem_cons]
        refine ⟨Or.imp_right .inr, ?_⟩
        rintro (hs | rfl | hs)
        · exact .inl hs
        · exact .inl hmem
        · exact .inr hs
      · have hnew : text ∉ seen := by simpa using hamong
        have hlonger : (seen ++ [text]).Nodup :=
          List.nodup_append.2 ⟨hseen, List.nodup_singleton text, by
            rintro s hs t ht rfl
            exact hnew (List.mem_singleton.1 ht ▸ hs)⟩
        obtain ⟨found, hfound, hnodup, hall⟩ := ih hlonger
        rw [List.map_append] at hfound
        refine ⟨found, hfound, hnodup, fun s => ?_⟩
        rw [hall, List.mem_append, List.mem_singleton, List.mem_cons, or_assoc]

private theorem distinctCount_texts (texts : List String) :
    distinctCount (texts.map .text) = .ok texts.toFinset.card := by
  obtain ⟨found, hfound, hnodup, hall⟩ := exists_collected texts List.nodup_nil
  rw [List.map_nil] at hfound
  have hatoms : (texts.map Value.text).all isAtom = true := by simp [isAtom]
  have hsame : texts.toFinset = found.toFinset := by
    ext s
    simp [hall]
  rw [distinctCount, if_pos hatoms, hfound, List.length_map, hsame,
    List.toFinset_card_of_nodup hnodup]

end Value

namespace Ranking

private theorem isProperNumber_int (n : Int) : isProperNumber (.int n) = true := by
  simp [isProperNumber, Value.number?, Number.compare?_int]

private theorem notAfter_int (m n : Int) : notAfter (.int m) (.int n) = decide (m ≤ n) := by
  rw [notAfter, Value.order_of_number? rfl rfl, Number.compare?_int]
  cases h : compare m n <;> grind

end Ranking

namespace Recommendations

open Step

/-- A recommendation with a whole number as its score and a text as its reason. -/
structure Rated where
  record : Fields
  score : Int
  reason : String
  score_eq : Fields.get? "score" record = some (.int score)
  reason_eq : Fields.get? "reason" record = some (.text reason)

namespace Rated

def value (rated : Rated) : Value := .record rated.record

def entry (rated : Rated) : Entry :=
  ⟨rated.record, .int rated.score, rated.reason, rated.score_eq, rated.reason_eq⟩

/-- Whether one recommendation may stand before another. -/
def mayPrecede (first second : Rated) : Bool := decide (second.score ≤ first.score)

theorem mayPrecede_iff {first second : Rated} :
    first.mayPrecede second = true ↔ second.score ≤ first.score :=
  decide_eq_true_iff

private theorem mayPrecede_trans (first second third : Rated) (h : first.mayPrecede second = true)
    (h' : second.mayPrecede third = true) : first.mayPrecede third = true :=
  mayPrecede_iff.2 ((mayPrecede_iff.1 h').trans (mayPrecede_iff.1 h))

private theorem mayPrecede_total (first second : Rated) :
    (first.mayPrecede second || second.mayPrecede first) = true := by
  rw [Bool.or_eq_true, mayPrecede_iff, mayPrecede_iff]
  exact Int.le_total _ _

private theorem sort_entries (rated : List Rated) :
    Ranking.sort ((rated.map entry).map Entry.keyed) =
      (((rated.mergeSort mayPrecede).map entry).map Entry.keyed, none) := by
  have hordered : Ranking.isOrdered (((rated.map entry).map Entry.keyed).map Ranking.Keyed.key) = true := by
    simp [Ranking.isOrdered, Entry.keyed, entry, Ranking.isProperNumber_int]
  have hmap : (rated.mergeSort mayPrecede).map (Entry.keyed ∘ entry) =
      (rated.map (Entry.keyed ∘ entry)).mergeSort fun a b => Ranking.notAfter b.key a.key := by
    apply List.map_mergeSort
    intro first _ second _
    exact (Ranking.notAfter_int _ _).symm
  rw [Ranking.sort, if_pos hordered, Ranking.sortOrdered, List.map_map, List.map_map, hmap]

theorem map_value_entry (rated : List Rated) : (rated.map entry).map Entry.value = rated.map value := by
  rw [List.map_map]
  rfl

end Rated

/-- The recommendations with their places in the list, by falling scores, and where scores are equal by their
places. -/
def ranked (rated : List Rated) : List (Rated × Nat) :=
  rated.zipIdx.mergeSort (List.zipIdxLE Rated.mayPrecede)

private theorem map_fst_ranked (rated : List Rated) :
    (ranked rated).map Prod.fst = rated.mergeSort Rated.mayPrecede :=
  List.mergeSort_zipIdx

theorem perm_ranked (rated : List Rated) : (ranked rated).Perm rated.zipIdx :=
  List.mergeSort_perm _ _

theorem mem_ranked_iff {rated : List Rated} {entry : Rated} {place : Nat} :
    (entry, place) ∈ ranked rated ↔ rated[place]? = some entry := by
  rw [(perm_ranked rated).mem_iff, List.mk_mem_zipIdx_iff_getElem?]

theorem nodup_places_ranked (rated : List Rated) : ((ranked rated).map Prod.snd).Nodup := by
  have hplaces : (rated.zipIdx.map Prod.snd).Nodup := by
    rw [List.zipIdx_map_snd]
    exact List.nodup_range'
  exact ((perm_ranked rated).map Prod.snd).nodup_iff.2 hplaces

/-- One recommendation with its place stands before another: its score is higher, or equal and its place
comes first. -/
def Outranks (first second : Rated × Nat) : Prop :=
  second.1.score < first.1.score ∨ second.1.score = first.1.score ∧ first.2 < second.2

private theorem outranks_of_zipIdxLE {first second : Rated × Nat} (hne : first.2 ≠ second.2)
    (h : List.zipIdxLE Rated.mayPrecede first second = true) : Outranks first second := by
  unfold List.zipIdxLE at h
  unfold Outranks
  simp only [Rated.mayPrecede_iff] at h
  grind

theorem pairwise_ranked (rated : List Rated) : (ranked rated).Pairwise Outranks := by
  have hsorted : (ranked rated).Pairwise fun a b => List.zipIdxLE Rated.mayPrecede a b = true :=
    List.pairwise_mergeSort (List.zipIdxLE_trans Rated.mayPrecede_trans)
      (List.zipIdxLE_total Rated.mayPrecede_total) _
  have hplaces := List.pairwise_map.1 (nodup_places_ranked rated)
  exact hplaces.imp₂ (fun _ _ => outranks_of_zipIdxLE) hsorted

/-- The best recommendations of a list, each with its place there: up to ten, none taken twice, in order, and
none of those left out has a higher score. -/
structure AreBest (rated : List Rated) (chosen : List (Rated × Nat)) : Prop where
  placed : ∀ entry place, (entry, place) ∈ chosen → rated[place]? = some entry
  once : (chosen.map Prod.snd).Nodup
  length_eq : chosen.length = min 10 rated.length
  falling : chosen.Pairwise Outranks
  best : ∀ entry place, rated[place]? = some entry → place ∉ chosen.map Prod.snd →
    ∀ other ∈ chosen, entry.score ≤ other.1.score

theorem areBest_take (rated : List Rated) : AreBest rated ((ranked rated).take kept) where
  placed entry place h := mem_ranked_iff.1 (List.mem_of_mem_take h)
  once := (nodup_places_ranked rated).sublist ((List.take_sublist _ _).map Prod.snd)
  length_eq := by rw [List.length_take, (perm_ranked rated).length_eq, List.length_zipIdx, kept]
  falling := (pairwise_ranked rated).sublist (List.take_sublist _ _)
  best := by
    intro entry place hentry hplace other hother
    have hsplit := pairwise_ranked rated
    rw [← List.take_append_drop kept (ranked rated), List.pairwise_append] at hsplit
    have hmem := mem_ranked_iff.2 hentry
    rw [← List.take_append_drop kept (ranked rated), List.mem_append] at hmem
    rcases hmem with htaken | hdropped
    · exact absurd (List.mem_map_of_mem htaken) hplace
    · rcases hsplit.2.2 other hother _ hdropped with hlower | ⟨heq, -⟩
      · exact Int.le_of_lt hlower
      · exact Int.le_of_eq heq

def reasonCount (rated : List Rated) : Nat := (rated.map Rated.reason).toFinset.card

private theorem reasonCount_of_perm {rated other : List Rated} (h : rated.Perm other) :
    reasonCount rated = reasonCount other := by
  rw [reasonCount, List.toFinset_eq_of_perm _ _ (h.map Rated.reason), reasonCount]

/-- The confidence is a number in the range of doubles. -/
def HasConfidence (fields : Fields) : Prop :=
  ∃ v a x, Fields.get? "confidence_score" fields = some v ∧ v.number? = some a ∧ a.toFloat = .ok x

def RisesTo (fields : Fields) (higher : Value) : Prop :=
  ∃ v, Fields.get? "confidence_score" fields = some v ∧ raised v = .ok higher

section Step

variable {fields : Fields} {rated : List Rated} {higher : Value}

private theorem HasConfidence.exists_risesTo (h : HasConfidence fields) : ∃ higher, RisesTo fields higher := by
  obtain ⟨v, a, x, hget, hv, hx⟩ := h
  have hsum : a.add (.float 0.1) = .ok (.float (x + 0.1)) := by
    cases a <;> simp only [Number.add, Number.combine, hx, ok_bind] <;> rfl
  have hadd : v.add (.float 0.1) = .ok (.float (x + 0.1)) := by
    cases v <;> cases hv <;> simp only [Value.add, Value.number, Value.number?, ok_bind, hsum] <;> rfl
  have hless := Value.less_of_number? (v := .float 1.0) (w := .float (x + 0.1)) rfl rfl
  have hraised : ∃ higher, raised v = .ok higher := by
    simp only [raised, hadd, hless, ok_bind]
    split
    · exact ⟨_, rfl⟩
    · exact ⟨_, rfl⟩
  obtain ⟨higher, hhigher⟩ := hraised
  exact ⟨higher, v, hget, hhigher⟩

private theorem RisesTo.unique {other : Value} (h : RisesTo fields higher) (h' : RisesTo fields other) :
    higher = other := by
  obtain ⟨v, hv, hhigher⟩ := h
  obtain ⟨w, hw, hother⟩ := h'
  rw [hv] at hw
  cases hw
  rw [hhigher] at hother
  exact Except.ok.inj hother

private theorem raiseConfidence_holding (h : RisesTo fields higher) (session : Session) :
    raiseConfidence (session.holding fields) =
      .ok () (session.holding (Fields.set "confidence_score" higher fields)) := by
  obtain ⟨v, hv, hhigher⟩ := h
  simp only [raiseConfidence, bind_apply, read_holding hv, hhigher, liftM_ok, pure_apply, write_holding]

private theorem leaves_raiseConfidence (h : ∀ higher, ¬RisesTo fields higher) (session : Session) :
    raiseConfidence.leaves (session.holding fields) = session.holding fields := by
  unfold raiseConfidence
  cases hget : Fields.get? "confidence_score" fields with
  | none =>
      have hread : Step.read "confidence_score" (session.holding fields) =
          .error (.missingKey "confidence_score") (session.holding fields) := by
        simp [Step.read, Session.holding, Value.field, hget]
      exact leaves_bind_of_error hread
  | some v =>
      rw [leaves_bind_of_ok (read_holding hget session)]
      cases hraised : raised v with
      | ok higher => exact absurd ⟨v, hget, hraised⟩ (h higher)
      | error fault => rfl

def keepingBest (rated : List Rated) (fields : Fields) : Fields :=
  Fields.set "recommendations" (.list (((ranked rated).take kept).map (·.1.value))) fields

theorem rank_holding
    (h : Fields.get? "recommendations" fields = some (.list (rated.map Rated.value)))
    (session : Session) : rank (session.holding fields) =
      if 3 < reasonCount rated then raiseConfidence (session.holding (keepingBest rated fields))
      else .ok () (session.holding (keepingBest rated fields)) := by
  have hbest : keeping ((rated.mergeSort Rated.mayPrecede).map Rated.entry) fields =
      keepingBest rated fields := by
    rw [keeping, Rated.map_value_entry, ← map_fst_ranked, List.map_map, ← List.map_take]
    rfl
  have hcount : Value.distinctCount (((rated.mergeSort Rated.mayPrecede).map Rated.entry).map
      (Value.text ·.reason)) = .ok (reasonCount rated) := by
    rw [List.map_map, reasonCount_of_perm (List.mergeSort_perm rated Rated.mayPrecede).symm, reasonCount,
      ← Value.distinctCount_texts, List.map_map]
    rfl
  rw [← Rated.map_value_entry] at h
  rw [rank_of_sort h (Rated.sort_entries rated) hcount, hbest]

/-- What a ranking leaves: the chosen recommendations in place of all, and the confidence raised if it can be and
all recommendations together have more than three reasons. -/
structure IsRanking (rated : List Rated) (chosen : List (Rated × Nat)) (fields final : Fields) : Prop where
  stored : Fields.get? "recommendations" final = some (.list (chosen.map (·.1.value)))
  others : Fields.EqOutside ["recommendations", "confidence_score"] fields final
  alike : reasonCount rated ≤ 3 →
    Fields.get? "confidence_score" final = Fields.get? "confidence_score" fields
  diverse : 3 < reasonCount rated → ∀ higher, RisesTo fields higher →
    Fields.get? "confidence_score" final = some higher

theorem eqOutside_keepingBest (rated : List Rated) (fields : Fields) :
    Fields.EqOutside ["recommendations"] fields (keepingBest rated fields) :=
  (Fields.EqOutside.refl _ _).set (List.mem_singleton_self _) _

theorem get?_confidence_keepingBest (rated : List Rated) (fields : Fields) :
    Fields.get? "confidence_score" (keepingBest rated fields) = Fields.get? "confidence_score" fields :=
  eqOutside_keepingBest rated fields "confidence_score" (by decide)

theorem risesTo_keepingBest_iff :
    RisesTo (keepingBest rated fields) higher ↔ RisesTo fields higher := by
  rw [RisesTo, get?_confidence_keepingBest, RisesTo]

theorem isRanking_keepingBest (h : 3 < reasonCount rated → ∀ higher, ¬RisesTo fields higher) :
    IsRanking rated ((ranked rated).take kept) fields (keepingBest rated fields) where
  stored := Fields.get?_set_self _ _ _
  others := (eqOutside_keepingBest rated fields).mono (by simp)
  alike _ := get?_confidence_keepingBest rated fields
  diverse hmany higher hhigher := absurd hhigher (h hmany higher)

private theorem isRanking_raised (hmany : 3 < reasonCount rated) (hhigher : RisesTo fields higher) :
    IsRanking rated ((ranked rated).take kept) fields
      (Fields.set "confidence_score" higher (keepingBest rated fields)) where
  stored := by
    rw [Fields.get?_set_of_ne _ (by decide)]
    exact Fields.get?_set_self _ _ _
  others := ((eqOutside_keepingBest rated fields).mono (by simp)).set (by simp) _
  alike hfew := absurd hmany (Nat.not_lt.2 hfew)
  diverse _ other hother := by
    rw [hhigher.unique hother]
    exact Fields.get?_set_self _ _ _

/-- The best ten recommendations are kept, in order, whatever the confidence is. The ranking fails only if there
are more than three reasons and the confidence is no number that could be raised. -/
theorem rank_keeps_best (session : Session)
    (h : Fields.get? "recommendations" fields = some (.list (rated.map Rated.value))) :
    ∃ chosen final, AreBest rated chosen ∧ IsRanking rated chosen fields final ∧
      rank.leaves (session.holding fields) = session.holding final ∧
      (reasonCount rated ≤ 3 ∨ HasConfidence fields →
        rank (session.holding fields) = .ok () (session.holding final)) := by
  have hrank := rank_holding h session
  refine ⟨(ranked rated).take kept, ?_⟩
  by_cases hmany : 3 < reasonCount rated
  · rw [if_pos hmany] at hrank
    by_cases hcan : ∃ higher, RisesTo fields higher
    · obtain ⟨higher, hhigher⟩ := hcan
      rw [raiseConfidence_holding (risesTo_keepingBest_iff.2 hhigher)] at hrank
      exact ⟨_, areBest_take rated, isRanking_raised hmany hhigher, leaves_of_ok hrank, fun _ => hrank⟩
    · have hnone (higher : Value) : ¬RisesTo fields higher := fun hhigher => hcan ⟨higher, hhigher⟩
      have hstuck (higher : Value) : ¬RisesTo (keepingBest rated fields) higher :=
        mt risesTo_keepingBest_iff.1 (hnone higher)
      have hleaves := leaves_raiseConfidence hstuck session
      rw [leaves, ← hrank] at hleaves
      refine ⟨_, areBest_take rated, isRanking_keepingBest fun _ => hnone, hleaves, ?_⟩
      rintro (hfew | hnumber)
      · exact absurd hmany (Nat.not_lt.2 hfew)
      · exact absurd hnumber.exists_risesTo hcan
  · rw [if_neg hmany] at hrank
    exact ⟨_, areBest_take rated, isRanking_keepingBest fun h => absurd h hmany, leaves_of_ok hrank,
      fun _ => hrank⟩

end Step

def Rated.ofProduct (product : Int) (score : Int) (reason : String) : Rated where
  record := [("product_id", .int product), ("score", .int score), ("reason", .text reason)]
  score := score
  reason := reason
  score_eq := rfl
  reason_eq := rfl

/-- Twelve recommendations with two scores, so that equal scores stand on both sides of the cut. The fourth reason
is that of the last one, which is left out. -/
def twoTiers : List Rated :=
  (List.range 12).map fun n : Nat => .ofProduct n (if n % 3 = 0 then 7 else -7)
    (if n = 11 then "new" else ["a", "b", "c"].getD (n % 3) "")

def visitWith (rated : List Rated) (confidence : Value) : Fields :=
  [("recommendations", .list (rated.map Rated.value)), ("confidence_score", confidence)]

/-- The confidence rises for a reason that is left out. -/
theorem rank_twoTiers : ∃ chosen final,
    AreBest twoTiers chosen ∧ IsRanking twoTiers chosen (visitWith twoTiers (.float 0.5)) final ∧
      3 < reasonCount twoTiers ∧
      rank (Session.holding { state := .null } (visitWith twoTiers (.float 0.5))) =
        .ok () (Session.holding { state := .null } final) := by
  have hgiven : Fields.get? "recommendations" (visitWith twoTiers (.float 0.5)) =
      some (.list (twoTiers.map Rated.value)) := rfl
  obtain ⟨chosen, final, hbest, hranking, -, hrun⟩ :=
    rank_keeps_best { state := .null } hgiven
  exact ⟨chosen, final, hbest, hranking, by decide, hrun (.inr ⟨.float 0.5, .float 0.5, 0.5, rfl, rfl, rfl⟩)⟩

end Recommendations

end Workgraph
