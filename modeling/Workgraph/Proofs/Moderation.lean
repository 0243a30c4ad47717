import Mathlib.Data.List.Basic
import Workgraph.Proofs.Texts
import Workgraph.Proofs.Walks
import Workgraph.Workflows.Moderation

/-!
# Moderation and longer contents

A word that occurs in the lower case of a text occurs in the lower case of every longer text, although
the small form of a sigma depends on what stands around it. So a longer content raises the same flags and
maybe more, and is judged at least as strictly.
-/

namespace Workgraph

namespace Text

/-- A character with the two small sigmas taken as one. -/
def mergeSigma (c : Char) : Char := if c = 'ς' then 'σ' else c

/-- What stands around a character decides between the two small sigmas and nothing else. -/
theorem map_lowerWithin (cased : Bool) (c : Char) (rest : List Char) :
    (lowerWithin cased c rest).map mergeSigma = (lowerWithin false c []).map mergeSigma := by
  unfold lowerWithin
  split
  · cases cased && !leadsToCased rest <;> rfl
  · rfl

private theorem map_lowerFrom (cased : Bool) (s : List Char) :
    (lowerFrom cased s).map mergeSigma =
      s.flatMap fun c => (lowerWithin false c []).map mergeSigma := by
  induction s generalizing cased with
  | nil => rfl
  | cons c rest ih => rw [lowerFrom, List.map_append, map_lowerWithin, ih, List.flatMap_cons]

theorem map_lower_append (s t : List Char) :
    (lower (s ++ t)).map mergeSigma = (lower s).map mergeSigma ++ (lower t).map mergeSigma := by
  simp only [lower, map_lowerFrom, List.flatMap_append]

def IsSigmaFree (s : List Char) : Prop := 'σ' ∉ s ∧ 'ς' ∉ s

instance (s : List Char) : Decidable (IsSigmaFree s) := inferInstanceAs (Decidable (_ ∧ _))

private theorem eq_of_map_mergeSigma {s word : List Char} (hword : IsSigmaFree word)
    (h : s.map mergeSigma = word) : s = word := by
  have hsame (c : Char) (hc : c ∈ s) : mergeSigma c = c := by
    have hmem : mergeSigma c ∈ word := h ▸ List.mem_map_of_mem hc
    unfold mergeSigma at hmem ⊢
    split at hmem
    · exact absurd hmem hword.1
    · rename_i hne
      rw [if_neg hne]
  rw [← h, List.map_congr_left hsame, List.map_id']

private theorem map_mergeSigma {word : List Char} (hword : IsSigmaFree word) : word.map mergeSigma = word := by
  have hsame (c : Char) (hc : c ∈ word) : mergeSigma c = c := by
    rw [mergeSigma, if_neg]
    exact ne_of_mem_of_not_mem hc hword.2
  rw [List.map_congr_left hsame, List.map_id']

private theorem infix_map_mergeSigma_iff {word : List Char} (hword : IsSigmaFree word) (s : List Char) :
    word <:+: s.map mergeSigma ↔ word <:+: s := by
  constructor
  · rintro ⟨before, after, h⟩
    obtain ⟨start, last, rfl, hstart, -⟩ := List.map_eq_append_iff.1 h.symm
    obtain ⟨first, middle, rfl, -, hmiddle⟩ := List.map_eq_append_iff.1 hstart
    obtain rfl := eq_of_map_mergeSigma hword hmiddle
    exact ⟨first, last, rfl⟩
  · intro h
    have hmap := h.map mergeSigma
    rwa [map_mergeSigma hword] at hmap

theorem infix_lower_append {word s : List Char} (hword : IsSigmaFree word) (h : word <:+: lower s)
    (before after : List Char) : word <:+: lower (before ++ s ++ after) := by
  rw [← infix_map_mergeSigma_iff hword] at h ⊢
  rw [map_lower_append, map_lower_append]
  exact (h.trans (List.suffix_append _ _).isInfix).trans (List.prefix_append _ _).isInfix

end Text

theorem Value.joined_texts (mark : String) (texts : List String) :
    (Value.list (texts.map .text)).joined mark = .ok (Text.join mark texts) := by
  rw [joined, members, ok_bind, mapM_map_of_ok (h := id), ok_bind, List.map_id]
  · rfl
  · exact fun _ => rfl

namespace Moderation

open Step

/-- What becomes of a content, from the mildest to the strictest. -/
inductive Verdict where
  | approve
  | review
  | reject
  deriving DecidableEq

namespace Verdict

def strictness : Verdict → Nat
  | approve => 0
  | review => 1
  | reject => 2

instance : LE Verdict := ⟨fun mild strict => mild.strictness ≤ strict.strictness⟩

def decision : Verdict → String
  | approve => "approve"
  | review => "review_pending"
  | reject => "reject"

def severity : Verdict → String
  | approve => "safe"
  | review => "warning"
  | reject => "dangerous"

def ofCount (count : Nat) : Verdict :=
  if count = 0 then approve else if count ≤ 2 then review else reject

private theorem ofCount_le {m n : Nat} (h : m ≤ n) : ofCount m ≤ ofCount n := by
  show (ofCount m).strictness ≤ (ofCount n).strictness
  unfold ofCount
  split
  · exact Nat.zero_le _
  · rw [if_neg (by omega : n ≠ 0)]
    split
    · split <;> decide
    · have hmany : ¬ n ≤ 2 := by omega
      simp only [if_neg hmany, Nat.le_refl]

end Verdict

def flagsFor (label : String) (words : List String) (content : String) : List String :=
  (words.filter fun word => Text.occurs word.toList (Text.lower content.toList)).map fun word =>
    label ++ ":" ++ word

def allFlags (flags : List String) (content : String) : List String :=
  flags ++ flagsFor "keyword" prohibitedWords content ++ flagsFor "toxic" toxicWords content

theorem flagsFor_sublist (label : String) (words : List String)
    (hwords : ∀ word ∈ words, Text.IsSigmaFree word.toList) (before content after : String) :
    (flagsFor label words content).Sublist
      (flagsFor label words (before ++ content ++ after)) := by
  have hkept (word : String) (hword : word ∈ words) :
      Text.occurs word.toList (Text.lower content.toList) =
        (Text.occurs word.toList (Text.lower content.toList) &&
          Text.occurs word.toList (Text.lower (before ++ content ++ after).toList)) := by
    rw [Bool.eq_iff_iff, Bool.and_eq_true, iff_self_and]
    simp only [Text.occurs_iff_infix, String.toList_append]
    exact fun hoccurs => Text.infix_lower_append (hwords word hword) hoccurs _ _
  rw [flagsFor, List.filter_congr hkept, ← List.filter_filter]
  exact List.filter_sublist.map _

private theorem allFlags_sublist (flags : List String) (before content after : String) :
    (allFlags flags content).Sublist (allFlags flags (before ++ content ++ after)) := by
  have hkeyword := flagsFor_sublist "keyword" prohibitedWords (by decide) before content after
  have htoxic := flagsFor_sublist "toxic" toxicWords (by decide) before content after
  exact ((List.Sublist.refl flags).append hkeyword).append htoxic

/-- A record with this content and these flags, and with whether a person has to look at it. -/
structure IsPost (fields : Fields) (content : String) (flags : List String) (review : Bool) : Prop where
  content : Fields.get? "content" fields = some (.text content)
  flags : Fields.get? "flags" fields = some (.list (flags.map .text))
  review : Fields.get? "human_review_required" fields = some (.bool review)

section Nodes

variable {fields : Fields} {content : String} {flags : List String} {review : Bool} {verdict : Verdict}

theorem IsPost.set (h : IsPost fields content flags review) {key : String}
    (hkey : key ∉ ["content", "flags", "human_review_required"]) (value : Value) :
    IsPost (Fields.set key value fields) content flags review where
  content := (Fields.get?_set_of_mem hkey (by simp) fields value).trans h.content
  flags := (Fields.get?_set_of_mem hkey (by simp) fields value).trans h.flags
  review := (Fields.get?_set_of_mem hkey (by simp) fields value).trans h.review

theorem IsPost.set_flags (h : IsPost fields content flags review) (raised : List String) :
    IsPost (Fields.set "flags" (.list (raised.map .text)) fields) content raised review where
  content := (Fields.get?_set_of_ne fields (by decide) _).trans h.content
  flags := Fields.get?_set_self ..
  review := (Fields.get?_set_of_ne fields (by decide) _).trans h.review

private theorem IsPost.set_review (h : IsPost fields content flags review) (asked : Bool) :
    IsPost (Fields.set "human_review_required" (.bool asked) fields) content flags asked where
  content := (Fields.get?_set_of_ne fields (by decide) _).trans h.content
  flags := (Fields.get?_set_of_ne fields (by decide) _).trans h.flags
  review := Fields.get?_set_self ..

private theorem raisedFlags_eq (label : String) (words : List String) (content : String) :
    raisedFlags label words (Text.lower content.toList) =
      (flagsFor label words content).map .text := by
  rw [raisedFlags, flagsFor, List.map_map]
  rfl

theorem raiseFlags_holding (h : IsPost fields content flags review) (label : String)
    (words : List String) (session : Session) : raiseFlags label words (session.holding fields) =
      .ok () (session.holding
        (Fields.set "flags" (.list ((flags ++ flagsFor label words content).map .text)) fields)) := by
  simp only [raiseFlags, bind_apply, read_holding h.content, read_holding h.flags, Value.chars, liftM_ok,
    pure_apply, raisedFlags_eq]
  cases flagsFor label words content with
  | nil =>
      rw [List.append_nil]
      rfl
  | cons flag rest =>
      simp only [List.map_cons, Value.items, liftM_ok, bind_apply, pure_apply, write_holding,
        List.map_append]

theorem classify_holding (h : IsPost fields content flags review) (session : Session) :
    classify (session.holding fields) = .ok () (session.holding
      (Fields.set "severity" (.text (Verdict.ofCount flags.length).severity) fields)) := by
  simp only [classify, bind_apply, read_holding h.flags, Value.size, List.length_map, liftM_ok,
    pure_apply]
  unfold Verdict.ofCount
  split
  · rfl
  · split <;> rfl

private theorem exists_decideAlone (h : IsPost fields content flags false)
    (hseverity : Fields.get? "severity" fields = some (.text verdict.severity)) (session : Session) :
    ∃ decided, decideAlone (session.holding fields) = .ok () (session.holding decided) ∧
      IsPost decided content flags (verdict = .review) ∧
      (verdict ≠ .review →
        Fields.get? "final_decision" decided = some (.text verdict.decision)) := by
  have hsafe : holds "severity" "safe" (session.holding fields) =
      .ok (verdict = .approve) (session.holding fields) := by
    rw [holds_of_read (read_holding hseverity session)]
    cases verdict <;> rfl
  have hdangerous : holds "severity" "dangerous" (session.holding fields) =
      .ok (verdict = .reject) (session.holding fields) := by
    rw [holds_of_read (read_holding hseverity session)]
    cases verdict <;> rfl
  rw [decideAlone, bind_apply, hsafe]
  cases verdict with
  | approve =>
      refine ⟨_, rfl, ((h.set (by decide) _).set (by decide) _).set (by decide) _, fun _ => ?_⟩
      simp [Fields.get?_set, Verdict.decision]
  | review =>
      simp only [reduceCtorEq, decide_false, Bool.false_eq_true, if_false, bind_apply, hdangerous,
        write_holding]
      exact ⟨_, rfl, (h.set (by decide) _).set_review true, fun hne => absurd rfl hne⟩
  | reject =>
      have hrejected : IsPost (Fields.set "final_decision" "reject"
          (Fields.set "auto_decision" "reject" fields)) content flags false :=
        (h.set (by decide) _).set (by decide) _
      simp only [reduceCtorEq, decide_false, Bool.false_eq_true, if_false, bind_apply, hdangerous,
        decide_true, if_true, write_holding, read_holding hrejected.flags, Value.joined_texts, liftM_ok,
        pure_apply]
      refine ⟨_, rfl, hrejected.set (by decide) _, fun _ => ?_⟩
      simp [Fields.get?_set, Verdict.decision]

private theorem exists_queueForReview (h : IsPost fields content flags review) (session : Session) :
    ∃ queued, queueForReview (session.holding fields) = .ok () (session.holding queued) ∧
      IsPost queued content flags review ∧
      Fields.get? "final_decision" queued = some (.text Verdict.review.decision) := by
  have hqueued : IsPost (Fields.set "final_decision" "review_pending" fields) content flags review :=
    h.set (by decide) _
  simp only [queueForReview, bind_apply, write_holding, read_holding hqueued.flags, Value.joined_texts,
    liftM_ok, pure_apply]
  refine ⟨_, rfl, hqueued.set (by decide) _, ?_⟩
  simp [Fields.get?_set, Verdict.decision]

private theorem routeAfterDecision_holding (h : IsPost fields content flags review) (session : Session) :
    routeAfterDecision (session.holding fields) =
      .ok (.text (if review then "human_review" else terminal)) (session.holding fields) := by
  simp only [routeAfterDecision, bind_apply, isSet_of_read (read_holding h.review session), Value.truthy]
  split <;> rfl

end Nodes

/-- The walk ends with these flags and this verdict. -/
structure Concludes (flags : List String) (verdict : Verdict) (walk : Walk) : Prop where
  finished : walk.ending = .finished
  flags : walk.session.Has "flags" (.list (flags.map .text))
  decision : walk.session.Has "final_decision" (.text verdict.decision)

section Walks

variable {fields : Fields} {content : String} {flags : List String} {review : Bool} {verdict : Verdict}

theorem Concludes.after {walk : Walk} (h : Concludes flags verdict walk) (event : Event) :
    Concludes flags verdict (walk.after event) :=
  ⟨h.finished, h.flags, h.decision⟩

theorem concludes_terminal (h : IsPost fields content flags review)
    (hdecision : Fields.get? "final_decision" fields = some (.text verdict.decision))
    (session : Session) (limit : Nat) :
    Concludes flags verdict (workflow.walkFrom limit terminal (session.holding fields)) := by
  rw [Workflow.walkFrom_terminal]
  exact ⟨rfl, Session.has_holding_iff.2 h.flags, Session.has_holding_iff.2 hdecision⟩

private theorem concludes_decision (h : IsPost fields content flags false)
    (hseverity : Fields.get? "severity" fields = some (.text verdict.severity)) (session : Session)
    (limit : Nat) : Concludes flags verdict
      (workflow.walkFrom (limit + 2) "auto_moderator" (session.holding fields)) := by
  obtain ⟨decided, hrun, hdecided, hdecision⟩ := exists_decideAlone h hseverity session
  have hroute := routeAfterDecision_holding hdecided session
  by_cases hreview : verdict = .review
  · subst hreview
    obtain ⟨queued, hqueue, hqueued, hpending⟩ := exists_queueForReview hdecided session
    rw [Workflow.walkFrom_branching (by decide) rfl hrun rfl hroute rfl,
      Workflow.walkFrom_edge (by decide) rfl hqueue rfl rfl]
    exact (((concludes_terminal hqueued hpending session limit).after _).after _).after _
  · simp only [hreview, decide_false, Bool.false_eq_true, if_false] at hroute
    rw [Workflow.walkFrom_branching (by decide) rfl hrun rfl hroute rfl]
    exact ((concludes_terminal hdecided (hdecision hreview) session _).after _).after _

theorem concludes_walk (h : IsPost fields content flags false) (session : Session) (limit : Nat) :
    Concludes (allFlags flags content) (.ofCount (allFlags flags content).length)
      (workflow.walk (limit + 5) (session.holding fields)) := by
  have hkeyword := raiseFlags_holding h "keyword" prohibitedWords session
  have hflagged := h.set_flags (flags ++ flagsFor "keyword" prohibitedWords content)
  have htoxic := raiseFlags_holding hflagged "toxic" toxicWords session
  have hchecked := hflagged.set_flags (allFlags flags content)
  have hclassify := classify_holding hchecked session
  show Concludes _ _ (workflow.walkFrom (limit + 5) "keyword_filter" _)
  rw [Workflow.walkFrom_edge (by decide) rfl hkeyword rfl rfl,
    Workflow.walkFrom_edge (by decide) rfl htoxic rfl rfl,
    Workflow.walkFrom_edge (by decide) rfl hclassify rfl rfl]
  refine ((Concludes.after ?_ _).after _).after _
  exact concludes_decision (hchecked.set (by decide) _) (Fields.get?_set_self ..) session limit

end Walks

/-- Moderation is monotone in the content. Of two walks with the same flags before, the one on a part of the
other's content ends with some of the other's flags, in their order, and with a verdict that is at most
as strict. -/
theorem walk_concludes_mono (before content after : String) {flags : List String}
    {part whole : Fields} (hpart : IsPost part content flags false)
    (hwhole : IsPost whole (before ++ content ++ after) flags false) (session other : Session)
    (limit further : Nat) :
    ∃ raised more mild strict,
      Concludes raised mild (workflow.walk (limit + 5) (session.holding part)) ∧
      Concludes more strict (workflow.walk (further + 5) (other.holding whole)) ∧
      raised.Sublist more ∧ mild ≤ strict := by
  have hsublist := allFlags_sublist flags before content after
  exact ⟨_, _, _, _, concludes_walk hpart session limit, concludes_walk hwhole other further, hsublist,
    Verdict.ofCount_le hsublist.length_le⟩

def reported (content : String) : Fields := [
  ("content", .text content), ("content_type", "text"), ("flags", .list ["report:user"]),
  ("severity", ""), ("auto_decision", ""), ("human_review_required", false), ("final_decision", ""),
  ("reason", "")]

theorem isPost_reported (content : String) : IsPost (reported content) content ["report:user"] false :=
  ⟨rfl, rfl, rfl⟩

/-- The sigma at the end of the part is a final one, and within the whole it is not. -/
theorem walk_concludes_longer_spam :
    ∃ raised more mild strict,
      Concludes raised mild
        (workflow.walk 5 (Session.holding { state := .null } (reported "SPAM ΟΔΟΣ"))) ∧
      Concludes more strict
        (workflow.walk 5 (Session.holding { state := .null }
          (reported ("Hate " ++ "SPAM ΟΔΟΣ" ++ "ΗΜΑ")))) ∧
      raised.Sublist more ∧ mild ≤ strict :=
  walk_concludes_mono "Hate " "SPAM ΟΔΟΣ" "ΗΜΑ" (isPost_reported _) (isPost_reported _)
    { state := .null } { state := .null } 0 0

end Moderation

end Workgraph
