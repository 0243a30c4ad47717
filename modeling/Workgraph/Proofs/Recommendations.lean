import Mathlib.Data.List.Basic
import Workgraph.Proofs.Rendering
import Workgraph.Proofs.Texts
import Workgraph.Proofs.Walks
import Workgraph.Workflows.Recommendations

/-!
# Recommendations and the context

What the context suggests is never sure enough to be ranked, and who comes without a name has no history
to fall back on, so such a visit always ends with what is popular. A known user is never asked for a context.
So what is recommended depends on whether the user is known and on nothing else.
-/

namespace Workgraph

theorem Step.isSet_holding {fields : Fields} {key : String} {b : Bool}
    (h : (Fields.get? key fields).map Value.truthy = some b) (session : Session) :
    isSet key (session.holding fields) = .ok b (session.holding fields) := by
  obtain ⟨v, hget, rfl⟩ := Option.map_eq_some_iff.1 h
  exact isSet_of_read (read_holding hget session)

private theorem Value.truthy_text (s : String) : (Value.text s).truthy = decide (s ≠ "") := by
  by_cases h : s = ""
  · subst h
    rfl
  · simp [truthy, h]

namespace Recommendations

open Step

structure Entry where
  record : Fields
  score : Value
  reason : String
  score_eq : Fields.get? "score" record = some score
  reason_eq : Fields.get? "reason" record = some (.text reason)

namespace Entry

def value (entry : Entry) : Value := .record entry.record

def keyed (entry : Entry) : Ranking.Keyed Value := ⟨entry.score, entry.value⟩

private theorem scored_values (entries : List Entry) :
    scored (entries.map value) = .ok (entries.map keyed) := by
  apply mapM_map_of_ok
  intro entry
  simp only [value, Value.field, entry.score_eq]
  rfl

private theorem map_entry_keyed (entries : List Entry) :
    (entries.map keyed).map Ranking.Keyed.entry = entries.map value := by
  rw [List.map_map]
  rfl

private theorem reasons_values (entries : List Entry) (session : Session) :
    ((entries.map value).mapM fun entry => (liftM (entry.fieldOr "reason" "") : Step Value)) session =
      .ok (entries.map (Value.text ·.reason)) session := by
  rw [List.mapM_map]
  apply mapM_of_ok
  intro entry _
  simp only [Function.comp_apply, value, Value.fieldOr, entry.reason_eq]
  rfl

end Entry

/-- The last part of a ranking, for more than three reasons. -/
def raiseConfidence : Step Unit := do
  write "confidence_score" (← raised (← read "confidence_score"))

def keeping (entries : List Entry) (fields : Fields) : Fields :=
  Fields.set "recommendations" (.list ((entries.map Entry.value).take kept)) fields

/-- A ranking whose entries can be sorted keeps the first ten of them, and counts the reasons of all. -/
theorem rank_of_sort {entries sorted : List Entry} {fields : Fields} {count : Nat}
    (hentries : Fields.get? "recommendations" fields = some (.list (entries.map Entry.value)))
    (hsort : Ranking.sort (entries.map Entry.keyed) = (sorted.map Entry.keyed, none))
    (hcount : Value.distinctCount (sorted.map (Value.text ·.reason)) = .ok count) (session : Session) :
    rank (session.holding fields) =
      if 3 < count then raiseConfidence (session.holding (keeping sorted fields))
      else .ok () (session.holding (keeping sorted fields)) := by
  simp only [rank, bind_apply, read_holding hentries, Value.items, liftM_ok, pure_apply,
    Entry.scored_values, hsort, Entry.map_entry_keyed, write_holding, Fields.set_set,
    Entry.reasons_values, hcount, keeping]
  split <;> rfl

/-- A ranking has nothing to do: at most ten entries for at most three reasons, by falling scores. -/
structure IsRanked (entries : List Entry) : Prop where
  ordered : Ranking.isOrdered (entries.map Entry.score) = true
  falling : entries.Pairwise fun a b => Ranking.notAfter b.score a.score = true
  reasons : ∃ count ≤ 3, Value.distinctCount (entries.map (Value.text ·.reason)) = .ok count
  length_le : entries.length ≤ kept

namespace IsRanked

variable {entries : List Entry}

private theorem sort_keyed (h : IsRanked entries) :
    Ranking.sort (entries.map Entry.keyed) = (entries.map Entry.keyed, none) := by
  rw [Ranking.sort, if_pos]
  · rw [Ranking.sortOrdered, List.mergeSort_of_pairwise]
    exact List.pairwise_map.2 h.falling
  · rw [List.map_map]
    exact h.ordered

theorem rank_holding (h : IsRanked entries) {fields : Fields}
    (hentries : Fields.get? "recommendations" fields = some (.list (entries.map Entry.value)))
    (session : Session) : rank (session.holding fields) = .ok () (session.holding fields) := by
  obtain ⟨count, hcount, hreasons⟩ := h.reasons
  have hkept : (entries.map Entry.value).take kept = entries.map Entry.value := by
    apply List.take_of_length_le
    rw [List.length_map]
    exact h.length_le
  rw [rank_of_sort hentries h.sort_keyed hreasons, if_neg (Nat.not_lt.2 hcount), keeping, hkept,
    Fields.set_of_get? hentries]

end IsRanked

def offer (score : Float) (reason product : String) : Entry where
  record := [("product_id", product), ("score", .float score), ("reason", reason)]
  score := .float score
  reason := reason
  score_eq := rfl
  reason_eq := rfl

def similarOffers : List Entry :=
  ["product_101", "product_201", "product_301"].map
    (offer 0.8 "Users who bought similar items also bought this")

def trendingOffers : List Entry :=
  [(0.9, "trending_1"), (0.85, "trending_2"), (0.8, "trending_3"), (0.75, "trending_4"),
    (0.7, "trending_5")].map fun entry => offer entry.1 "Trending now" entry.2

private theorem isRanked_similarOffers : IsRanked similarOffers where
  ordered := by decide +kernel
  falling := by decide +kernel
  reasons := ⟨1, by decide, rfl⟩
  length_le := by decide

private theorem isRanked_trendingOffers : IsRanked trendingOffers where
  ordered := by decide +kernel
  falling := by decide +kernel
  reasons := ⟨1, by decide, rfl⟩
  length_le := by decide

/-- A record of a visit by this user in this context. -/
structure IsVisit (fields : Fields) (user : String) (context : Fields) : Prop where
  user : Fields.get? "user_id" fields = some (.text user)
  context : Fields.get? "context" fields = some (.record context)

/-- A visit whose user has been looked up. Only a known user has a history. -/
structure IsProfiled (fields : Fields) (known : Bool) (context : Fields) : Prop where
  context : Fields.get? "context" fields = some (.record context)
  browsed : (Fields.get? "browsing_history" fields).map Value.truthy = some known
  purchased : (Fields.get? "purchase_history" fields).map Value.truthy = some known
  level : Fields.get? "personalization_level" fields = some (.text (if known then "high" else "none"))

def offering (fields : Fields) (found : List Value) (strategy : String) (confidence : Float) : Fields :=
  Fields.set "confidence_score" (.float confidence)
    (Fields.set "recommendation_strategy" strategy (Fields.set "recommendations" (.list found) fields))

section Nodes

variable {fields context : Fields} {user : String} {known : Bool}

theorem IsProfiled.offering (h : IsProfiled fields known context) (found : List Value)
    (strategy : String) (confidence : Float) :
    IsProfiled (offering fields found strategy confidence) known context := by
  unfold Recommendations.offering
  constructor
  · simpa [Fields.get?_set] using h.context
  · simpa [Fields.get?_set] using h.browsed
  · simpa [Fields.get?_set] using h.purchased
  · simpa [Fields.get?_set] using h.level

theorem exists_fetchProfile (h : IsVisit fields user context) (session : Session) :
    ∃ profiled, fetchProfile (session.holding fields) = .ok () (session.holding profiled) ∧
      IsProfiled profiled (user ≠ "") context := by
  have hknown : (Fields.get? "user_id" fields).map Value.truthy = some (decide (user ≠ "")) := by
    rw [h.user, Option.map_some, Value.truthy_text]
  simp only [fetchProfile, bind_apply, isSet_holding hknown]
  by_cases huser : user = ""
  · simp only [huser, ne_eq, not_true, decide_false, Bool.false_eq_true, if_false, bind_apply,
      write_holding]
    refine ⟨_, rfl, ?_, ?_, ?_, ?_⟩
    · simpa [Fields.get?_set] using h.context
    all_goals simp [Fields.get?_set, Value.truthy]
  · simp only [huser, ne_eq, not_false_eq_true, decide_true, if_true, bind_apply, write_holding]
    refine ⟨_, rfl, ?_, ?_, ?_, ?_⟩
    · simpa [Fields.get?_set] using h.context
    all_goals simp [Fields.get?_set, Value.truthy, texts]

theorem routeAfterProfile_holding (h : IsProfiled fields known context) (session : Session) :
    routeAfterProfile (session.holding fields) =
      .ok (.text (if known then "collaborative" else "contextual")) (session.holding fields) := by
  have hlevel := holdsOneOf_of_read (read_holding h.level session) ["high", "medium"]
  simp only [routeAfterProfile, bind_apply, both_of_ok hlevel (isSet_holding h.purchased session)]
  cases known <;> rfl

private theorem recommend_holding (session : Session) (strategy : String) (confidence : Float)
    (found : List Value) : recommend strategy confidence found (session.holding fields) =
      .ok () (session.holding
        (offering fields found strategy (if found.isEmpty then 0.0 else confidence))) := rfl

private theorem bySimilarUsers_holding (h : IsProfiled fields true context) (session : Session) :
    bySimilarUsers (session.holding fields) = .ok () (session.holding
      (offering fields (similarOffers.map Entry.value) "collaborative" 0.8)) := by
  simp only [bySimilarUsers, bind_apply, isSet_holding h.purchased]
  rfl

/-- What a context suggests things for: its category, or else its search. -/
def topic? (context : Fields) : Option Value :=
  (Fields.get? "category" context).or (Fields.get? "search_query" context)

/-- The topic of a context, if it has one, can be written. -/
def HasWritableTopic (context : Fields) : Prop := (topic? context).all Value.isWritable = true

private theorem exists_suggestions (h : HasWritableTopic context) :
    ∃ found, suggestions (.record context) = .ok found := by
  unfold HasWritableTopic topic? at h
  simp only [suggestions, Pipeline.isIn_record, ok_bind, Value.field]
  cases hcategory : Fields.get? "category" context with
  | some category =>
      rw [hcategory] at h
      exact ⟨_, by simp only [Option.isSome_some, if_true, ok_bind, Value.render_of_isWritable h]; rfl⟩
  | none =>
      cases hquery : Fields.get? "search_query" context with
      | some query =>
          rw [hcategory, hquery] at h
          exact ⟨_, by
            simp only [Option.isSome_none, Bool.false_eq_true, if_false, Option.isSome_some, if_true, ok_bind,
              Value.render_of_isWritable h]
            rfl⟩
      | none => exact ⟨_, rfl⟩

private theorem suggestions_of_not_hasWritableTopic (h : ¬HasWritableTopic context) :
    suggestions (.record context) = .error (.tooManyDigits none) := by
  unfold HasWritableTopic topic? at h
  simp only [suggestions, Pipeline.isIn_record, ok_bind, Value.field]
  cases hcategory : Fields.get? "category" context with
  | some category =>
      rw [hcategory] at h
      simp only [Option.isSome_some, if_true, ok_bind,
        Value.render_of_not_isWritable (Bool.eq_false_iff.2 h)]
      rfl
  | none =>
      cases hquery : Fields.get? "search_query" context with
      | some query =>
          rw [hcategory, hquery] at h
          simp only [Option.isSome_none, Bool.false_eq_true, if_false, Option.isSome_some, if_true, ok_bind,
            Value.render_of_not_isWritable (Bool.eq_false_iff.2 h)]
          rfl
      | none =>
          rw [hcategory, hquery] at h
          exact absurd rfl h

/-- What the context suggests is not sure enough to be ranked. -/
theorem exists_byContext (h : IsProfiled fields known context) (htopic : HasWritableTopic context)
    (session : Session) :
    ∃ found confidence, byContext (session.holding fields) = .ok () (session.holding
      (offering fields found "contextual" confidence)) ∧
      (Value.float confidence).atLeast (.float 0.7) = .ok false := by
  obtain ⟨found, hfound⟩ := exists_suggestions htopic
  refine ⟨found, if found.isEmpty then 0.0 else 0.6, ?_, ?_⟩
  · simp only [byContext, bind_apply, read_holding h.context, hfound, liftM_ok, pure_apply,
      recommend_holding]
  · split
    · decide +kernel
    · decide +kernel

private theorem byContext_of_not_hasWritableTopic (h : IsProfiled fields known context)
    (htopic : ¬HasWritableTopic context) (session : Session) :
    byContext (session.holding fields) = .error (.tooManyDigits none) (session.holding fields) := by
  simp only [byContext, bind_apply, read_holding h.context, suggestions_of_not_hasWritableTopic htopic,
    liftM_error]

theorem routeAfterStrategy_holding (h : IsProfiled fields known context) (found : List Value)
    (strategy : String) {confidence : Float} {sure : Bool}
    (hsure : (Value.float confidence).atLeast (.float 0.7) = .ok sure) (session : Session) :
    routeAfterStrategy (session.holding (offering fields found strategy confidence)) =
      .ok (.text (if sure then "rank" else if known then "content_based" else "trending"))
        (session.holding (offering fields found strategy confidence)) := by
  have hconfidence : Fields.get? "confidence_score" (offering fields found strategy confidence) =
      some (.float confidence) := Fields.get?_set_self ..
  have hbrowsed := (h.offering found strategy confidence).browsed
  simp only [routeAfterStrategy, bind_apply, read_holding hconfidence, hsure, liftM_ok, pure_apply]
  cases sure with
  | true => rfl
  | false =>
      simp only [Bool.false_eq_true, if_false, bind_apply, isSet_holding hbrowsed]
      cases known <;> rfl

private theorem byTrend_holding (session : Session) : byTrend (session.holding fields) = .ok () (session.holding
    (offering fields (trendingOffers.map Entry.value) "trending" 0.4)) := rfl

end Nodes

/-- The walk ends with these recommendations, by this strategy. -/
structure Recommends (offers : List Value) (strategy : String) (confidence : Float) (walk : Walk) :
    Prop where
  finished : walk.ending = .finished
  offers : walk.session.Has "recommendations" (.list offers)
  strategy : walk.session.Has "recommendation_strategy" (.text strategy)
  confidence : walk.session.Has "confidence_score" (.float confidence)

section Walks

variable {fields context : Fields} {user : String}

theorem Recommends.after {offers : List Value} {strategy : String} {confidence : Float} {walk : Walk}
    (h : Recommends offers strategy confidence walk) (event : Event) :
    Recommends offers strategy confidence (walk.after event) :=
  ⟨h.finished, h.offers, h.strategy, h.confidence⟩

theorem recommends_rank {offers : List Entry} (h : IsRanked offers) (fields : Fields) (strategy : String)
    (confidence : Float) (session : Session) (limit : Nat) :
    Recommends (offers.map Entry.value) strategy confidence (workflow.walkFrom (limit + 1) "rank"
      (session.holding (offering fields (offers.map Entry.value) strategy confidence))) := by
  have hoffers : Fields.get? "recommendations"
      (offering fields (offers.map Entry.value) strategy confidence) =
      some (.list (offers.map Entry.value)) := by
    simp [offering, Fields.get?_set]
  rw [Workflow.walkFrom_edge (by decide) rfl (h.rank_holding hoffers session) rfl rfl,
    Workflow.walkFrom_terminal]
  apply Recommends.after
  refine ⟨rfl, Session.has_holding_iff.2 hoffers, Session.has_holding_iff.2 ?_,
    Session.has_holding_iff.2 (Fields.get?_set_self _ _ _)⟩
  simp [offering, Fields.get?_set]

theorem recommends_known (h : IsVisit fields user context) (huser : user ≠ "") (session : Session)
    (limit : Nat) : Recommends (similarOffers.map Entry.value) "collaborative" 0.8
      (workflow.walk (limit + 3) (session.holding fields)) := by
  obtain ⟨profiled, hfetch, hprofiled⟩ := exists_fetchProfile h session
  rw [decide_eq_true huser] at hprofiled
  have hroute := routeAfterProfile_holding hprofiled session
  have hsimilar := bySimilarUsers_holding hprofiled session
  have hsure : (Value.float 0.8).atLeast (.float 0.7) = .ok true := by decide +kernel
  have hstrategy := routeAfterStrategy_holding hprofiled (similarOffers.map Entry.value) "collaborative"
    hsure session
  show Recommends _ _ _ (workflow.walkFrom (limit + 3) "profile" _)
  rw [Workflow.walkFrom_branching (by decide) rfl hfetch rfl hroute rfl,
    Workflow.walkFrom_branching (by decide) rfl hsimilar rfl hstrategy rfl]
  have hrank := recommends_rank isRanked_similarOffers profiled "collaborative" 0.8 session limit
  exact (((hrank.after _).after _).after _).after _

theorem recommends_unknown (h : IsVisit fields "" context) (htopic : HasWritableTopic context)
    (session : Session) (limit : Nat) :
    Recommends (trendingOffers.map Entry.value) "trending" 0.4
      (workflow.walk (limit + 4) (session.holding fields)) := by
  obtain ⟨profiled, hfetch, hprofiled⟩ := exists_fetchProfile h session
  rw [decide_eq_false (not_not_intro rfl)] at hprofiled
  have hroute := routeAfterProfile_holding hprofiled session
  obtain ⟨found, confidence, hcontext, hunsure⟩ := exists_byContext hprofiled htopic session
  have hstrategy := routeAfterStrategy_holding hprofiled found "contextual" hunsure session
  show Recommends _ _ _ (workflow.walkFrom (limit + 4) "profile" _)
  rw [Workflow.walkFrom_branching (by decide) rfl hfetch rfl hroute rfl,
    Workflow.walkFrom_branching (by decide) rfl hcontext rfl hstrategy rfl,
    Workflow.walkFrom_edge (by decide) rfl (byTrend_holding session) rfl rfl]
  have hrank := recommends_rank isRanked_trendingOffers (offering profiled found "contextual" confidence)
    "trending" 0.4 session limit
  exact ((((hrank.after _).after _).after _).after _).after _

theorem walk_of_not_hasWritableTopic (h : IsVisit fields "" context) (htopic : ¬HasWritableTopic context)
    (session : Session) (limit : Nat) :
    (workflow.walk (limit + 2) (session.holding fields)).ending = .failed (.tooManyDigits none) := by
  obtain ⟨profiled, hfetch, hprofiled⟩ := exists_fetchProfile h session
  rw [decide_eq_false (not_not_intro rfl)] at hprofiled
  have hroute := routeAfterProfile_holding hprofiled session
  have hcontext := byContext_of_not_hasWritableTopic hprofiled htopic session
  show (workflow.walkFrom (limit + 2) "profile" _).ending = _
  rw [Workflow.walkFrom_branching (by decide) rfl hfetch rfl hroute rfl,
    Workflow.walkFrom_node_fault (by decide) rfl hcontext]
  rfl

end Walks

/-- The context never shows. Two visits, both by users who are known or both by users who are not, end with
the same recommendations, by the same strategy and with the same confidence, whatever else they hold. Only if the
user is not known and the topic of the context cannot be written the walk fails. -/
theorem walk_ignores_context {visit other : Fields} {user guest : String}
    {context elsewhere : Fields} (hvisit : IsVisit visit user context)
    (hother : IsVisit other guest elsewhere) (hknown : user = "" ↔ guest = "")
    (session later : Session) (limit further : Nat) :
    ((user = "" → HasWritableTopic context) → (guest = "" → HasWritableTopic elsewhere) →
      ∃ offers strategy confidence,
        Recommends offers strategy confidence (workflow.walk (limit + 4) (session.holding visit)) ∧
        Recommends offers strategy confidence (workflow.walk (further + 4) (later.holding other)) ∧
        strategy = if user = "" then "trending" else "collaborative") ∧
    (user = "" → ¬HasWritableTopic context →
      (workflow.walk (limit + 4) (session.holding visit)).ending = .failed (.tooManyDigits none)) := by
  constructor
  · intro htopic htopic'
    by_cases huser : user = ""
    · obtain rfl := hknown.1 huser
      subst huser
      exact ⟨_, _, _, recommends_unknown hvisit (htopic rfl) session limit,
        recommends_unknown hother (htopic' rfl) later further, rfl⟩
    · have hguest : guest ≠ "" := fun hempty => huser (hknown.2 hempty)
      rw [if_neg huser]
      exact ⟨_, _, _, recommends_known hvisit huser session (limit + 1),
        recommends_known hother hguest later (further + 1), rfl⟩
  · rintro rfl htopic
    exact walk_of_not_hasWritableTopic hvisit htopic session (limit + 2)

def visitOf (user : String) (context : Fields) : Fields := [
  ("user_id", .text user), ("user_profile", .record []), ("context", .record context),
  ("browsing_history", texts ["product_1"]), ("purchase_history", .list []), ("recommendations", .list []),
  ("recommendation_strategy", ""), ("confidence_score", .float 1.0), ("personalization_level", "low")]

theorem isVisit_visitOf (user : String) (context : Fields) :
    IsVisit (visitOf user context) user context :=
  ⟨rfl, rfl⟩

theorem walk_search_and_shelf :
    ∃ offers confidence,
      Recommends offers "trending" confidence (workflow.walk 4 (Session.holding { state := .null }
        (visitOf "" [("search_query", .list [.null, .bool true])]))) ∧
      Recommends offers "trending" confidence (workflow.walk 4 (Session.holding { state := .null }
        (visitOf "" [("page", "shelf"), ("category", "books")]))) := by
  obtain ⟨offers, strategy, confidence, hsearch, hshelf, rfl⟩ :=
    (walk_ignores_context (isVisit_visitOf "" [("search_query", .list [.null, .bool true])])
      (isVisit_visitOf "" [("page", "shelf"), ("category", "books")]) Iff.rfl { state := .null }
      { state := .null } 0 0).1 (fun _ => rfl) (fun _ => rfl)
  exact ⟨offers, confidence, hsearch, hshelf⟩

/-- A category that is a number of too many digits ends the walk with a fault. -/
theorem walk_of_long_category :
    IsVisit (visitOf "" [("category", .int Value.leastUnwritable)]) ""
      [("category", .int Value.leastUnwritable)] ∧
    (workflow.walk 4 (Session.holding { state := .null }
      (visitOf "" [("category", .int Value.leastUnwritable)]))).ending = .failed (.tooManyDigits none) := by
  have hvisit := isVisit_visitOf "" [("category", .int Value.leastUnwritable)]
  refine ⟨hvisit, walk_of_not_hasWritableTopic hvisit ?_ { state := .null } 2⟩
  have htopic : topic? [("category", .int Value.leastUnwritable)] = some (.int Value.leastUnwritable) := rfl
  rw [HasWritableTopic, htopic, Option.all_some, Value.isWritable_leastUnwritable]
  exact Bool.false_ne_true

end Recommendations

end Workgraph
