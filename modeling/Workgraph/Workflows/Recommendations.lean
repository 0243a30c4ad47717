import Workgraph.Value.Ranking
import Workgraph.Walk

/-!
# Recommendations

Products are recommended to a known user by what similar users bought or by what the user looked at,
and else by the page they are on or by what is popular. The best ten are kept.
-/

namespace Workgraph.Recommendations

open Step

def recommendation (score : Float) (reason product : String) : Value :=
  .record [("product_id", product), ("score", .float score), ("reason", reason)]

def texts (items : List String) : Value := .list (items.map .text)

def fetchProfile : Step Unit := do
  if ← isSet "user_id" then
    write "user_profile" (.record [
      ("age_group", "25-34"),
      ("interests", texts ["technology", "books", "fitness"]),
      ("spending_tier", "medium")])
    write "browsing_history" (texts ["product_123", "product_456", "product_789"])
    write "purchase_history" (texts ["product_100", "product_200"])
    write "personalization_level" "high"
  else
    write "user_profile" (.record [])
    write "browsing_history" (.list [])
    write "purchase_history" (.list [])
    write "personalization_level" "none"

/-- Notes recommendations, the strategy that gave them, and how sure it is if it gave any. -/
def recommend (strategy : String) (confidence : Float) (found : List Value) : Step Unit := do
  write "recommendations" (.list found)
  write "recommendation_strategy" strategy
  write "confidence_score" (.float (if found.isEmpty then 0.0 else confidence))

def bySimilarUsers : Step Unit := do
  let found :=
    if ← isSet "purchase_history" then
      ["product_101", "product_201", "product_301"].map
        (recommendation 0.8 "Users who bought similar items also bought this")
    else []
  recommend "collaborative" 0.8 found

def bySimilarItems : Step Unit := do
  let found :=
    if ← isSet "browsing_history" then
      ["product_124", "product_457", "product_790"].map
        (recommendation 0.7 "Similar to items you viewed")
    else []
  recommend "content_based" 0.7 found

/-- The products that a context suggests: those of its category, or else those of its search. -/
def suggestions (context : Value) : Except Fault (List Value) := do
  if ← (Value.text "category").isIn context then
    let category ← (← context.field "category").render
    return [1, 2, 3, 4, 5].map fun n : Nat =>
      recommendation 0.6 ("Popular in " ++ category) ("cat_" ++ category ++ "_" ++ toString n)
  else if ← (Value.text "search_query").isIn context then
    let query ← (← context.field "search_query").render
    return [1, 2, 3, 4, 5].map fun n : Nat =>
      recommendation 0.5 ("Matches '" ++ query ++ "'") ("search_" ++ toString n)
  else return []

def byContext : Step Unit := do
  let found ← suggestions (← read "context")
  recommend "contextual" 0.6 found

def trending : List Value := [
  recommendation 0.9 "Trending now" "trending_1",
  recommendation 0.85 "Trending now" "trending_2",
  recommendation 0.8 "Trending now" "trending_3",
  recommendation 0.75 "Trending now" "trending_4",
  recommendation 0.7 "Trending now" "trending_5"]

def byTrend : Step Unit := recommend "trending" 0.4 trending

/-- The number of recommendations that are kept. -/
def kept : Nat := 10

def scored (entries : List Value) : Except Fault (List (Ranking.Keyed Value)) :=
  entries.mapM fun entry => do return ⟨← entry.field "score", entry⟩

/-- A confidence raised by a tenth, up to one. -/
def raised (confidence : Value) : Except Fault Value := do
  let higher ← confidence.add (.float 0.1)
  if ← (Value.float 1.0).less higher then return .float 1.0 else return higher

/-- Puts the best recommendations first and keeps ten. Confidence rises when all of them together have
more than three reasons. -/
def rank : Step Unit := do
  let entries ← scored (← (← read "recommendations").items)
  let (sorted, fault) := Ranking.sort entries
  let sorted := sorted.map Ranking.Keyed.entry
  write "recommendations" (.list sorted)
  match fault with
  | some fault => throw fault
  | none =>
    write "recommendations" (.list (sorted.take kept))
    let reasons ← sorted.mapM fun entry => entry.fieldOr "reason" ""
    if 3 < (← Value.distinctCount reasons) then
      write "confidence_score" (← raised (← read "confidence_score"))

def routeAfterProfile : Step Value := do
  if ← both (holdsOneOf "personalization_level" ["high", "medium"]) (isSet "purchase_history") then
    return "collaborative"
  else return "contextual"

def routeAfterStrategy : Step Value := do
  if ← (← read "confidence_score").atLeast (.float 0.7) then return "rank"
  else if ← isSet "browsing_history" then return "content_based"
  else return "trending"

def workflow : Workflow where
  schema := "RecommendationState"
  fields := ["user_id", "user_profile", "context", "browsing_history", "purchase_history",
    "recommendations", "recommendation_strategy", "confidence_score", "personalization_level"]
  entry := "profile"
  nodes := [
    ⟨"profile", "fetch_user_profile", "Fetch user profile and history.", fetchProfile⟩,
    ⟨"collaborative", "collaborative_filtering",
      "Generate recommendations using collaborative filtering.", bySimilarUsers⟩,
    ⟨"content_based", "content_based_filtering",
      "Generate recommendations using content-based filtering.", bySimilarItems⟩,
    ⟨"contextual", "contextual_recommendations", "Generate context-aware recommendations.",
      byContext⟩,
    ⟨"trending", "trending_items", "Fallback to trending/popular items.", byTrend⟩,
    ⟨"rank", "rank_and_diversify", "Rank and diversify final recommendations.", rank⟩]
  edges := [
    ("content_based", "rank"),
    ("trending", "rank"),
    ("rank", terminal)]
  branchings := [
    ⟨"profile", ⟨"route_after_profile", routeAfterProfile⟩,
      [("collaborative", "collaborative"), ("contextual", "contextual")]⟩,
    ⟨"collaborative", ⟨"route_after_strategy", routeAfterStrategy⟩,
      [("rank", "rank"), ("content_based", "content_based"), ("trending", "trending")]⟩,
    ⟨"contextual", ⟨"route_after_strategy", routeAfterStrategy⟩,
      [("rank", "rank"), ("content_based", "content_based"), ("trending", "trending")]⟩]

end Workgraph.Recommendations
