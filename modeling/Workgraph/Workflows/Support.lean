import Workgraph.Text.Casing
import Workgraph.Walk

/-!
# Customer support

A message is judged by the words in it, and handled by the first tier, the second tier or the senior
team. A tier that cannot resolve it hands it on.
-/

namespace Workgraph.Support

open Step

def negativeWords : List String := ["angry", "frustrated", "terrible"]

def positiveWords : List String := ["great", "happy", "excellent"]

def technicalWords : List String := ["bug", "error", "crash", "technical"]

def billingWords : List String := ["payment", "billing", "charge", "refund"]

/-- Sets the sentiment, the category and the priority from the words of the message. -/
def analyze : Step Unit := do
  let message := Text.lower (← (← read "customer_message").chars)
  if Text.anyOccurs negativeWords message then
    write "sentiment" "negative"
  else if Text.anyOccurs positiveWords message then
    write "sentiment" "positive"
  else
    write "sentiment" "neutral"
  if Text.anyOccurs technicalWords message then
    write "category" "technical"
  else if Text.anyOccurs billingWords message then
    write "category" "billing"
  else
    write "category" "general"
  if ← both (holds "sentiment" "negative") (holdsOneOf "category" ["technical", "billing"]) then
    write "priority" "high"
  else if ← either (holds "sentiment" "negative") (holds "category" "billing") then
    write "priority" "medium"
  else
    write "priority" "low"

/-- Answers general questions of low priority. -/
def handleFirstTier : Step Unit := do
  if ← both (holds "category" "general") (holds "priority" "low") then
    let shown ← (← read "customer_message").takeFirst 50
    write "response" (.text ("Thank you for contacting us about: " ++ (← shown.render) ++ "..."))
    write "resolved" true
  else
    write "resolved" false

/-- Answers technical and billing questions, unless their priority is high. -/
def handleSecondTier : Step Unit := do
  if ← both (holdsOneOf "category" ["technical", "billing"])
      (holdsOneOf "priority" ["low", "medium"]) then
    write "response"
      (.text ("Our specialist will handle your " ++ (← (← read "category").render) ++ " issue."))
    write "resolved" true
  else
    write "resolved" false

def escalate : Step Unit := do
  write "response" "This has been escalated to our senior support team."
  write "escalated" true
  write "resolved" true

def routeAfterAnalysis : Step Value := do
  if ← holds "priority" "high" then return "escalate"
  else if ← holdsOneOf "category" ["technical", "billing"] then return "tier2"
  else return "tier1"

def routeAfterFirstTier : Step Value := do
  if ← isSet "resolved" then return terminal else return "tier2"

def routeAfterSecondTier : Step Value := do
  if ← isSet "resolved" then return terminal else return "escalate"

def workflow : Workflow where
  schema := "SupportState"
  fields := ["customer_message", "sentiment", "category", "priority", "response", "escalated",
    "resolved"]
  entry := "analyze"
  nodes := [
    ⟨"analyze", "analyze_message", "Analyze customer message for sentiment and category.", analyze⟩,
    ⟨"tier1", "handle_tier1", "Tier 1 support - handles simple queries.", handleFirstTier⟩,
    ⟨"tier2", "handle_tier2", "Tier 2 support - handles technical and billing issues.",
      handleSecondTier⟩,
    ⟨"escalate", "escalate", "Escalate to senior support.", escalate⟩]
  edges := [("escalate", terminal)]
  branchings := [
    ⟨"analyze", ⟨"route_after_analysis", routeAfterAnalysis⟩,
      [("tier1", "tier1"), ("tier2", "tier2"), ("escalate", "escalate")]⟩,
    ⟨"tier1", ⟨"route_after_tier1", routeAfterFirstTier⟩,
      [("tier2", "tier2"), (terminal, terminal)]⟩,
    ⟨"tier2", ⟨"route_after_tier2", routeAfterSecondTier⟩,
      [("escalate", "escalate"), (terminal, terminal)]⟩]

end Workgraph.Support
