import Workgraph.Text.Casing
import Workgraph.Walk

/-!
# Content moderation

Words in the content raise flags, and the number of flags decides between approval, a review by a
person, and rejection.
-/

namespace Workgraph.Moderation

open Step

def prohibitedWords : List String := ["spam", "scam", "hack", "illegal"]

def toxicWords : List String := ["hate", "violence", "threat", "abuse"]

/-- The words that occur in the content, as flags with a label. -/
def raisedFlags (label : String) (words : List String) (content : List Char) : List Value :=
  (words.filter fun word => Text.occurs word.toList content).map fun word =>
    .text (label ++ ":" ++ word)

/-- Adds a flag for each of the words that occurs in the content. -/
def raiseFlags (label : String) (words : List String) : Step Unit := do
  let content := Text.lower (← (← read "content").chars)
  let flags ← read "flags"
  match raisedFlags label words content with
  | [] => write "flags" flags
  | raised => write "flags" (.list ((← flags.items) ++ raised))

def filterKeywords : Step Unit := raiseFlags "keyword" prohibitedWords

def checkSentiment : Step Unit := raiseFlags "toxic" toxicWords

/-- Grades the content by the number of its flags. -/
def classify : Step Unit := do
  let count ← (← read "flags").size
  if count = 0 then write "severity" "safe"
  else if count ≤ 2 then write "severity" "warning"
  else write "severity" "dangerous"

/-- Approves what is safe, rejects what is dangerous, and leaves the rest to a review. -/
def decideAlone : Step Unit := do
  if ← holds "severity" "safe" then
    write "auto_decision" "approve"
    write "final_decision" "approve"
    write "reason" "No issues detected"
  else if ← holds "severity" "dangerous" then
    write "auto_decision" "reject"
    write "final_decision" "reject"
    write "reason" (.text ("Dangerous content detected: " ++ (← (← read "flags").joined ", ")))
  else
    write "auto_decision" "review"
    write "human_review_required" true

def queueForReview : Step Unit := do
  write "final_decision" "review_pending"
  write "reason" (.text ("Flagged for human review: " ++ (← (← read "flags").joined ", ")))

def routeAfterDecision : Step Value := do
  if ← isSet "human_review_required" then return "human_review" else return terminal

def workflow : Workflow where
  schema := "ModerationState"
  fields := ["content", "content_type", "flags", "severity", "auto_decision",
    "human_review_required", "final_decision", "reason"]
  entry := "keyword_filter"
  nodes := [
    ⟨"keyword_filter", "keyword_filter", "Check for prohibited keywords.", filterKeywords⟩,
    ⟨"sentiment_check", "sentiment_check", "Analyze content sentiment for toxicity.",
      checkSentiment⟩,
    ⟨"ml_classifier", "ml_classifier", "ML-based content classification.", classify⟩,
    ⟨"auto_moderator", "auto_moderator", "Make automatic moderation decision.", decideAlone⟩,
    ⟨"human_review", "human_review", "Simulate human review for edge cases.", queueForReview⟩]
  edges := [
    ("keyword_filter", "sentiment_check"),
    ("sentiment_check", "ml_classifier"),
    ("ml_classifier", "auto_moderator"),
    ("human_review", terminal)]
  branchings := [
    ⟨"auto_moderator", ⟨"route_after_auto_moderator", routeAfterDecision⟩,
      [("human_review", "human_review"), (terminal, terminal)]⟩]

end Workgraph.Moderation
