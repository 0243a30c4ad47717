import Workgraph.Text.Casing
import Workgraph.Walk

/-!
# Chat

A message is taken for a greeting, a question or a command by the words in it, and answered from a fixed
stock. What is not understood gets one of the fallback answers.
-/

namespace Workgraph.Chat

open Step

def greetingWords : List String := ["hello", "hi", "hey"]

def questionWords : List String := ["what", "how", "why", "when", "where", "who"]

def commandWords : List String := ["please", "can you", "could you"]

def greetings : List String := [
  "Hello! How can I help you today?",
  "Hi there! What can I do for you?",
  "Hey! I'm here to assist you."]

def fallbacks : List String := [
  "I'm not sure I understand. Could you rephrase that?",
  "I didn't quite get that. Can you provide more details?",
  "Hmm, I'm having trouble with that request. Can you try asking differently?"]

/-- The answer whose turn it is after a history of some length. -/
def inTurn (answers : List String) (past : Nat) : String :=
  answers.getD (past % answers.length) ""

def message : Step (List Char) := do
  return Text.lower (← (← read "user_message").chars)

def noteIntent (intent : String) (confidence : Float) : Step Unit := do
  write "intent" intent
  write "confidence" (.float confidence)

def detectIntent : Step Unit := do
  let message ← message
  if Text.anyOccurs greetingWords message then noteIntent "greeting" 0.9
  else if Text.anyOccurs questionWords message then noteIntent "question" 0.8
  else if Text.anyOccurs commandWords message then noteIntent "command" 0.7
  else noteIntent "unknown" 0.3

def greet : Step Unit := do
  let past ← (← read "conversation_history").size
  write "response" (inTurn greetings past)

def giveUp : Step Unit := do
  write "confidence" (.float 0.4)
  write "response" ""

def answer (subject response : String) : Step Unit := do
  write "response" response
  write "context" subject

def answerQuestion : Step Unit := do
  let message ← message
  if Text.anyOccurs ["hours", "open"] message then
    answer "hours" "We're open Monday-Friday, 9 AM to 5 PM."
  else if Text.anyOccurs ["price", "cost"] message then
    answer "pricing" "Our pricing starts at $10/month. Would you like more details?"
  else if Text.anyOccurs ["support", "help"] message then
    answer "support" "I'm here to help! You can also email support@example.com."
  else giveUp

def allOccur (words : List String) (message : List Char) : Bool :=
  words.all fun word => Text.occurs word.toList message

def obeyCommand : Step Unit := do
  let message ← message
  if Text.anyOccurs ["cancel", "refund"] message then
    write "response" "I can help with that. Let me transfer you to our billing team."
    write "escalate_to_human" true
  else if allOccur ["update", "email"] message then
    answer "account_update" "To update your email, please go to Settings > Account."
  else if allOccur ["reset", "password"] message then
    answer "password_reset" "I'll send you a password reset link. Check your email in a moment."
  else giveUp

/-- How often a text is an item of a list, or occurs in a text without overlap. -/
def countOf (text : String) : Value → Except Fault Nat
  | .list items => .ok (items.countP (Value.same text))
  | .text s => .ok (Text.count text.toList s.toList)
  | _ => .error .noOperation

/-- Answers with a fallback, and offers a person once the history has two of them. -/
def fallBack : Step Unit := do
  write "fallback_triggered" true
  let past ← (← read "conversation_history").size
  write "response" (inTurn fallbacks past)
  if 2 ≤ (← countOf "fallback" (← read "conversation_history")) then
    write "escalate_to_human" true
    addTo "response" (pure " Would you like to speak with a human agent?")

/-- The intent, unless it is too unsure. -/
def routeAfterIntent : Step Value := do
  if ← (← read "confidence").less (.float 0.5) then return "fallback" else read "intent"

def routeAfterResponse : Step Value := do
  if ← both (holds "response" "") do (← read "confidence").less (.float 0.6) then
    return "fallback"
  else return terminal

def workflow : Workflow where
  schema := "ChatState"
  fields := ["user_message", "conversation_history", "intent", "confidence", "response", "context",
    "fallback_triggered", "escalate_to_human"]
  entry := "detect_intent"
  nodes := [
    ⟨"detect_intent", "detect_intent", "Detect user intent from message.", detectIntent⟩,
    ⟨"greeting", "handle_greeting", "Handle greeting intent.", greet⟩,
    ⟨"question", "handle_question", "Handle question intent using knowledge base.", answerQuestion⟩,
    ⟨"command", "handle_command", "Handle command/request intent.", obeyCommand⟩,
    ⟨"fallback", "fallback_response", "Provide fallback response when confidence is low.",
      fallBack⟩]
  edges := [("greeting", terminal), ("fallback", terminal)]
  branchings := [
    ⟨"detect_intent", ⟨"route_after_intent", routeAfterIntent⟩,
      [("greeting", "greeting"), ("question", "question"), ("command", "command"),
        ("fallback", "fallback")]⟩,
    ⟨"question", ⟨"route_after_response", routeAfterResponse⟩,
      [("fallback", "fallback"), (terminal, terminal)]⟩,
    ⟨"command", ⟨"route_after_response", routeAfterResponse⟩,
      [("fallback", "fallback"), (terminal, terminal)]⟩]

end Workgraph.Chat
