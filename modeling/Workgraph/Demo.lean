import Workgraph.Workflows.Accumulator
import Workgraph.Workflows.Assistant
import Workgraph.Workflows.Campaign
import Workgraph.Workflows.Chain
import Workgraph.Workflows.Chat
import Workgraph.Workflows.DataQuality
import Workgraph.Workflows.Documents
import Workgraph.Workflows.Experiment
import Workgraph.Workflows.Gateway
import Workgraph.Workflows.Moderation
import Workgraph.Workflows.Orders
import Workgraph.Workflows.Paths
import Workgraph.Workflows.Pipeline
import Workgraph.Workflows.Recommendations
import Workgraph.Workflows.Roster
import Workgraph.Workflows.Support
import Workgraph.Workflows.Threshold

/-!
# Demonstrations

Each workflow comes with a few sample states and a report on what a walk makes of them.
-/

namespace Workgraph

/-- Sample states for a workflow and the report on a state after the walk. -/
structure Demo where
  workflow : Workflow
  samples : List Value
  report : Value → Except Fault (List String)

namespace Demo

/-- The most nodes that a demonstration visits with one sample. -/
def nodeLimit : Nat := 1000

/-- Walks from each sample in turn with one supply, and gives the lines of all reports up to a fault. -/
def runFrom (demo : Demo) (supply : Supply) : List Value → List String × Option Fault
  | [] => ([], none)
  | sample :: rest =>
    let walk := demo.workflow.walk nodeLimit { state := sample, supply }
    match walk.ending with
    | .failed fault => ([], some fault)
    | _ =>
      match demo.report walk.session.state with
      | .error fault => ([], some fault)
      | .ok lines =>
        let (others, fault) := runFrom demo walk.session.supply rest
        (lines ++ others, fault)

def run (demo : Demo) (supply : Supply) : List String × Option Fault :=
  demo.runFrom supply demo.samples

/-- The text of a field after a label. -/
def entry (label key : String) (state : Value) : Except Fault String := do
  return label ++ (← (← state.field key).render)

/-- The text of a field of a field after a label. -/
def entryIn (label key inner : String) (state : Value) : Except Fault String := do
  return label ++ (← (← (← state.field key).field inner).render)

def countIn (key : String) (state : Value) : Except Fault String := do
  return toString (← (← state.field key).size)

/-- One line for each member of a field. -/
def eachLine (mark key : String) (state : Value) : Except Fault (List String) := do
  (← (← state.field key).members).mapM fun v => do return mark ++ (← v.render)

def assistant : Demo where
  workflow := Assistant.workflow
  samples := [.record [
    ("messages", .list []), ("context", .record []), ("next_action", ""), ("counter", .int 0)]]
  report state := do return ["Final state: " ++ (← state.render)]

def supportSample (message : String) : Value :=
  .record [
    ("customer_message", message), ("sentiment", ""), ("category", ""), ("priority", ""),
    ("response", ""), ("escalated", false), ("resolved", false)]

def support : Demo where
  workflow := Support.workflow
  samples := [
    "I love your product!",
    "I found a critical bug in the app",
    "I was charged twice for my subscription"].map supportSample
  report state := do
    return ["",
      ← entry "Input: " "customer_message" state,
      (← entry "Category: " "category" state) ++ (← entry ", Priority: " "priority" state),
      ← entry "Response: " "response" state,
      ← entry "Escalated: " "escalated" state]

def moderationSample (content : String) : Value :=
  .record [
    ("content", content), ("content_type", "text"), ("flags", .list []), ("severity", ""),
    ("auto_decision", ""), ("human_review_required", false), ("final_decision", ""),
    ("reason", "")]

def moderation : Demo where
  workflow := Moderation.workflow
  samples := [
    "This is a normal message",
    "Check out this spam offer",
    "This is hate speech with violence and illegal threats"].map moderationSample
  report state := do
    return ["",
      ← entry "Content: " "content" state,
      ← entry "Flags: " "flags" state,
      ← entry "Severity: " "severity" state,
      ← entry "Decision: " "final_decision" state,
      ← entry "Reason: " "reason" state]

def sampleEmail : String :=
  Text.join "\n" [
    "From: john@example.com",
    "To: jane@example.com",
    "Subject: Meeting Tomorrow",
    "Date: 2024-01-15",
    "",
    "Hi Jane,",
    "",
    "Let's meet tomorrow to discuss the project.",
    "",
    "Best,",
    "John"]

def documents : Demo where
  workflow := Documents.workflow
  samples := [.record [
    ("raw_content", sampleEmail), ("document_type", ""), ("extracted_text", ""),
    ("metadata", .record []), ("entities", .list []), ("validation_errors", .list []),
    ("processed", false), ("retry_count", .int 0)]]
  report state := do
    return [
      ← entry "Document Type: " "document_type" state,
      ← entry "Metadata: " "metadata" state,
      "Entities found: " ++ (← countIn "entities" state),
      ← entry "Processed: " "processed" state,
      ← entry "Errors: " "validation_errors" state]

def chatSample (message : String) : Value :=
  .record [
    ("user_message", message), ("conversation_history", .list []), ("intent", ""),
    ("confidence", .float 0.0), ("response", ""), ("context", ""), ("fallback_triggered", false),
    ("escalate_to_human", false)]

/-- A line that is shown only if a field is set. -/
def lineIf (key line : String) (state : Value) : Except Fault (List String) := do
  return if (← state.field key).truthy then [line] else []

def chat : Demo where
  workflow := Chat.workflow
  samples := [
    "Hello!",
    "What are your business hours?",
    "Can you help me reset my password?",
    "Tell me about quantum physics in detail"].map chatSample
  report state := do
    let confidence ← (← state.field "confidence").fixed 2
    return ["",
      ← entry "User: " "user_message" state,
      (← entry "Intent: " "intent" state) ++ " (confidence: " ++ confidence ++ ")",
      ← entry "Bot: " "response" state] ++
      (← lineIf "fallback_triggered" "(Fallback triggered)" state) ++
      (← lineIf "escalate_to_human" "(Escalated to human)" state)

def gatewaySample (path method body : String) : Value :=
  .record [
    ("request_path", path), ("request_method", method), ("request_body", body),
    ("target_service", ""), ("retry_count", .int 0), ("max_retries", .int 3),
    ("response_status", .int 0), ("response_body", ""), ("error_message", ""),
    ("use_cache", false), ("use_fallback", false), ("circuit_open", false)]

def gateway : Demo where
  workflow := Gateway.workflow
  samples := [
    gatewaySample "/api/users/list" "GET" "",
    gatewaySample "/api/products/123" "POST" "\x7b\"name\": \"Widget\"\x7d"]
  report state := do
    return ["",
      (← entry "Request: " "request_method" state) ++ (← entry " " "request_path" state),
      ← entry "Service: " "target_service" state,
      ← entry "Status: " "response_status" state,
      ← entry "Cached: " "use_cache" state,
      ← entry "Retries: " "retry_count" state,
      ← entry "Response: " "response_body" state]

def experimentSample (user experiment override : String) : Value :=
  .record [
    ("user_id", user), ("experiment_id", experiment), ("variant", ""), ("user_segment", ""),
    ("feature_flags", .record []), ("experiment_config", .record []),
    ("tracking_data", .record []), ("conversion_tracked", false), ("override_variant", override)]

def experiment : Demo where
  workflow := Experiment.workflow
  samples := [
    experimentSample "user_123" "homepage_redesign" "",
    experimentSample "user_456" "pricing_test" "",
    experimentSample "user_789" "checkout_flow" "variant_a"]
  report state := do
    let tracking ← state.field "tracking_data"
    return ["",
      ← entry "User: " "user_id" state,
      ← entry "Experiment: " "experiment_id" state,
      ← entry "Segment: " "user_segment" state,
      ← entry "Variant: " "variant" state,
      "Eligibility: " ++ (← (← tracking.fieldOr "eligibility" .null).render),
      "Assignment: " ++ (← (← tracking.fieldOr "assignment" .null).render),
      ← entry "Feature Flags: " "feature_flags" state]

def orderItem (product name : String) (price : Float) (quantity : Int) : Value :=
  .record [
    ("product_id", product), ("name", name), ("price", .float price),
    ("quantity", .int quantity)]

def orders : Demo where
  workflow := Orders.workflow
  samples := [.record [
    ("order_id", "ORD123"), ("customer_id", "CUST456"),
    ("items", .list [orderItem "P1" "Widget" 29.99 2, orderItem "P2" "Gadget" 49.99 1]),
    ("total_amount", .float 0.0), ("inventory_available", false), ("payment_status", "pending"),
    ("shipping_method", ""), ("shipping_address", "123 Main St, City, State 12345"),
    ("tracking_number", ""), ("order_status", "created"), ("notes", .list [])]]
  report state := do
    return [
      ← entry "Order ID: " "order_id" state,
      "Total: $" ++ (← (← state.field "total_amount").fixed 2),
      ← entry "Status: " "order_status" state,
      ← entry "Payment: " "payment_status" state,
      ← entry "Shipping: " "shipping_method" state,
      ← entry "Tracking: " "tracking_number" state,
      "",
      "Notes:"] ++ (← eachLine "  - " "notes" state)

def dataSample (data : List (String × String)) : Value :=
  .record [
    ("raw_data", Pipeline.textRecord data), ("data_type", ""), ("validation_errors", .list []),
    ("enriched_data", .record []), ("quality_score", .float 0.0), ("needs_manual_review", false),
    ("processed", false), ("timestamp", "")]

def dataQuality : Demo where
  workflow := DataQuality.workflow
  samples := [
    dataSample [("name", "john doe"), ("email", "john@example.com")],
    dataSample [("product_id", "P123"), ("price", "99.99")],
    dataSample [("email", "invalid-email")]]
  report state := do
    return ["",
      ← entry "Raw data: " "raw_data" state,
      ← entry "Type: " "data_type" state,
      ← entry "Errors: " "validation_errors" state,
      "Quality: " ++ (← (← state.field "quality_score").fixed 2),
      ← entry "Enriched: " "enriched_data" state,
      ← entry "Processed: " "processed" state]

def pipeline : Demo where
  workflow := Pipeline.workflow
  samples := [.record [
    ("source_type", "database"), ("source_config", .record []), ("raw_records", .list []),
    ("transformed_records", .list []), ("validation_errors", .list []), ("record_count", .int 0),
    ("success_count", .int 0), ("error_count", .int 0), ("transformation_rules", .list []),
    ("destination_type", "warehouse"), ("load_status", ""), ("pipeline_stats", .record [])]]
  report state := do
    let rate ← (← (← state.field "pipeline_stats").field "success_rate").fixed 1
    return [
      "Pipeline Stats:",
      ← entry "  Source: " "source_type" state,
      ← entry "  Destination: " "destination_type" state,
      ← entryIn "  Total records: " "pipeline_stats" "total_records" state,
      ← entryIn "  Successful: " "pipeline_stats" "successful" state,
      ← entryIn "  Failed: " "pipeline_stats" "failed" state,
      "  Success rate: " ++ rate ++ "%",
      ← entryIn "  Validation errors: " "pipeline_stats" "validation_errors" state,
      "",
      ← entry "Load status: " "load_status" state]

def campaign : Demo where
  workflow := Campaign.workflow
  samples := [.record [
    ("campaign_id", "CAMP_2024_01"), ("campaign_type", "newsletter"), ("recipients", .list []),
    ("segment_criteria", .record [("segment", "active"), ("subscribed", true)]),
    ("template_id", "TEMPLATE_001"), ("personalization_data", .record []),
    ("subject_line", "Your Weekly Newsletter"),
    ("email_content", "Hi \x7b\x7bname\x7d\x7d,\n\nHere's what's new this week..."),
    ("scheduled_time", ""), ("delivery_status", .record []), ("engagement_metrics", .record []),
    ("ab_test_enabled", true), ("ab_variants", .list [])]]
  report state := do
    let delivery ← state.field "delivery_status"
    return [
      ← entry "Campaign ID: " "campaign_id" state,
      ← entry "Type: " "campaign_type" state,
      "Recipients: " ++ (← countIn "recipients" state),
      ← entry "Scheduled: " "scheduled_time" state,
      "",
      "Delivery Status:",
      "  Sent: " ++ (← (← delivery.fieldOr "sent" (.int 0)).render),
      "  Failed: " ++ (← (← delivery.fieldOr "failed" (.int 0)).render),
      "",
      "A/B Test Variants: " ++ (← countIn "ab_variants" state)] ++
      (← eachLine "  - " "ab_variants" state)

def recommendationSample (user : String) (context : List (String × String)) : Value :=
  .record [
    ("user_id", user), ("user_profile", .record []), ("context", Pipeline.textRecord context),
    ("browsing_history", .list []), ("purchase_history", .list []), ("recommendations", .list []),
    ("recommendation_strategy", ""), ("confidence_score", .float 0.0),
    ("personalization_level", "")]

def recommendations : Demo where
  workflow := Recommendations.workflow
  samples := [
    recommendationSample "user_123" [("page", "home")],
    recommendationSample "" [("category", "electronics")]]
  report state := do
    let user ← state.field "user_id"
    let best ← (← (← state.field "recommendations").takeFirst 3).members
    let lines ← best.mapM fun v => do
      return (← entry "  - " "product_id" v) ++ (← entry ": " "reason" v)
    return ["",
      "User ID: " ++ (← if user.truthy then user.render else pure "Anonymous"),
      ← entry "Strategy: " "recommendation_strategy" state,
      "Confidence: " ++ (← (← state.field "confidence_score").fixed 2),
      "Recommendations: " ++ (← countIn "recommendations" state) ++ " items"] ++ lines

def chain : Demo where
  workflow := Chain.workflow
  samples := [.record [("counter", .int 0), ("messages", .list [])]]
  report state := do
    return [← entry "Final counter: " "counter" state, ← entry "Messages: " "messages" state]

def threshold : Demo where
  workflow := Threshold.workflow
  samples := [.record [
    ("value", .int 25), ("path_taken", .list []), ("should_continue", true)]]
  report state := do
    return [
      ← entry "Final value: " "value" state,
      "Path taken: " ++ (← (← state.field "path_taken").joined " -> ")]

def accumulator : Demo where
  workflow := Accumulator.workflow
  samples := [.record [
    ("iteration", .int 0), ("max_iterations", .int 5), ("accumulated_value", .int 0),
    ("history", .list [])]]
  report state := do
    return [
      (← entry "Completed " "iteration" state) ++ " iterations",
      ← entry "Final accumulated value: " "accumulated_value" state,
      "",
      "History:"] ++ (← eachLine "  " "history" state)

def pathSample (value : Int) : Value :=
  .record [
    ("input_value", .int value), ("path_a_result", .int 0), ("path_b_result", .int 0),
    ("path_c_result", .int 0), ("final_result", .int 0), ("chosen_path", "")]

def paths : Demo where
  workflow := Paths.workflow
  samples := [10, 50, 80].map pathSample
  report state := do
    return ["",
      ← entry "Input: " "input_value" state,
      ← entry "Chosen path: " "chosen_path" state,
      ← entry "Final result: " "final_result" state]

def rosterUser (name : String) (age : Int) : Value :=
  .record [("name", name), ("age", .int age)]

def roster : Demo where
  workflow := Roster.workflow
  samples := [.record [
    ("users", .list [rosterUser "Alice" 30, rosterUser "Bob" 25, rosterUser "Charlie" 35]),
    ("metadata", .record []), ("current_user", .null), ("scores", .record []),
    ("flags", .record [("scores_calculated", false), ("complete", false)])]]
  report state := do
    return [
      (← entryIn "Processed " "metadata" "total_users" state) ++ " users",
      ← entryIn "Average score: " "metadata" "avg_score" state,
      ← entry "Scores: " "scores" state]

end Demo

end Workgraph
