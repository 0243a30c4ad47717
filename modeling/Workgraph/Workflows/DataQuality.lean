import Workgraph.Text.Casing
import Workgraph.Walk

/-!
# Data quality

A piece of data is classified by its fields, checked, enriched and graded. Data of low quality goes to a
person.
-/

namespace Workgraph.DataQuality

open Step

def hasBoth (first second : String) (data : Value) : Except Fault Bool := do
  if ← (Value.text first).isIn data then (Value.text second).isIn data else return false

def classify : Step Unit := do
  let data ← read "raw_data"
  if ← hasBoth "email" "name" data then write "data_type" "contact"
  else if ← hasBoth "product_id" "price" data then write "data_type" "product"
  else if ← hasBoth "user_id" "action" data then write "data_type" "event"
  else write "data_type" "unknown"

/-- The complaint about a field that data lacks, or else what `check` says. -/
def requireField (key : String) (data : Value) (check : Except Fault (List String)) :
    Except Fault (List String) := do
  if ← (Value.text key).isIn data then check else return ["Missing required field: " ++ key]

def contactErrors (data : Value) : Except Fault (List String) := do
  let email ← requireField "email" data do
    if ← (Value.text "@").isIn (← data.fieldOr "email" "") then return []
    else return ["Invalid email format"]
  let name ← requireField "name" data do
    if (← (← data.fieldOr "name" "").size) < 2 then return ["Name too short"] else return []
  return email ++ name

/-- The complaint about a price that is negative or cannot be read. -/
def priceErrors (price : Value) : Except Fault (List String) :=
  match price.toFloat with
  | .ok x => .ok (if x < 0 then ["Price cannot be negative"] else [])
  | .error fault => if fault.isUnreadable then .ok ["Price must be a number"] else .error fault

def productErrors (data : Value) : Except Fault (List String) := do
  let product ← requireField "product_id" data (return [])
  let price ← requireField "price" data do priceErrors (← data.field "price")
  return product ++ price

def eventErrors (data : Value) : Except Fault (List String) := do
  let user ← requireField "user_id" data (return [])
  let action ← requireField "action" data (return [])
  return user ++ action

/-- The complaints about data of some type. -/
def errorsOf (type data : Value) : Except Fault (List String) :=
  if type.same "contact" then contactErrors data
  else if type.same "product" then productErrors data
  else if type.same "event" then eventErrors data
  else .ok []

def validate : Step Unit := do
  let data ← read "raw_data"
  let type ← read "data_type"
  write "validation_errors" (.list ((← errorsOf type data).map .text))

/-- The mail services that serve private persons. -/
def consumerDomains : List String := ["gmail.com", "yahoo.com", "hotmail.com"]

/-- Adds the domain of the address and its sort, and writes the name in title case. -/
def enrichContact (data : Value) : Except Fault Value := do
  let data ←
    if ← (Value.text "email").isIn data then do
      let domain := Text.lastPiece '@' (← (← data.field "email").chars)
      let data ← data.setField "email_domain" (Value.ofChars domain)
      data.setField "email_provider"
        (if consumerDomains.contains (String.ofList domain) then "consumer" else "business")
    else pure data
  if ← (Value.text "name").isIn data then
    data.setField "name" (Value.ofChars (Text.title (← (← data.field "name").chars)))
  else return data

def priceTier (price : Float) : String :=
  if price < 10 then "budget" else if price < 100 then "standard" else "premium"

/-- Adds the tier of the price. -/
def enrichProduct (data : Value) : Except Fault Value := do
  if ← (Value.text "price").isIn data then
    data.setField "price_tier" (priceTier (← (← data.field "price").toFloat))
  else return data

/-- Adds the time if there is none. -/
def enrichEvent (now : DateTime) (data : Value) : Except Fault Value := do
  if ← (Value.text "timestamp").isIn data then return data
  else data.setField "timestamp" now.text

/-- The data with what can be told from it. -/
def enriched (now : DateTime) (type data : Value) : Except Fault Value :=
  if type.same "contact" then enrichContact data
  else if type.same "product" then enrichProduct data
  else if type.same "event" then enrichEvent now data
  else .ok data

def enrich : Step Unit := do
  let data ← (← read "raw_data").copy
  let type ← read "data_type"
  write "enriched_data" (← enriched (← now) type data)

/-- The grade of data: a fifth off for each error, a tenth added for each new field, and kept between
zero and one. -/
def score (errors : Nat) (added : Int) : Float :=
  let graded := 1.0 - Binary64.ofNat errors * 0.2 + Binary64.nearest added * 0.1
  let capped := if graded < 1.0 then graded else 1.0
  if capped > 0.0 then capped else 0.0

def grade : Step Unit := do
  let errors ← (← read "validation_errors").size
  let after ← (← read "enriched_data").size
  let before ← (← read "raw_data").size
  let grade := score errors ((after : Int) - before)
  write "quality_score" (.float grade)
  if grade < 0.6 then write "needs_manual_review" true

def queueForReview : Step Unit := write "processed" false

def finalize : Step Unit := do
  write "processed" true
  write "timestamp" (.text (← now).text)

def routeAfterValidation : Step Value := do
  if 3 < (← (← read "validation_errors").size) then return terminal else return "enrich"

def routeAfterGrading : Step Value := do
  if ← isSet "needs_manual_review" then return "manual_review" else return "finalize"

def workflow : Workflow where
  schema := "DataState"
  fields := ["raw_data", "data_type", "validation_errors", "enriched_data", "quality_score",
    "needs_manual_review", "processed", "timestamp"]
  entry := "classify"
  nodes := [
    ⟨"classify", "classify_data", "Classify incoming data type.", classify⟩,
    ⟨"validate", "validate_schema", "Validate data against schema.", validate⟩,
    ⟨"enrich", "enrich_data", "Enrich data with additional information.", enrich⟩,
    ⟨"quality", "calculate_quality_score", "Calculate data quality score.", grade⟩,
    ⟨"manual_review", "manual_review_queue", "Queue data for manual review.", queueForReview⟩,
    ⟨"finalize", "finalize_processing", "Finalize data processing.", finalize⟩]
  edges := [
    ("classify", "validate"),
    ("enrich", "quality"),
    ("manual_review", terminal),
    ("finalize", terminal)]
  branchings := [
    ⟨"validate", ⟨"route_after_validation", routeAfterValidation⟩,
      [("enrich", "enrich"), (terminal, terminal)]⟩,
    ⟨"quality", ⟨"route_after_quality", routeAfterGrading⟩,
      [("manual_review", "manual_review"), ("finalize", "finalize")]⟩]

end Workgraph.DataQuality
