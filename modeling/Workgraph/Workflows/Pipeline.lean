import Workgraph.Text.Casing
import Workgraph.Walk

/-!
# Data pipeline

Records are extracted from a source, checked, brought into shape, enriched and loaded. A record with an
error is left out; when there are as many errors as records, none is loaded.
-/

namespace Workgraph.Pipeline

open Step

def textRecord (entries : List (String × String)) : Value :=
  .record (entries.map fun entry => (entry.1, .text entry.2))

def databaseRecords : List Value := [
  textRecord [("id", "1"), ("name", "John Doe"), ("age", "30"), ("email", "john@example.com")],
  textRecord [("id", "2"), ("name", "Jane Smith"), ("age", "25"), ("email", "jane@example.com")],
  textRecord [("id", "3"), ("name", "Bob Wilson"), ("age", "invalid"), ("email", "bob@example")]]

def apiRecords : List Value := [
  textRecord [("user_id", "101"), ("transaction_amount", "150.50"), ("date", "2024-01-15")],
  textRecord [("user_id", "102"), ("transaction_amount", "75.25"), ("date", "2024-01-16")]]

def fileRecords : List Value := [
  textRecord [("product_id", "P1"), ("quantity", "100"), ("price", "29.99")],
  textRecord [("product_id", "P2"), ("quantity", "50"), ("price", "49.99")]]

def recordsOf (source : Value) : List Value :=
  if source.same "database" then databaseRecords
  else if source.same "api" then apiRecords
  else if source.same "file" then fileRecords
  else []

def extract : Step Unit := do
  let records := recordsOf (← read "source_type")
  write "raw_records" (.list records)
  write "record_count" (.ofNat records.length)

def has (key : String) (r : Value) : Except Fault Bool := (Value.text key).isIn r

/-- A complaint: the field it is about and what is wrong with it. -/
abbrev Problem := String × String

/-- What `check` says about a field, or nothing if the record lacks it. -/
def checkField (key : String) (r : Value) (check : Value → Except Fault (List String)) :
    Except Fault (List Problem) := do
  if ← has key r then return (← check (← r.field key)).map fun wrong => (key, wrong)
  else return []

def checkId (id : Value) : Except Fault (List String) :=
  .ok (if id.truthy then [] else ["Missing ID"])

def checkEmail (email : Value) : Except Fault (List String) := do
  let proper ← if ← (Value.text "@").isIn email then (Value.text ".").isIn email else pure false
  return if proper then [] else ["Invalid email format"]

def checkAge (age : Value) : Except Fault (List String) :=
  match age.toInt with
  | .ok n => .ok (if n < 0 || 150 < n then ["Age out of range"] else [])
  | .error fault => if fault.isUnreadable then .ok ["Age must be numeric"] else .error fault

def checkAmount (amount : Value) : Except Fault (List String) :=
  match amount.toFloat with
  | .ok x => .ok (if x < 0 then ["Amount cannot be negative"] else [])
  | .error fault => if fault.isUnreadable then .ok ["Amount must be numeric"] else .error fault

def problemsOf (r : Value) : Except Fault (List Problem) := do
  let id ← checkField "id" r checkId
  let email ← checkField "email" r checkEmail
  let age ← checkField "age" r checkAge
  let amount ← checkField "transaction_amount" r checkAmount
  return id ++ email ++ age ++ amount

/-- A problem of the record at a position, as an entry of the error list. -/
def errorEntry (position : Nat) (problem : Problem) : Value :=
  .record [("record", .ofNat position), ("field", .text problem.1), ("error", .text problem.2)]

/-- The error entries of records, the first of which stands at a position. -/
def errorsFrom (position : Nat) : List Value → Except Fault (List Value)
  | [] => .ok []
  | r :: rest => do
    let problems ← problemsOf r
    return problems.map (errorEntry position) ++ (← errorsFrom (position + 1) rest)

def validate : Step Unit := do
  let errors ← errorsFrom 0 (← (← read "raw_records").members)
  write "validation_errors" (.list errors)

abbrev Change := Value → Except Fault Value

/-- A change that is made only if the record has a field. -/
def ifHas (key : String) (change : Change) : Change := fun r => do
  if ← has key r then change r else return r

def normalizeName : Change := fun r => do
  r.setField "name" (Value.ofChars (Text.title (← (← r.field "name").chars)))

def normalizeEmail : Change := fun r => do
  r.setField "email" (Value.ofChars (Text.lower (← (← r.field "email").chars)))

def ageGroup (age : Int) : String :=
  if age < 18 then "minor" else if age < 65 then "adult" else "senior"

def convertAge : Change := fun r => do
  let age ← (← r.field "age").toInt
  (← r.setField "age" (.int age)).setField "age_group" (ageGroup age)

def amountTier (amount : Float) : String :=
  if amount < 50 then "small" else if amount < 200 then "medium" else "large"

def convertAmount : Change := fun r => do
  let amount ← (← r.field "transaction_amount").toFloat
  (← r.setField "transaction_amount" (.float amount)).setField "tier" (amountTier amount)

def addTotalValue : Change := fun r => do
  let price ← (← r.field "price").toFloat
  let quantity ← (← r.field "quantity").toInt
  r.setField "total_value" (← (Value.float price).mul (.int quantity))

/-- A record brought into shape. -/
def transformed : Change := fun r => do
  let r ← r.copy
  let r ← ifHas "name" normalizeName r
  let r ← ifHas "email" normalizeEmail r
  let r ← ifHas "age" convertAge r
  let r ← ifHas "transaction_amount" convertAmount r
  ifHas "price" (ifHas "quantity" addTotalValue) r

/-- Whether an error list has an entry about a position. -/
def mentions (position : Nat) (errors : Value) : Except Fault Bool := do
  let found ← (← errors.members).mapM fun entry => do
    return (← entry.field "record").same (.ofNat position)
  return found.any id

/-- Brings the records without errors into shape; the first record stands at a position. The counts of
errors and successes grow on the way. -/
def transformFrom (position : Nat) : List Value → Step (List Value)
  | [] => return []
  | r :: rest => do
    if ← mentions position (← read "validation_errors") then
      increment "error_count"
      transformFrom (position + 1) rest
    else
      let shaped ← transformed r
      increment "success_count"
      return shaped :: (← transformFrom (position + 1) rest)

def transform : Step Unit := do
  let records ← transformFrom 0 (← (← read "raw_records").members)
  write "transformed_records" (.list records)

def errorCount (errors r : Value) : Except Fault Nat := do
  let found ← (← errors.members).mapM fun entry => do
    return (← entry.fieldOr "record" .null).same (← r.fieldOr "id" .null)
  return found.countP id

/-- Enriches the records after those that are done: the time, the source and a grade are added. -/
def enrichFrom (done : List Value) : List Value → Step Unit
  | [] => return
  | r :: rest => do
    let keep (r : Value) := write "transformed_records" (.list (done ++ r :: rest))
    let r ← r.setField "processed_at" (.text (← now).text)
    keep r
    let r ← r.setField "source" (← read "source_type")
    keep r
    let errors ← errorCount (← read "validation_errors") r
    let r ← r.setField "quality_score" (.float (if errors = 0 then 1.0 else 0.5))
    keep r
    enrichFrom (done ++ [r]) rest

def enrich : Step Unit := do
  enrichFrom [] (← (← read "transformed_records").members)

/-- Notes how many records went where. -/
def noteLoaded (verb place : String) : Step Unit := do
  let count ← (← read "transformed_records").size
  write "load_status" (.text (s!"{verb} {count} records to {place}"))

def load : Step Unit := do
  let destination ← read "destination_type"
  if destination.same "database" then noteLoaded "Loaded" "database"
  else if destination.same "warehouse" then noteLoaded "Loaded" "warehouse"
  else if destination.same "file" then noteLoaded "Written" "file"

def successRate : Step Value := do
  if ← (← read "record_count").greater (.int 0) then
    let rate ← (← read "success_count").divide (← read "record_count")
    rate.mul (.int 100)
  else return .int 0

def summarize : Step Unit := do
  let total ← read "record_count"
  let successful ← read "success_count"
  let failed ← read "error_count"
  let rate ← successRate
  let errors ← (← read "validation_errors").size
  write "pipeline_stats" (.record [
    ("total_records", total),
    ("successful", successful),
    ("failed", failed),
    ("success_rate", rate),
    ("validation_errors", .ofNat errors)])

/-- Goes on to the transformation unless there are at least as many errors as records. -/
def routeAfterValidation : Step Value := do
  let errors ← (← read "validation_errors").size
  if ← (Value.ofNat errors).atLeast (← read "record_count") then
    write "load_status" "FAILED: All records invalid"
    return "stats"
  else return "transform"

def workflow : Workflow where
  schema := "ETLState"
  fields := ["source_type", "source_config", "raw_records", "transformed_records",
    "validation_errors", "record_count", "success_count", "error_count", "transformation_rules",
    "destination_type", "load_status", "pipeline_stats"]
  entry := "extract"
  nodes := [
    ⟨"extract", "extract_data", "Extract data from source.", extract⟩,
    ⟨"validate", "validate_records", "Validate extracted records.", validate⟩,
    ⟨"transform", "transform_data", "Transform data according to business rules.", transform⟩,
    ⟨"enrich", "enrich_data", "Enrich data with additional information.", enrich⟩,
    ⟨"load", "load_data", "Load transformed data to destination.", load⟩,
    ⟨"stats", "generate_stats", "Generate pipeline statistics.", summarize⟩]
  edges := [
    ("extract", "validate"),
    ("transform", "enrich"),
    ("enrich", "load"),
    ("load", "stats"),
    ("stats", terminal)]
  branchings := [
    ⟨"validate", ⟨"route_after_validation", routeAfterValidation⟩,
      [("transform", "transform"), ("stats", "stats")]⟩]

end Workgraph.Pipeline
