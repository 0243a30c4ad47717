import Workgraph.Walk

/-!
# Experiments

A user is put into a segment, and users of the segments that an experiment is meant for are shared out
among its variants by a hash. The feature flags of the experiment and of the variant are then in force.
-/

namespace Workgraph.Experiment

open Step

def segmentFor (point : Int) : String :=
  if point < 20 then "new_users"
  else if point < 50 then "active_users"
  else "power_users"

/-- A point between 0 and 99, drawn from the hashes. -/
def drawPoint : Step Int := return (← drawHash) % 100

def identify : Step Unit := do
  let _user ← read "user_id"
  write "user_segment" (segmentFor (← drawPoint))

/-- What is set up for an experiment. -/
structure Setup where
  variants : List String
  allocation : List (String × Float)
  segments : List String
  flag : String

namespace Setup

/-- The feature flags that an experiment switches on. -/
def flags (setup : Setup) : Value := .record [(setup.flag, .bool true)]

/-- A setup as a configuration record. -/
def toValue (setup : Setup) : Value :=
  .record [
    ("variants", .list (setup.variants.map .text)),
    ("traffic_allocation", .record (setup.allocation.map fun entry => (entry.1, .float entry.2))),
    ("target_segments", .list (setup.segments.map .text)),
    ("feature_flags", setup.flags)]

end Setup

def setups : List (String × Setup) := [
  ("homepage_redesign", {
    variants := ["control", "variant_a", "variant_b"]
    allocation := [("control", 0.4), ("variant_a", 0.3), ("variant_b", 0.3)]
    segments := ["new_users", "active_users"]
    flag := "new_homepage" }),
  ("pricing_test", {
    variants := ["control", "variant_a"]
    allocation := [("control", 0.5), ("variant_a", 0.5)]
    segments := ["power_users"]
    flag := "new_pricing" }),
  ("checkout_flow", {
    variants := ["control", "variant_a"]
    allocation := [("control", 0.6), ("variant_a", 0.4)]
    segments := ["new_users", "active_users", "power_users"]
    flag := "streamlined_checkout" })]

/-- Looks an atom up in a table of names. -/
def lookup (table : List (String × α)) : Value → Except Fault (Option α)
  | .text name => .ok (table.lookup name)
  | v => if v.isAtom then .ok none else .error .wrongKind

/-- Notes whether the feature flags in force are those of the configuration. -/
def linkFlags (linked : Bool) : Step Unit :=
  modify fun session => { session with flagsLinked := linked }

def loadConfig : Step Unit := do
  match ← lookup setups (← read "experiment_id") with
  | some setup =>
    write "experiment_config" setup.toValue
    write "feature_flags" setup.flags
    linkFlags true
  | none =>
    write "experiment_config" (.record [])
    write "feature_flags" (.record [])
    linkFlags false

/-- Users of the segments that the experiment is meant for take part; the others see the control. -/
def checkEligibility : Step Unit := do
  let segment ← read "user_segment"
  let segments ← (← read "experiment_config").fieldOr "target_segments" (.list [])
  if ← segment.isIn segments then
    writeIn "tracking_data" "eligibility" "included"
  else
    write "variant" "control"
    writeIn "tracking_data" "eligibility" "excluded"

/-- The first variant whose share, in whole percent and added to those before it, exceeds the point. -/
def allot (point : Int) (below : Int) : Fields → Except Fault String
  | [] => .ok "control"
  | (variant, share) :: rest => do
    let bound := below + (← (← share.mul (.int 100)).toInt)
    if point < bound then return variant else allot point bound rest

/-- Takes the variant that is asked for, or else shares the user out. -/
def assignVariant : Step Unit := do
  if ← isSet "override_variant" then
    write "variant" (← read "override_variant")
    writeIn "tracking_data" "assignment" "override"
  else
    let config ← read "experiment_config"
    let _variants ← config.fieldOr "variants" (.list [.text "control"])
    let allocation ← config.fieldOr "traffic_allocation" (.record [])
    let _key ← (← read "user_id").add (← read "experiment_id")
    let point ← drawPoint
    write "variant" (.text (← allot point 0 (← allocation.fields)))
    writeIn "tracking_data" "assignment" "algorithmic"

/-- The feature flags that belong to a variant. -/
def variantFlags : List (String × Fields) := [
  ("variant_a", [("use_new_design", .bool true), ("show_recommendations", .bool true)]),
  ("variant_b", [("use_new_design", .bool true), ("show_social_proof", .bool true)]),
  ("control", [("use_new_design", .bool false)])]

/-- Puts the flags of the variant in force, also in the configuration where both are one record. -/
def activateFeatures : Step Unit := do
  let new := (← lookup variantFlags (← read "variant")).getD []
  let flags : Value := .record (Fields.update (← (← read "feature_flags").fields) new)
  write "feature_flags" flags
  if (← get).flagsLinked then writeIn "experiment_config" "feature_flags" flags

def trackAssignment : Step Unit := do
  let event : Value := .record [
    ("event", "experiment_assignment"),
    ("experiment_id", ← read "experiment_id"),
    ("variant", ← read "variant"),
    ("user_id", ← read "user_id"),
    ("user_segment", ← read "user_segment"),
    ("timestamp", "2024-01-15T12:00:00Z")]
  writeIn "tracking_data" "assignment_event" event

def routeAfterEligibility : Step Value := do
  let eligibility ← (← read "tracking_data").fieldOr "eligibility" .null
  if eligibility.same "excluded" then return "track" else return "assign"

def workflow : Workflow where
  schema := "ABTestState"
  fields := ["user_id", "experiment_id", "variant", "user_segment", "feature_flags",
    "experiment_config", "tracking_data", "conversion_tracked", "override_variant"]
  entry := "identify"
  nodes := [
    ⟨"identify", "identify_user", "Identify user and determine segment.", identify⟩,
    ⟨"load_config", "load_experiment_config", "Load experiment configuration and targeting rules.",
      loadConfig⟩,
    ⟨"check_eligibility", "check_eligibility", "Check if user is eligible for experiment.",
      checkEligibility⟩,
    ⟨"assign", "assign_variant", "Assign user to experiment variant.", assignVariant⟩,
    ⟨"activate", "activate_features", "Activate variant-specific features.", activateFeatures⟩,
    ⟨"track", "track_assignment", "Track variant assignment for analytics.", trackAssignment⟩]
  edges := [
    ("identify", "load_config"),
    ("load_config", "check_eligibility"),
    ("assign", "activate"),
    ("activate", "track"),
    ("track", terminal)]
  branchings := [
    ⟨"check_eligibility", ⟨"route_after_eligibility", routeAfterEligibility⟩,
      [("assign", "assign"), ("track", "track")]⟩]

end Workgraph.Experiment
