import Workgraph.Walk

/-!
# Request gateway

A request is sent to the service that its path names, after a look into the cache. A call that fails is
repeated until the circuit breaker opens.
-/

namespace Workgraph.Gateway

open Step

/-- The services by the start of the paths that they serve. -/
def services : List (String × String) := [
  ("/api/users", "user_service"),
  ("/api/products", "product_service"),
  ("/api/orders", "order_service")]

def serviceFor (path : List Char) : String :=
  match services.find? fun entry => entry.1.toList.isPrefixOf path with
  | some entry => entry.2
  | none => "unknown"

def routeRequest : Step Unit := do
  let path ← (← read "request_path").chars
  write "target_service" (serviceFor path)

/-- A response body with a mark of how it came about and the service that gave it. -/
def body (mark : String) (service : Value) : Except Fault Value := do
  return .text ("\x7b\"" ++ mark ++ "\": true, \"service\": \"" ++ (← service.render) ++ "\"\x7d")

/-- Answers a reading request from the cache if its path asks for a list or for one thing. -/
def checkCache : Step Unit := do
  if ← holds "request_method" "GET" then
    let _service ← read "target_service"
    let _path ← read "request_path"
    if ← either (do (Value.text "list").isIn (← read "request_path"))
        (do (Value.text "get").isIn (← read "request_path")) then
      write "use_cache" true
      write "response_status" (.int 200)
      write "response_body" (← body "cached" (← read "target_service"))
    else
      write "use_cache" false
  else
    write "use_cache" false

def succeed (service : Value) : Step Unit := do
  write "response_status" (.int 200)
  write "response_body" (← body "success" service)

def refuse (status : Int) (message : String) : Step Unit := do
  write "response_status" (.int status)
  write "error_message" message

/-- Calls the service. A repeated call succeeds; a first call fails for an unknown service, and by
chance for the others. -/
def callService : Step Unit := do
  let service ← read "target_service"
  if ← (← read "retry_count").greater (.int 0) then succeed service
  else if ← (Value.text "unknown").isIn service then refuse 404 "Service not found"
  else if (← drawRandom) > 0.9 then refuse 500 "Service temporarily unavailable"
  else succeed service

/-- Opens the circuit when no retries are left. -/
def checkCircuit : Step Unit := do
  if ← (← read "retry_count").atLeast (← read "max_retries") then
    write "circuit_open" true

def retry : Step Unit := increment "retry_count"

def useFallback : Step Unit := do
  write "use_fallback" true
  write "response_status" (.int 200)
  write "response_body" "\x7b\"degraded\": true, \"message\": \"Using cached/fallback data\"\x7d"

def reportError : Step Unit := do
  write "response_status" (.int 503)
  write "response_body"
    (.text ("\x7b\"error\": \"" ++ (← (← read "error_message").render) ++ "\", \"retry_after\": 60\x7d"))

def routeAfterCache : Step Value := do
  if ← isSet "use_cache" then return terminal else return "primary"

def routeAfterCall : Step Value := do
  if (← read "response_status").same (.int 200) then return terminal else return "check_circuit"

def routeAfterCircuit : Step Value := do
  if ← isSet "circuit_open" then return "error"
  else if ← (← read "retry_count").less (← read "max_retries") then return "retry"
  else return "fallback"

def workflow : Workflow where
  schema := "APIState"
  fields := ["request_path", "request_method", "request_body", "target_service", "retry_count",
    "max_retries", "response_status", "response_body", "error_message", "use_cache",
    "use_fallback", "circuit_open"]
  entry := "route"
  nodes := [
    ⟨"route", "route_request", "Route incoming request to appropriate service.", routeRequest⟩,
    ⟨"cache", "check_cache", "Check if request can be served from cache.", checkCache⟩,
    ⟨"primary", "call_primary_service", "Call the primary target service.", callService⟩,
    ⟨"check_circuit", "check_circuit_breaker", "Check if circuit breaker should open.",
      checkCircuit⟩,
    ⟨"retry", "retry_request", "Retry failed request with backoff.", retry⟩,
    ⟨"fallback", "use_fallback_service", "Use fallback/degraded service.", useFallback⟩,
    ⟨"error", "format_error_response", "Format error response for client.", reportError⟩]
  edges := [
    ("route", "cache"),
    ("retry", "primary"),
    ("fallback", terminal),
    ("error", terminal)]
  branchings := [
    ⟨"cache", ⟨"route_after_cache", routeAfterCache⟩,
      [("primary", "primary"), (terminal, terminal)]⟩,
    ⟨"primary", ⟨"route_after_primary", routeAfterCall⟩,
      [("check_circuit", "check_circuit"), (terminal, terminal)]⟩,
    ⟨"check_circuit", ⟨"route_after_circuit_check", routeAfterCircuit⟩,
      [("retry", "retry"), ("fallback", "fallback"), ("error", "error")]⟩]

end Workgraph.Gateway
