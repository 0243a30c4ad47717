import Workgraph.Text.Quoted
import Workgraph.Walk

/-!
# Order fulfilment

An order is checked, its items are reserved, and its payment is taken; then it is shipped. An order that
fails on the way is cancelled, and what was taken for it is given back.
-/

namespace Workgraph.Orders

open Step

/-- What an item costs: its price times its quantity, with zero and one as defaults. -/
def itemCost (item : Value) : Except Fault Number := do
  let price ← item.fieldOr "price" (.int 0)
  let quantity ← item.fieldOr "quantity" (.int 1)
  price.product quantity

/-- A sum with the cost of an item added. -/
def addCost (sum : Number) (item : Value) : Except Fault Number := do
  sum.add (← itemCost item)

def totalCost (items : List Value) : Except Fault Number := items.foldlM addCost (.int 0)

/-- Notes an error unless a condition holds. -/
def noteUnless (condition : Bool) (note : String) : List Value :=
  if condition then [] else [.text note]

/-- Checks the fields that an order needs, and adds up its items if it has no total. -/
def validate : Step Unit := do
  let customer ← isSet "customer_id"
  let items ← either (do return !(← isSet "items")) do
    return (← (← read "items").size) == 0
  let address ← isSet "shipping_address"
  let errors :=
    noteUnless customer "ERROR: Missing customer ID" ++
      noteUnless (!items) "ERROR: No items in order" ++
      noteUnless address "ERROR: Missing shipping address"
  if ← both (do return (← read "total_amount").same (.int 0)) (isSet "items") then
    let total ← totalCost (← (← read "items").members)
    write "total_amount" (.ofNumber total)
    let shown ← total.fixed 2
    extend "notes" (errors ++ [.text ("Calculated total: $" ++ shown)])
  else
    extend "notes" errors

/-- The number of pieces in stock of every item. -/
def stock : Int := 100

/-- Notes each item that is asked for in a larger number than the stock, and says whether there is
none. -/
def checkItems : List Value → Step Bool
  | [] => return true
  | item :: rest => do
    let product ← item.fieldOr "product_id" ""
    let quantity ← item.fieldOr "quantity" (.int 0)
    if ← quantity.greater (.int stock) then
      append "notes" do return .text ("Insufficient stock for item " ++ (← product.render))
      let _others ← checkItems rest
      return false
    else checkItems rest

def checkInventory : Step Unit := do
  let available ← checkItems (← (← read "items").members)
  write "inventory_available" available
  if available then append "notes" (pure "Inventory reserved")

/-- Takes a payment above zero and up to ten thousand; a larger one waits for a review. -/
def processPayment : Step Unit := do
  let amount ← read "total_amount"
  if ← amount.atMost (.int 0) then
    write "payment_status" "failed"
    append "notes" (pure "ERROR: Invalid payment amount")
  else if ← amount.greater (.int 10000) then
    write "payment_status" "pending"
    append "notes" (pure "High-value order flagged for review")
  else
    write "payment_status" "captured"
    append "notes" do return .text ("Payment captured: $" ++ (← amount.fixed 2))

def selectShipping : Step Unit := do
  let total ← read "total_amount"
  let count ← (← read "items").size
  if ← total.atLeast (.int 100) then
    write "shipping_method" "free_standard"
    append "notes" (pure "Free shipping applied (order > $100)")
  else if 5 < count then
    write "shipping_method" "bulk_shipping"
    append "notes" (pure "Bulk shipping selected")
  else if ← total.atLeast (.int 50) then
    write "shipping_method" "standard"
  else
    write "shipping_method" "economy"

/-- The tracking number for an identifier: its first eight hexadecimal digits in capitals. -/
def trackingNumber (uuid : Nat) : String :=
  "TRK" ++ String.ofList (((Text.hexDigits 32 uuid).take 8).map Char.toUpper)

def createShipment : Step Unit := do
  let number := trackingNumber (← drawUuid)
  write "tracking_number" number
  write "order_status" "shipped"
  append "notes" (pure (.text ("Shipment created: " ++ number)))

/-- Gives back the payment and the reserved items. -/
def cancel : Step Unit := do
  write "order_status" "cancelled"
  if ← holds "payment_status" "captured" then
    write "payment_status" "refunded"
    append "notes" (pure "Payment refunded")
  if ← isSet "inventory_available" then
    append "notes" (pure "Inventory released")

def finalize : Step Unit := write "order_status" "processing"

def isError (note : Value) : Except Fault Bool := do
  return "ERROR:".toList.isPrefixOf (← note.chars)

def routeAfterValidation : Step Value := do
  let errors ← (← (← read "notes").members).mapM fun note => isError note
  if errors.any id then return "cancel" else return "check_inventory"

def routeAfterInventory : Step Value := do
  if ← isSet "inventory_available" then return "payment" else return "cancel"

def routeAfterPayment : Step Value := do
  if ← holds "payment_status" "captured" then return "shipping_select" else return "cancel"

def workflow : Workflow where
  schema := "OrderState"
  fields := ["order_id", "customer_id", "items", "total_amount", "inventory_available",
    "payment_status", "shipping_method", "shipping_address", "tracking_number", "order_status",
    "notes"]
  entry := "validate"
  nodes := [
    ⟨"validate", "validate_order", "Validate order details.", validate⟩,
    ⟨"check_inventory", "check_inventory", "Check inventory availability for all items.",
      checkInventory⟩,
    ⟨"payment", "process_payment", "Process payment for the order.", processPayment⟩,
    ⟨"shipping_select", "select_shipping_method",
      "Select appropriate shipping method based on order details.", selectShipping⟩,
    ⟨"shipment", "create_shipment", "Create shipment and generate tracking number.",
      createShipment⟩,
    ⟨"cancel", "cancel_order", "Cancel order and reverse any transactions.", cancel⟩,
    ⟨"finalize", "finalize_order", "Mark order as complete.", finalize⟩]
  edges := [
    ("shipping_select", "shipment"),
    ("shipment", "finalize"),
    ("finalize", terminal),
    ("cancel", terminal)]
  branchings := [
    ⟨"validate", ⟨"route_after_validation", routeAfterValidation⟩,
      [("check_inventory", "check_inventory"), ("cancel", "cancel")]⟩,
    ⟨"check_inventory", ⟨"route_after_inventory", routeAfterInventory⟩,
      [("payment", "payment"), ("cancel", "cancel")]⟩,
    ⟨"payment", ⟨"route_after_payment", routeAfterPayment⟩,
      [("shipping_select", "shipping_select"), ("cancel", "cancel")]⟩]

end Workgraph.Orders
