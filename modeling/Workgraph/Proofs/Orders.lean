import Workgraph.Proofs.Numbers
import Workgraph.Proofs.Steps
import Workgraph.Workflows.Orders

/-!
# The outcome of an order

An order is shipped when it passes the validation, the stock check and the payment, and is cancelled when one
of them stops it. The three are gates of one shape: a step, and a router that sends the order on or
to be cancelled.
-/

namespace Workgraph.Orders

open Step

/-- An item: a record in which price and quantity are integers where they are given. -/
structure Item where
  fields : Fields
  price? : Option Int
  quantity? : Option Int
  price_eq : (Fields.get? "price" fields).map Value.whole? = price?.map some
  quantity_eq : (Fields.get? "quantity" fields).map Value.whole? = quantity?.map some

namespace Item

def record (item : Item) : Value := .record item.fields

def cost (item : Item) : Int := item.price?.getD 0 * item.quantity?.getD 1

def isInStock (item : Item) : Bool := item.quantity?.getD 0 ≤ stock

def costs : List Item → Int
  | [] => 0
  | item :: rest => item.cost + costs rest

private theorem itemCost_record (item : Item) : itemCost item.record = .ok (.int item.cost) := by
  obtain ⟨price, hprice, hpriceWhole⟩ := Value.fieldOr_of_whole? (.int 0) item.price_eq rfl
  obtain ⟨quantity, hquantity, hquantityWhole⟩ :=
    Value.fieldOr_of_whole? (.int 1) item.quantity_eq rfl
  have hproduct := Value.product_of_whole? hpriceWhole hquantityWhole
  simp only [itemCost, record, hprice, hquantity, bind, Except.bind, hproduct, cost]

private theorem foldlM_addCost (items : List Item) (sum : Int) :
    (items.map record).foldlM addCost (.int sum) = .ok (.int (sum + costs items)) := by
  induction items generalizing sum with
  | nil => simp [costs, pure, Except.pure]
  | cons item rest ih =>
      have hadd : addCost (.int sum) item.record = .ok (.int (sum + item.cost)) := by
        simp only [addCost, itemCost_record, bind, Except.bind]
        rfl
      rw [List.map_cons, List.foldlM_cons, hadd]
      simp only [bind, Except.bind, costs]
      rw [ih, Int.add_assoc]

private theorem totalCost_records (items : List Item) :
    totalCost (items.map record) = .ok (.int (costs items)) := by
  rw [totalCost, foldlM_addCost, Int.zero_add]

end Item

/-- An order as it comes in. Other fields may hold anything or be missing. -/
structure Order where
  fields : Fields
  customer : String
  address : String
  notes : List String
  amount : Int
  items : List Item
  customer_eq : Fields.get? "customer_id" fields = some (.text customer)
  address_eq : Fields.get? "shipping_address" fields = some (.text address)
  notes_eq : Fields.get? "notes" fields = some (.list (notes.map .text))
  amount_eq : (Fields.get? "total_amount" fields).bind Value.whole? = some amount
  items_eq : Fields.get? "items" fields = some (.list (items.map Item.record))

namespace Order

def names : List String := ["customer_id", "shipping_address", "notes", "total_amount", "items"]

def put (order : Order) (key : String) (value : Value) (h : key ∉ names) : Order :=
  { order with
    fields := Fields.set key value order.fields
    customer_eq := (Fields.get?_set_of_mem h (by decide) _ _).trans order.customer_eq
    address_eq := (Fields.get?_set_of_mem h (by decide) _ _).trans order.address_eq
    notes_eq := (Fields.get?_set_of_mem h (by decide) _ _).trans order.notes_eq
    amount_eq := by
      rw [Fields.get?_set_of_mem h (by decide)]
      exact order.amount_eq
    items_eq := (Fields.get?_set_of_mem h (by decide) _ _).trans order.items_eq }

def withNotes (order : Order) (lines : List String) : Order :=
  { order with
    fields := Fields.set "notes" (.list ((order.notes ++ lines).map .text)) order.fields
    notes := order.notes ++ lines
    customer_eq := (Fields.get?_set_of_ne _ (by decide) _).trans order.customer_eq
    address_eq := (Fields.get?_set_of_ne _ (by decide) _).trans order.address_eq
    notes_eq := Fields.get?_set_self ..
    amount_eq := by
      rw [Fields.get?_set_of_ne _ (by decide)]
      exact order.amount_eq
    items_eq := (Fields.get?_set_of_ne _ (by decide) _).trans order.items_eq }

def withAmount (order : Order) (amount : Int) : Order :=
  { order with
    fields := Fields.set "total_amount" (.int amount) order.fields
    amount := amount
    customer_eq := (Fields.get?_set_of_ne _ (by decide) _).trans order.customer_eq
    address_eq := (Fields.get?_set_of_ne _ (by decide) _).trans order.address_eq
    notes_eq := (Fields.get?_set_of_ne _ (by decide) _).trans order.notes_eq
    amount_eq := by
      rw [Fields.get?_set_self]
      rfl
    items_eq := (Fields.get?_set_of_ne _ (by decide) _).trans order.items_eq }

theorem fields_put (order : Order) (key : String) (value : Value) (h : key ∉ names) :
    (order.put key value h).fields = Fields.set key value order.fields := rfl

theorem fields_withNotes (order : Order) (lines : List String) : (order.withNotes lines).fields =
    Fields.set "notes" (.list ((order.notes ++ lines).map .text)) order.fields := rfl

theorem fields_withNotes_nil (order : Order) : (order.withNotes []).fields = order.fields := by
  rw [fields_withNotes, List.append_nil, Fields.set_of_get? order.notes_eq]

private theorem fields_withNotes_withNotes (order : Order) (first second : List String) :
    ((order.withNotes first).withNotes second).fields = (order.withNotes (first ++ second)).fields := by
  simp only [withNotes, Fields.set_set, List.append_assoc]

/-- The order with its total filled in if it has none. -/
def priced (order : Order) : Order :=
  if order.amount = 0 ∧ order.items ≠ [] then order.withAmount (Item.costs order.items) else order

def total (order : Order) : Int :=
  if order.amount ≠ 0 then order.amount else Item.costs order.items

private theorem amount_priced (order : Order) : order.priced.amount = order.total := by
  unfold priced total
  by_cases hamount : order.amount = 0
  · by_cases hitems : order.items = []
    · simp [hamount, hitems, Item.costs]
    · simp [hamount, hitems, withAmount]
  · simp [hamount]

private theorem items_priced (order : Order) : order.priced.items = order.items := by
  unfold priced
  split <;> rfl

private theorem notes_priced (order : Order) : order.priced.notes = order.notes := by
  unfold priced
  split <;> rfl

private theorem get?_priced (order : Order) {key : String} (h : key ≠ "total_amount") :
    Fields.get? key order.priced.fields = Fields.get? key order.fields := by
  unfold priced
  split
  · exact Fields.get?_set_of_ne _ (Ne.symm h) _
  · rfl

end Order

def ReportsError (note : String) : Prop := "ERROR:".toList <+: note.toList

instance (note : String) : Decidable (ReportsError note) := inferInstanceAs (Decidable (_ <+: _))

/-- An order that can be shipped. -/
def Order.IsAccepted (order : Order) : Prop :=
  (order.customer ≠ "" ∧ order.items ≠ [] ∧ order.address ≠ "" ∧
      ∀ note ∈ order.notes, ¬ReportsError note) ∧
    (∀ item ∈ order.items, item.quantity?.getD 0 ≤ 100) ∧
    0 < order.total ∧ order.total ≤ 10000

section Steps

variable (session : Session) (order : Order)

private theorem read_customer : read "customer_id" (session.holding order.fields) =
    .ok (.text order.customer) (session.holding order.fields) :=
  read_holding order.customer_eq session

private theorem read_address : read "shipping_address" (session.holding order.fields) =
    .ok (.text order.address) (session.holding order.fields) :=
  read_holding order.address_eq session

theorem read_items : read "items" (session.holding order.fields) =
    .ok (.list (order.items.map Item.record)) (session.holding order.fields) :=
  read_holding order.items_eq session

theorem read_notes : read "notes" (session.holding order.fields) =
    .ok (.list (order.notes.map .text)) (session.holding order.fields) :=
  read_holding order.notes_eq session

theorem exists_read_amount : ∃ v, v.whole? = some order.amount ∧
    read "total_amount" (session.holding order.fields) =
      .ok v (session.holding order.fields) :=
  exists_read_whole order.amount_eq session

theorem extend_notes (lines : List String) :
    extend "notes" (lines.map .text) (session.holding order.fields) =
      .ok () (session.holding (order.withNotes lines).fields) := by
  rw [extend_holding order.notes_eq, Order.fields_withNotes, List.map_append]

theorem append_note (line : String) :
    append "notes" (pure (.text line)) (session.holding order.fields) =
      .ok () (session.holding (order.withNotes [line]).fields) := by
  rw [append_holding order.notes_eq, Order.fields_withNotes, List.map_append]
  rfl

/-- A note is added only if what it tells can be written. -/
theorem append_eq_ok {shown : Except Fault String} {line : String → String} {done : Session}
    (h : append "notes" (do return .text (line (← shown))) (session.holding order.fields) = .ok () done) :
    ∃ s, done = session.holding (order.withNotes [line s]).fields := by
  cases shown with
  | error fault =>
      simp only [append, bind_apply, read_notes, Value.items, liftM_ok, pure_apply] at h
      cases h
  | ok s =>
      rw [liftM_ok, pure_bind, append_note] at h
      cases h
      exact ⟨s, rfl⟩

theorem isSet_items : isSet "items" (session.holding order.fields) =
    .ok (!order.items.isEmpty) (session.holding order.fields) := by
  rw [isSet_of_read (read_items session order), Value.truthy, List.isEmpty_map]

private theorem lacksItems : either (do return !(← isSet "items"))
    (do return (← (← read "items").size) == 0) (session.holding order.fields) =
      .ok order.items.isEmpty (session.holding order.fields) := by
  have hfirst : (do return !(← isSet "items") : Step Bool) (session.holding order.fields) =
      .ok order.items.isEmpty (session.holding order.fields) := by
    simp only [bind_apply, isSet_items, pure_apply, Bool.not_not]
  have hsecond : (do return (← (← read "items").size) == 0 : Step Bool)
      (session.holding order.fields) =
      .ok order.items.isEmpty (session.holding order.fields) := by
    simp only [bind_apply, read_items, Value.size, liftM_ok, pure_apply, List.length_map]
    cases order.items <;> rfl
  rw [either_of_ok hfirst hsecond, Bool.or_self]

private theorem lacksTotal : both (do return (← read "total_amount").same (.int 0)) (isSet "items")
    (session.holding order.fields) =
      .ok (decide (order.amount = 0 ∧ order.items ≠ [])) (session.holding order.fields) := by
  obtain ⟨v, hwhole, hread⟩ := exists_read_amount session order
  have hfirst : (do return (← read "total_amount").same (.int 0) : Step Bool)
      (session.holding order.fields) =
      .ok (decide (order.amount = 0)) (session.holding order.fields) := by
    simp only [bind_apply, hread, pure_apply, Value.same_int hwhole]
  rw [both_of_ok hfirst (isSet_items session order)]
  cases order.items <;> simp

def complaint (missing : Bool) (note : String) : List String := if missing then [note] else []

def complaints (order : Order) : List String :=
  complaint order.customer.isEmpty "ERROR: Missing customer ID" ++
    complaint order.items.isEmpty "ERROR: No items in order" ++
    complaint order.address.isEmpty "ERROR: Missing shipping address"

private theorem noteUnless_not (missing : Bool) (note : String) :
    noteUnless (!missing) note = (complaint missing note).map .text := by
  cases missing <;> rfl

theorem forall_mem_complaint {note : String} (hnote : ReportsError note) (missing : Bool) :
    (∀ line ∈ complaint missing note, ¬ReportsError line) ↔ ¬missing = true := by
  cases missing <;> simp [complaint, hnote]

private theorem forall_mem_complaints : (∀ line ∈ complaints order, ¬ReportsError line) ↔
    order.customer ≠ "" ∧ order.items ≠ [] ∧ order.address ≠ "" := by
  simp only [complaints, List.forall_mem_append]
  rw [forall_mem_complaint (by decide), forall_mem_complaint (by decide),
    forall_mem_complaint (by decide), String.isEmpty_iff, String.isEmpty_iff, List.isEmpty_iff,
    and_assoc]

private theorem validate_eq_ok {done : Session} (h : validate (session.holding order.fields) = .ok () done) :
    ∃ checked : Order, done = session.holding checked.fields ∧
      checked.items = order.items ∧ checked.amount = order.total ∧
      ((∀ note ∈ checked.notes, ¬ReportsError note) ↔
        order.customer ≠ "" ∧ order.items ≠ [] ∧ order.address ≠ "" ∧
          ∀ note ∈ order.notes, ¬ReportsError note) ∧
      Fields.get? "tracking_number" checked.fields = Fields.get? "tracking_number" order.fields := by
  suffices hchecked : ∃ lines, (∀ line ∈ lines, ¬ReportsError line) ∧
      done = session.holding (order.priced.withNotes (complaints order ++ lines)).fields by
    obtain ⟨lines, hlines, rfl⟩ := hchecked
    refine ⟨_, rfl, order.items_priced, order.amount_priced, ?_, ?_⟩
    · change (∀ note ∈ order.priced.notes ++ (complaints order ++ lines), ¬ReportsError note) ↔ _
      rw [order.notes_priced, List.forall_mem_append, List.forall_mem_append,
        forall_mem_complaints, and_iff_left hlines, and_comm, and_assoc, and_assoc]
    · simp [Order.fields_withNotes, Fields.get?_set, order.get?_priced]
  simp only [validate, bind_apply, isSet_of_read (read_customer session order), lacksItems,
    isSet_of_read (read_address session order), lacksTotal, Value.truthy, noteUnless_not,
    ← List.map_append] at h
  split at h <;> rename_i hlacks
  · have hpriced : order.priced = order.withAmount (Item.costs order.items) :=
      if_pos (of_decide_eq_true hlacks)
    have hwrite : write "total_amount" (.int (Item.costs order.items))
        (session.holding order.fields) = .ok () (session.holding order.priced.fields) := by
      rw [hpriced]
      exact write_holding ..
    simp only [bind_apply, read_items, Value.members, liftM_ok, pure_apply, Item.totalCost_records,
      Value.ofNumber, hwrite] at h
    cases hshown : (Number.int (Item.costs order.items)).fixed 2 with
    | error fault =>
        rw [hshown] at h
        cases h
    | ok shown =>
        have hline : ¬ReportsError ("Calculated total: $" ++ shown) := by
          rw [ReportsError, String.toList_append]
          simp
        have hlines (lines : List String) (line : String) :
            lines.map Value.text ++ [.text line] = (lines ++ [line]).map Value.text := by
          simp
        rw [hshown, liftM_ok] at h
        simp only [pure_apply] at h
        rw [hlines, extend_notes] at h
        cases h
        exact ⟨[_], by simpa using hline, rfl⟩
  · have hpriced : order.priced = order := if_neg (fun hlack => hlacks (decide_eq_true hlack))
    rw [extend_notes] at h
    cases h
    refine ⟨[], by simp, ?_⟩
    rw [hpriced, List.append_nil]
    rfl

private theorem isError_text (note : String) : isError (.text note) = .ok (decide (ReportsError note)) := by
  have hprefix : "ERROR:".toList.isPrefixOf note.toList = decide (ReportsError note) := by
    rw [Bool.eq_iff_iff, List.isPrefixOf_iff_prefix, decide_eq_true_iff, ReportsError]
  rw [← hprefix]
  rfl

private theorem routeAfterValidation_eq : routeAfterValidation (session.holding order.fields) =
    .ok (.text (if ∀ note ∈ order.notes, ¬ReportsError note then "check_inventory" else "cancel"))
      (session.holding order.fields) := by
  have herrors : ((order.notes.map Value.text).mapM fun note => liftM (isError note) : Step (List Bool))
      (session.holding order.fields) =
      .ok (order.notes.map fun note => decide (ReportsError note))
        (session.holding order.fields) := by
    rw [List.mapM_map]
    apply mapM_of_ok
    intro note _
    change (liftM (isError (.text note)) : Step Bool) _ = _
    rw [isError_text, liftM_ok, pure_apply]
  simp only [routeAfterValidation, bind_apply, read_notes, Value.members, liftM_ok, pure_apply,
    herrors]
  have hany : (order.notes.map fun note => decide (ReportsError note)).any id = true ↔
      ¬∀ note ∈ order.notes, ¬ReportsError note := by
    simp
  simp only [hany, ite_not]
  split <;> rfl

private theorem checkItems_eq_ok {items : List Item} {available : Bool} {done : Session}
    (h : checkItems (items.map Item.record) (session.holding order.fields) = .ok available done) :
    available = items.all Item.isInStock ∧
      ∃ lines, done = session.holding (order.withNotes lines).fields := by
  induction items generalizing order available done with
  | nil =>
      cases h
      exact ⟨rfl, [], by rw [Order.fields_withNotes_nil]⟩
  | cons item rest ih =>
      obtain ⟨quantity, hquantity, hwhole⟩ :=
        Value.fieldOr_of_whole? (.int 0) item.quantity_eq rfl
      have hproduct : (Value.record item.fields).fieldOr "product_id" "" =
        .ok ((Fields.get? "product_id" item.fields).getD "") := rfl
      simp only [List.map_cons, checkItems, bind_apply, hproduct, liftM_ok, pure_apply, Item.record,
        hquantity, Value.greater_int hwhole] at h
      by_cases hstock : item.quantity?.getD 0 ≤ stock
      · have hinStock : item.isInStock = true := decide_eq_true hstock
        simp only [Int.not_lt.2 hstock, decide_false] at h
        rw [List.all_cons, hinStock, Bool.true_and]
        exact ih order h
      · have hinStock : item.isInStock = false := decide_eq_false hstock
        rw [decide_eq_true (Int.not_le.1 hstock), if_pos rfl, bind_apply] at h
        split at h <;> rename_i hnoted
        · obtain ⟨shown, rfl⟩ := append_eq_ok session order hnoted
          rw [bind_apply] at h
          split at h <;> rename_i hrest
          · obtain ⟨-, lines, rfl⟩ := ih _ hrest
            cases h
            rw [List.all_cons, hinStock, Bool.false_and]
            exact ⟨rfl, _, by rw [Order.fields_withNotes_withNotes]⟩
          · cases h
        · cases h

private theorem checkInventory_eq_ok {done : Session}
    (h : checkInventory (session.holding order.fields) = .ok () done) :
    ∃ checked : Order, done = session.holding checked.fields ∧
      checked.amount = order.amount ∧
      Fields.get? "inventory_available" checked.fields =
        some (.bool (order.items.all Item.isInStock)) ∧
      Fields.get? "tracking_number" checked.fields = Fields.get? "tracking_number" order.fields := by
  simp only [checkInventory, bind_apply, read_items, Value.members, liftM_ok, pure_apply] at h
  split at h <;> rename_i available between hitems
  · obtain ⟨rfl, lines, rfl⟩ := checkItems_eq_ok session order hitems
    have hwrite (available : Bool) : write "inventory_available" available
        (session.holding (order.withNotes lines).fields) =
        .ok () (session.holding ((order.withNotes lines).put "inventory_available" available
          (by decide)).fields) := rfl
    rw [hwrite] at h
    cases hall : order.items.all Item.isInStock with
    | true =>
        rw [hall] at h
        simp only [if_true, append_note] at h
        cases h
        refine ⟨_, rfl, rfl, ?_, ?_⟩ <;>
          simp [Order.fields_put, Order.fields_withNotes, Fields.get?_set]
    | false =>
        rw [hall] at h
        cases h
        refine ⟨_, rfl, rfl, ?_, ?_⟩ <;>
          simp [Order.fields_put, Order.fields_withNotes, Fields.get?_set]
  · cases h

private theorem routeAfterInventory_eq {available : Bool}
    (h : Fields.get? "inventory_available" order.fields = some (.bool available)) :
    routeAfterInventory (session.holding order.fields) =
      .ok (.text (if available then "payment" else "cancel")) (session.holding order.fields) := by
  simp only [routeAfterInventory, bind_apply, isSet_of_read (read_holding h session), Value.truthy]
  split <;> rfl

def paymentStatus (amount : Int) : String :=
  if amount ≤ 0 then "failed" else if 10000 < amount then "pending" else "captured"

private theorem paymentStatus_eq_captured_iff {amount : Int} :
    paymentStatus amount = "captured" ↔ 0 < amount ∧ amount ≤ 10000 := by
  unfold paymentStatus
  split <;> rename_i hfailed
  · simp only [String.reduceEq, false_iff]
    omega
  · split <;> rename_i hpending
    · simp only [String.reduceEq, false_iff]
      omega
    · simp only [true_iff]
      omega

private theorem processPayment_eq_ok {done : Session}
    (h : processPayment (session.holding order.fields) = .ok () done) :
    ∃ paid : Order, done = session.holding paid.fields ∧
      Fields.get? "payment_status" paid.fields = some (.text (paymentStatus order.amount)) ∧
      Fields.get? "tracking_number" paid.fields = Fields.get? "tracking_number" order.fields := by
  obtain ⟨amount, hwhole, hread⟩ := exists_read_amount session order
  have hwrite (status : String) : write "payment_status" status (session.holding order.fields) =
      .ok () (session.holding (order.put "payment_status" status (by decide)).fields) := rfl
  suffices hpaid : ∃ line, done = session.holding ((order.put "payment_status"
      (.text (paymentStatus order.amount)) (by decide)).withNotes [line]).fields by
    obtain ⟨line, rfl⟩ := hpaid
    refine ⟨_, rfl, ?_, ?_⟩ <;> simp [Order.fields_put, Order.fields_withNotes, Fields.get?_set]
  unfold paymentStatus
  simp only [processPayment, bind_apply, hread, Value.atMost_int hwhole, Value.greater_int hwhole,
    liftM_ok, pure_bind, pure_apply, decide_eq_true_eq] at h
  split at h <;> rename_i hfailed
  · rw [bind_apply, hwrite] at h
    simp only [append_note] at h
    cases h
    exact ⟨_, by rw [if_pos hfailed]⟩
  rw [if_neg hfailed]
  split at h <;> rename_i hpending
  · rw [bind_apply, hwrite] at h
    simp only [append_note] at h
    cases h
    exact ⟨_, by rw [if_pos hpending]⟩
  · rw [if_neg hpending]
    rw [bind_apply, hwrite] at h
    obtain ⟨shown, rfl⟩ := append_eq_ok session _ h
    exact ⟨_, rfl⟩

private theorem routeAfterPayment_eq {status : String}
    (h : Fields.get? "payment_status" order.fields = some (.text status)) :
    routeAfterPayment (session.holding order.fields) =
      .ok (.text (if status = "captured" then "shipping_select" else "cancel"))
        (session.holding order.fields) := by
  simp only [routeAfterPayment, bind_apply, holds_of_read (read_holding h session), beq_iff_eq]
  split <;> rfl

private theorem selectShipping_eq_ok {done : Session}
    (h : selectShipping (session.holding order.fields) = .ok () done) :
    ∃ method lines, done = session.holding
      ((order.put "shipping_method" method (by decide)).withNotes lines).fields := by
  obtain ⟨total, hwhole, hread⟩ := exists_read_amount session order
  have hwrite (method : String) : write "shipping_method" method (session.holding order.fields) =
      .ok () (session.holding (order.put "shipping_method" method (by decide)).fields) := rfl
  simp only [selectShipping, bind_apply, hread, read_items, Value.size, Value.atLeast_int hwhole,
    liftM_ok, pure_bind, pure_apply, decide_eq_true_eq] at h
  split at h
  · rw [bind_apply, hwrite] at h
    simp only [append_note] at h
    cases h
    exact ⟨_, [_], rfl⟩
  split at h
  · rw [bind_apply, hwrite] at h
    simp only [append_note] at h
    cases h
    exact ⟨_, [_], rfl⟩
  · refine ⟨.text (if 50 ≤ order.amount then "standard" else "economy"), [], ?_⟩
    rw [Order.fields_withNotes_nil]
    split at h <;> rename_i hlarge
    · rw [hwrite] at h
      cases h
      rw [if_pos hlarge]
    · rw [hwrite] at h
      cases h
      rw [if_neg hlarge]

private theorem exists_createShipment : ∃ later number line,
    createShipment (session.holding order.fields) = .ok () (Session.holding later
      (((order.put "tracking_number" number (by decide)).put "order_status" "shipped"
        (by decide)).withNotes [line]).fields) := by
  refine ⟨{ session with supply :=
    { session.supply with uuids := session.supply.uuids.tail } },
    trackingNumber (session.supply.uuids.headD 0),
    "Shipment created: " ++ trackingNumber (session.supply.uuids.headD 0), ?_⟩
  rw [← append_note]
  rfl

theorem release_eq_ok {done : Session}
    (h : (do if ← isSet "inventory_available" then append "notes" (pure "Inventory released") :
      Step Unit) (session.holding order.fields) = .ok () done) :
    ∃ lines, done = session.holding (order.withNotes lines).fields := by
  rw [bind_apply, isSet, bind_apply] at h
  split at h <;> rename_i hset
  · split at hset <;> rename_i hread
    · obtain ⟨-, rfl⟩ := read_eq_ok hread
      cases hset
      split at h
      · rw [append_note] at h
        cases h
        exact ⟨_, rfl⟩
      · cases h
        exact ⟨[], by rw [Order.fields_withNotes_nil]⟩
    · cases hset
  · cases h

private theorem cancel_eq_ok {done : Session} (h : cancel (session.holding order.fields) = .ok () done) :
    ∃ cancelled : Order, done = session.holding cancelled.fields ∧
      Fields.get? "order_status" cancelled.fields = some (.text "cancelled") ∧
      Fields.get? "payment_status" cancelled.fields ≠ some (.text "captured") ∧
      Fields.get? "tracking_number" cancelled.fields = Fields.get? "tracking_number" order.fields := by
  have hstatus : write "order_status" "cancelled" (session.holding order.fields) =
      .ok () (session.holding (order.put "order_status" "cancelled" (by decide)).fields) := rfl
  generalize hcancelled : order.put "order_status" "cancelled" (by decide) = cancelled at hstatus
  have hrefund : write "payment_status" "refunded" (session.holding cancelled.fields) =
      .ok () (session.holding (cancelled.put "payment_status" "refunded" (by decide)).fields) := rfl
  rw [cancel, bind_apply, hstatus] at h
  simp only at h
  rw [bind_apply] at h
  split at h <;> rename_i hholds
  · obtain ⟨hcaptured, rfl⟩ := holds_eq_ok hholds
    split at h <;> rename_i hpaid
    · rw [bind_apply, hrefund] at h
      simp only at h
      rw [bind_apply, append_note] at h
      obtain ⟨lines, rfl⟩ := release_eq_ok _ _ h
      refine ⟨_, rfl, ?_, ?_, ?_⟩ <;>
        simp [← hcancelled, Order.fields_put, Order.fields_withNotes, Fields.get?_set]
    · obtain ⟨lines, rfl⟩ := release_eq_ok _ _ h
      rw [hcaptured] at hpaid
      refine ⟨_, rfl, ?_, ?_, ?_⟩
      · simp [← hcancelled, Order.fields_put, Order.fields_withNotes, Fields.get?_set]
      · simpa [Order.fields_withNotes, Fields.get?_set] using hpaid
      · simp [← hcancelled, Order.fields_put, Order.fields_withNotes, Fields.get?_set]
  · cases h

end Steps

/-- The order is shipped and its payment is kept. -/
def Ships (walk : Walk) : Prop :=
  "shipment" ∈ walk.visited ∧ ∃ final, walk.session.state = .record final ∧
    Fields.get? "payment_status" final = some (.text "captured")

/-- The order is cancelled, no payment is kept, and the tracking number is the one from before. -/
def Cancels (tracking : Option Value) (walk : Walk) : Prop :=
  "shipment" ∉ walk.visited ∧ ∃ final, walk.session.state = .record final ∧
    Fields.get? "order_status" final = some (.text "cancelled") ∧
    Fields.get? "payment_status" final ≠ some (.text "captured") ∧
    Fields.get? "tracking_number" final = tracking

section Walks

variable {walk : Walk} {name : String} {tracking : Option Value}

theorem Ships.after (h : Ships walk) (event : Event) : Ships (walk.after event) :=
  ⟨(walk.mem_visited_after event).2 (.inr h.1), h.2⟩

theorem Cancels.after (h : Cancels tracking walk) {event : Event}
    (hevent : event.place ≠ .node "shipment") : Cancels tracking (walk.after event) := by
  refine ⟨?_, h.2⟩
  rw [Walk.mem_visited_after, not_or]
  exact ⟨hevent, h.1⟩

variable {session : Session} {order : Order} {limit : Nat}

private theorem cancels_from_cancel
    (h : (workflow.walkFrom limit "cancel" (session.holding order.fields)).ending = .finished) :
    Cancels (Fields.get? "tracking_number" order.fields)
      (workflow.walkFrom limit "cancel" (session.holding order.fields)) := by
  obtain ⟨rest, done, rfl, hrun⟩ := Workflow.run_of_finished (by decide) rfl h
  obtain ⟨cancelled, rfl, hstatus, hpayment, htracking⟩ := cancel_eq_ok _ _ hrun
  rw [Workflow.walkFrom_edge (by decide) rfl hrun rfl rfl, Workflow.walkFrom_terminal]
  refine ⟨?_, cancelled.fields, rfl, hstatus, hpayment, htracking⟩
  simp [Walk.visited, Walk.after]

private theorem ships_from_shipment
    (hpaid : Fields.get? "payment_status" order.fields = some (.text "captured"))
    (h : (workflow.walkFrom limit "shipment" (session.holding order.fields)).ending = .finished) :
    Ships (workflow.walkFrom limit "shipment" (session.holding order.fields)) := by
  obtain ⟨rest, done, rfl, hrun⟩ := Workflow.run_of_finished (by decide) rfl h
  obtain ⟨later, number, line, hship⟩ := exists_createShipment session order
  rw [Workflow.walkFrom_edge (by decide) rfl hship rfl rfl] at h ⊢
  obtain ⟨rest, done, rfl, hrun⟩ := Workflow.run_of_finished (by decide) rfl h
  rw [Workflow.walkFrom_edge (by decide) rfl hrun rfl rfl, Workflow.walkFrom_terminal]
  cases hrun
  refine ⟨by simp [Walk.visited, Walk.after], _, rfl, ?_⟩
  simpa [Order.fields_put, Order.fields_withNotes, Fields.get?_set] using hpaid

private theorem ships_from_shipping
    (hpaid : Fields.get? "payment_status" order.fields = some (.text "captured"))
    (h : (workflow.walkFrom limit "shipping_select" (session.holding order.fields)).ending =
      .finished) :
    Ships (workflow.walkFrom limit "shipping_select" (session.holding order.fields)) := by
  obtain ⟨rest, done, rfl, hrun⟩ := Workflow.run_of_finished (by decide) rfl h
  obtain ⟨method, lines, rfl⟩ := selectShipping_eq_ok _ _ hrun
  rw [Workflow.walkFrom_edge (by decide) rfl hrun rfl rfl] at h ⊢
  apply Ships.after
  apply ships_from_shipment _ h
  simpa [Order.fields_put, Order.fields_withNotes, Fields.get?_set] using hpaid

/-- The walk ships the order if it is accepted, and else cancels it. -/
def Settles (accepted : Prop) (tracking : Option Value) (walk : Walk) : Prop :=
  (accepted → Ships walk) ∧ (¬accepted → Cancels tracking walk)

/-- A node whose router sends the order on if it passes, and else to be cancelled. -/
theorem settles_from_gate {accepted passes : Prop} [Decidable passes] {start : Session}
    {checked : Order} {node : Node} {branching : Branching} {next : String} {rest : Nat}
    (hname : name ≠ terminal ∧ name ≠ "shipment") (hnode : workflow.node? name = some node)
    (hrun : node.run start = .ok () (session.holding checked.fields))
    (hbranching : workflow.branching? name = some branching)
    (hanswer : branching.router.decide (session.holding checked.fields) =
      .ok (.text (if passes then next else "cancel")) (session.holding checked.fields))
    (hnext : branching.target? (.text next) = some next)
    (hcancel : branching.target? (.text "cancel") = some "cancel")
    (htracking : Fields.get? "tracking_number" checked.fields = tracking)
    (h : (workflow.walkFrom (rest + 1) name start).ending = .finished)
    (hpass : passes →
      (workflow.walkFrom rest next (session.holding checked.fields)).ending = .finished →
      Settles accepted tracking (workflow.walkFrom rest next (session.holding checked.fields))) :
    Settles (passes ∧ accepted) tracking (workflow.walkFrom (rest + 1) name start) := by
  by_cases hpasses : passes
  · rw [if_pos hpasses] at hanswer
    rw [Workflow.walkFrom_branching hname.1 hnode hrun hbranching hanswer hnext] at h ⊢
    obtain ⟨hships, hcancels⟩ := hpass hpasses h
    refine ⟨fun haccepted => ((hships haccepted.2).after _).after _, fun hrefused => ?_⟩
    have hcancelled := hcancels fun haccepted => hrefused ⟨hpasses, haccepted⟩
    exact (hcancelled.after Place.noConfusion).after fun heq => hname.2 (Place.node.inj heq)
  · rw [if_neg hpasses] at hanswer
    rw [Workflow.walkFrom_branching hname.1 hnode hrun hbranching hanswer hcancel] at h ⊢
    refine ⟨fun haccepted => absurd haccepted.1 hpasses, fun _ => ?_⟩
    have hcancelled := cancels_from_cancel h
    rw [htracking] at hcancelled
    exact (hcancelled.after Place.noConfusion).after fun heq => hname.2 (Place.node.inj heq)

private theorem settles_from_payment (session : Session) (order : Order) (limit : Nat)
    (h : (workflow.walkFrom limit "payment" (session.holding order.fields)).ending = .finished) :
    Settles (0 < order.amount ∧ order.amount ≤ 10000)
      (Fields.get? "tracking_number" order.fields)
      (workflow.walkFrom limit "payment" (session.holding order.fields)) := by
  obtain ⟨rest, done, rfl, hrun⟩ := Workflow.run_of_finished (by decide) rfl h
  obtain ⟨paid, rfl, hstatus, htracking⟩ := processPayment_eq_ok _ _ hrun
  have hpass (hcaptured : paymentStatus order.amount = "captured")
      (hfinished : (workflow.walkFrom rest "shipping_select"
        (session.holding paid.fields)).ending = .finished) :
      Settles True (Fields.get? "tracking_number" order.fields)
        (workflow.walkFrom rest "shipping_select" (session.holding paid.fields)) := by
    rw [hcaptured] at hstatus
    exact ⟨fun _ => ships_from_shipping hstatus hfinished, fun hrefused => absurd trivial hrefused⟩
  have hsettles := settles_from_gate (by decide) rfl hrun rfl
    (routeAfterPayment_eq session _ hstatus) rfl rfl htracking h hpass
  rwa [and_true, paymentStatus_eq_captured_iff] at hsettles

private theorem settles_from_inventory (session : Session) (order : Order) (limit : Nat)
    (h : (workflow.walkFrom limit "check_inventory" (session.holding order.fields)).ending =
      .finished) :
    Settles ((∀ item ∈ order.items, item.quantity?.getD 0 ≤ 100) ∧
        0 < order.amount ∧ order.amount ≤ 10000)
      (Fields.get? "tracking_number" order.fields)
      (workflow.walkFrom limit "check_inventory" (session.holding order.fields)) := by
  obtain ⟨rest, done, rfl, hrun⟩ := Workflow.run_of_finished (by decide) rfl h
  obtain ⟨checked, rfl, hamount, havailable, htracking⟩ := checkInventory_eq_ok session order hrun
  have hall : order.items.all Item.isInStock = true ↔
      ∀ item ∈ order.items, item.quantity?.getD 0 ≤ 100 := by
    simp only [List.all_eq_true, Item.isInStock, decide_eq_true_iff]
    rfl
  have hpayment := settles_from_payment session checked rest
  rw [htracking, hamount] at hpayment
  have hsettles := settles_from_gate (by decide) rfl hrun rfl
    (routeAfterInventory_eq session checked havailable) rfl rfl htracking h fun _ => hpayment
  rwa [hall] at hsettles

private theorem settles_from_validation
    (h : (workflow.walk limit (session.holding order.fields)).ending = .finished) :
    Settles order.IsAccepted (Fields.get? "tracking_number" order.fields)
      (workflow.walk limit (session.holding order.fields)) := by
  obtain ⟨rest, done, rfl, hrun⟩ := Workflow.run_of_finished (by decide) rfl h
  obtain ⟨checked, rfl, hitems, hamount, hclean, htracking⟩ := validate_eq_ok _ _ hrun
  have hinventory := settles_from_inventory session checked rest
  rw [htracking, hitems, hamount] at hinventory
  have hsettles := settles_from_gate (by decide) rfl hrun rfl
    (routeAfterValidation_eq session checked) rfl rfl htracking h fun _ => hinventory
  rwa [hclean] at hsettles

/-- A walk that ends has shipped exactly the acceptable orders. Their payment is kept; the others are
cancelled without a payment, and their tracking number is not touched. -/
theorem walk_ships_iff_isAccepted (session : Session) (order : Order) (limit : Nat)
    (h : (workflow.walk limit (session.holding order.fields)).ending = .finished) :
    ("shipment" ∈ (workflow.walk limit (session.holding order.fields)).visited ↔
      order.IsAccepted) ∧
    ∃ final, (workflow.walk limit (session.holding order.fields)).session.state = .record final ∧
      (order.IsAccepted → Fields.get? "payment_status" final = some (.text "captured")) ∧
      (¬order.IsAccepted →
        Fields.get? "order_status" final = some (.text "cancelled") ∧
        Fields.get? "payment_status" final ≠ some (.text "captured") ∧
        Fields.get? "tracking_number" final = Fields.get? "tracking_number" order.fields) := by
  obtain ⟨hships, hcancels⟩ := settles_from_validation h
  by_cases haccepted : order.IsAccepted
  · obtain ⟨hvisited, final, hfinal, hpayment⟩ := hships haccepted
    exact ⟨iff_of_true hvisited haccepted, final, hfinal, fun _ => hpayment,
      fun hrefused => absurd haccepted hrefused⟩
  · obtain ⟨hvisited, final, hfinal, hcancelled⟩ := hcancels haccepted
    exact ⟨iff_of_false hvisited haccepted, final, hfinal,
      fun hyes => absurd hyes haccepted, fun _ => hcancelled⟩

end Walks

def basket : Order where
  fields := [
    ("customer_id", "C1"), ("shipping_address", "1 Main St"),
    ("items", .list [.record [("price", .int 20), ("quantity", .int 3)], .record []]),
    ("total_amount", .int 0), ("notes", .list ["Gift wrap"])]
  customer := "C1"
  address := "1 Main St"
  notes := ["Gift wrap"]
  amount := 0
  items := [
    ⟨[("price", .int 20), ("quantity", .int 3)], some 20, some 3, rfl, rfl⟩,
    ⟨[], none, none, rfl, rfl⟩]
  customer_eq := rfl
  address_eq := rfl
  notes_eq := rfl
  amount_eq := rfl
  items_eq := rfl

private theorem basket_isAccepted : basket.IsAccepted := by
  unfold Order.IsAccepted
  decide

theorem walk_basket_ships : "shipment" ∈ (workflow.walk 6 (Session.holding { state := .null }
    basket.fields)).visited := by
  have hfinished : (workflow.walk 6 (Session.holding { state := .null }
      basket.fields)).ending = .finished := by
    decide +kernel
  exact (walk_ships_iff_isAccepted { state := .null } basket 6 hfinished).1.2 basket_isAccepted

end Workgraph.Orders
