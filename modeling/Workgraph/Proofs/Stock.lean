import Workgraph.Proofs.Lines
import Workgraph.Proofs.Routing
import Workgraph.Proofs.Walks

/-!
# The stock of an order

The notes of an order are a log: no node takes a line away, also when it fails. Among the lines are
those about stock that is set aside, given back or shipped. The mark of available stock tells the cancelling
node whether there is something to give back, and an order that is shipped keeps what was set aside.
-/

namespace Workgraph.Orders

open Step

/-- The notes of the state are some first notes and after them lines which, together with the mark of
available stock, satisfy `P`. -/
def Logs (first : List Value) (P : List String → Option Value → Prop) (state : Value) : Prop :=
  ∃ fields lines, state = .record fields ∧
    Fields.get? "notes" fields = some (.list (first ++ lines.map .text)) ∧
    P lines (Fields.get? "inventory_available" fields)

section Log

variable {first : List Value} {P Q : List String → Option Value → Prop} {session : Session}

theorem Logs.mono {state : Value} (h : Logs first P state)
    (hPQ : ∀ lines mark, P lines mark → Q lines mark) : Logs first Q state := by
  obtain ⟨fields, lines, hstate, hnotes, hP⟩ := h
  exact ⟨fields, lines, hstate, hnotes, hPQ _ _ hP⟩

theorem write_keeps_log {key : String} (hnotes : key ≠ "notes") (hmark : key ≠ "inventory_available")
    (v : Value) : (write key v).Keeps (Logs first P) := by
  rintro session ⟨fields, lines, hstate, hlog, hP⟩
  rw [Session.eq_holding hstate, leaves_of_ok (write_holding ..)]
  refine ⟨_, lines, rfl, ?_, ?_⟩
  · rw [Fields.get?_set_of_ne _ hnotes, hlog]
  · rwa [Fields.get?_set_of_ne _ hmark]

theorem logs_write_mark {v : Value} (h : ∀ lines mark, P lines mark → Q lines (some v))
    (hlogs : Logs first P session.state) :
    Logs first Q ((write "inventory_available" v).leaves session).state := by
  obtain ⟨fields, lines, hstate, hlog, hP⟩ := hlogs
  rw [Session.eq_holding hstate, leaves_of_ok (write_holding ..)]
  refine ⟨_, lines, rfl, ?_, ?_⟩
  · rw [Fields.get?_set_of_ne _ (by decide), hlog]
  · rw [Fields.get?_set_self]
    exact h _ _ hP

theorem logs_extend (added : List String) (h : ∀ lines mark, P lines mark → Q (lines ++ added) mark)
    (hlogs : Logs first P session.state) :
    Logs first Q ((extend "notes" (added.map .text)).leaves session).state := by
  obtain ⟨fields, lines, hstate, hlog, hP⟩ := hlogs
  rw [Session.eq_holding hstate, leaves_of_ok (extend_holding hlog ..)]
  refine ⟨_, lines ++ added, rfl, ?_, ?_⟩
  · rw [Fields.get?_set_self, List.map_append, List.append_assoc]
  · rw [Fields.get?_set_of_ne _ (by decide)]
    exact h _ _ hP

theorem logs_append {line : String} (h : ∀ lines mark, P lines mark → Q (lines ++ [line]) mark)
    (hlogs : Logs first P session.state) :
    Logs first Q ((append "notes" (pure (.text line))).leaves session).state :=
  logs_extend [line] h hlogs

/-- A line about a shipment. -/
def TellsShipment (line : String) : Prop := "Shipment created: ".toList <+: line.toList

instance (line : String) : Decidable (TellsShipment line) := inferInstanceAs (Decidable (_ <+: _))

/-- A line about stock that is set aside, given back or shipped. -/
def SpeaksOfStock (line : String) : Prop := "Inventory ".toList <+: line.toList ∨ TellsShipment line

instance (line : String) : Decidable (SpeaksOfStock line) := inferInstanceAs (Decidable (_ ∨ _))

/-- A property of logs to which only the lines about stock matter. -/
def IsAboutStock (P : List String → Option Value → Prop) : Prop :=
  ∀ line, ¬SpeaksOfStock line → ∀ lines mark, P lines mark → P (lines ++ [line]) mark

theorem IsAboutStock.append (hP : IsAboutStock P) {added : List String}
    (hadded : ∀ line ∈ added, ¬SpeaksOfStock line) (lines : List String) (mark : Option Value)
    (h : P lines mark) : P (lines ++ added) mark := by
  induction added generalizing lines with
  | nil => rwa [List.append_nil]
  | cons line rest ih =>
      rw [List.forall_mem_cons] at hadded
      rw [List.append_cons]
      exact ih hadded.2 _ (hP line hadded.1 lines mark h)

section Nodes

theorem append_keeps_log (hP : IsAboutStock P) {line : String} (hline : ¬SpeaksOfStock line) :
    (append "notes" (pure (.text line))).Keeps (Logs first P) :=
  fun _ => logs_append (hP line hline)

theorem extend_keeps_log (hP : IsAboutStock P) {entries : List Value}
    (hentries : ∀ entry ∈ entries, ∃ line, entry = .text line ∧ ¬SpeaksOfStock line) :
    (extend "notes" entries).Keeps (Logs first P) := by
  have hadded : ∃ added : List String, entries = added.map .text ∧
      ∀ line ∈ added, ¬SpeaksOfStock line := by
    induction entries with
    | nil => exact ⟨[], rfl, by simp⟩
    | cons entry rest ih =>
        rw [List.forall_mem_cons] at hentries
        obtain ⟨⟨line, rfl, hline⟩, hrest⟩ := hentries
        obtain ⟨added, rfl, hadded⟩ := ih hrest
        exact ⟨line :: added, rfl, List.forall_mem_cons.2 ⟨hline, hadded⟩⟩
  obtain ⟨added, rfl, hadded⟩ := hadded
  exact fun _ => logs_extend added (hP.append hadded)

theorem not_speaksOfStock_append {lead : List Char} (hstock : Text.Apart "Inventory ".toList lead)
    (hshipment : Text.Apart "Shipment created: ".toList lead) (rest : String) :
    ¬SpeaksOfStock (String.ofList lead ++ rest) := by
  have hbegins := hstock.not_begins rest.toList
  have htells := hshipment.not_begins rest.toList
  simpa [SpeaksOfStock, TellsShipment] using ⟨hbegins, htells⟩

theorem append_written_keeps_log (hP : IsAboutStock P) {line : String → String}
    (hline : ∀ s, ¬SpeaksOfStock (line s)) (shown : Except Fault String) :
    (append "notes" (do return .text (line (← shown)))).Keeps (Logs first P) := by
  cases shown with
  | ok s => exact append_keeps_log hP (hline s)
  | error fault => exact (IsQuiet.read _).before fun _ => (IsQuiet.lift _).before fun _ _ hlogs => hlogs

theorem forall_mem_noteUnless {note : String} (hnote : ¬SpeaksOfStock note) (condition : Bool) :
    ∀ entry ∈ noteUnless condition note, ∃ line, entry = .text line ∧ ¬SpeaksOfStock line := by
  cases condition <;> simp [noteUnless, hnote]

theorem validate_keeps_log (hP : IsAboutStock P) : validate.Keeps (Logs first P) := by
  refine (IsQuiet.isSet _).before fun customer => ?_
  refine (IsQuiet.either ((IsQuiet.isSet _).bind fun _ => .pure _) ((IsQuiet.read _).bind fun _ =>
    (IsQuiet.lift _).bind fun _ => .pure _)).before fun items => ?_
  refine (IsQuiet.isSet _).before fun address => ?_
  have herrors : ∀ entry ∈ noteUnless customer "ERROR: Missing customer ID" ++
      noteUnless (!items) "ERROR: No items in order" ++
      noteUnless address "ERROR: Missing shipping address",
      ∃ line, entry = .text line ∧ ¬SpeaksOfStock line := by
    simp only [List.forall_mem_append]
    exact ⟨⟨forall_mem_noteUnless (by decide) _, forall_mem_noteUnless (by decide) _⟩,
      forall_mem_noteUnless (by decide) _⟩
  refine (IsQuiet.both ((IsQuiet.read _).bind fun _ => .pure _) (.isSet _)).before fun lacking => ?_
  refine .ite ?_ (extend_keeps_log hP herrors)
  refine (IsQuiet.read _).before fun _ => (IsQuiet.lift _).before fun _ =>
    (IsQuiet.lift _).before fun total => ?_
  refine (write_keeps_log (by decide) (by decide) _).bind fun _ => (IsQuiet.lift _).before fun shown => ?_
  apply extend_keeps_log hP
  rw [List.forall_mem_append]
  refine ⟨herrors, ?_⟩
  rw [List.forall_mem_singleton]
  exact ⟨_, rfl, not_speaksOfStock_append (by decide) (by decide) shown⟩

theorem checkItems_keeps_log (hP : IsAboutStock P) (items : List Value) :
    (checkItems items).Keeps (Logs first P) := by
  induction items with
  | nil => exact (IsQuiet.pure true).keeps _
  | cons item rest ih =>
      refine (IsQuiet.lift _).before fun product => (IsQuiet.lift _).before fun _ =>
        (IsQuiet.lift _).before fun _ => ?_
      refine .ite ?_ ih
      have hline (shown : String) : ¬SpeaksOfStock ("Insufficient stock for item " ++ shown) :=
        not_speaksOfStock_append (by decide) (by decide) shown
      exact (append_written_keeps_log hP hline _).bind fun _ => ih.bind fun _ =>
        (IsQuiet.pure false).keeps _

theorem processPayment_keeps_log (hP : IsAboutStock P) : processPayment.Keeps (Logs first P) := by
  refine (IsQuiet.read _).before fun amount => (IsQuiet.lift _).before fun _ => .ite ?_ ?_
  · exact (write_keeps_log (by decide) (by decide) _).bind fun _ => append_keeps_log hP (by decide)
  refine (IsQuiet.lift _).before fun _ => .ite ?_ ?_
  · exact (write_keeps_log (by decide) (by decide) _).bind fun _ => append_keeps_log hP (by decide)
  refine (write_keeps_log (by decide) (by decide) _).bind fun _ => ?_
  exact append_written_keeps_log hP (fun _ => not_speaksOfStock_append (by decide) (by decide) _) _

theorem selectShipping_keeps_log (hP : IsAboutStock P) : selectShipping.Keeps (Logs first P) := by
  have hwrite (method : String) : (write "shipping_method" method).Keeps (Logs first P) :=
    write_keeps_log (by decide) (by decide) _
  refine (IsQuiet.read _).before fun _ => (IsQuiet.read _).before fun _ => (IsQuiet.lift _).before
    fun _ => (IsQuiet.lift _).before fun _ => .ite ?_ (.ite ?_ ?_)
  · exact (hwrite _).bind fun _ => append_keeps_log hP (by decide)
  · exact (hwrite _).bind fun _ => append_keeps_log hP (by decide)
  · exact (IsQuiet.lift _).before fun _ => (hwrite _).ite (hwrite _)

theorem tellsShipment_append (number : String) : TellsShipment ("Shipment created: " ++ number) := by
  rw [TellsShipment, String.toList_append]
  exact List.prefix_append _ _

def refund : Step Unit := do
  write "order_status" "cancelled"
  if ← holds "payment_status" "captured" then
    write "payment_status" "refunded"
    append "notes" (pure "Payment refunded")

def release : Step Unit := do
  if ← isSet "inventory_available" then append "notes" (pure "Inventory released")

theorem cancel_eq : cancel = (do refund; release) := by
  simp only [cancel, refund, release, bind_assoc]
  congr
  funext _
  congr
  funext paid
  split <;> simp

theorem refund_keeps_log (hP : IsAboutStock P) : refund.Keeps (Logs first P) := by
  refine (write_keeps_log (by decide) (by decide) _).bind fun _ => (IsQuiet.holds _ _).before fun _ =>
    .ite ?_ ((IsQuiet.pure ()).keeps _)
  exact (write_keeps_log (by decide) (by decide) _).bind fun _ => append_keeps_log hP (by decide)

end Nodes

end Log

section Growth

variable (first : List Value)

def Grows (first : List Value) : Value → Prop := Logs first fun _ _ => True

private theorem checkInventory_keeps_log : checkInventory.Keeps (Grows first) := by
  refine (IsQuiet.read _).before fun _ => (IsQuiet.lift _).before fun items =>
    (checkItems_keeps_log (fun _ _ _ _ _ => trivial) items).bind fun available => ?_
  have hmark : (write "inventory_available" available).Keeps (Grows first) :=
    fun _ => logs_write_mark fun _ _ _ => trivial
  refine hmark.bind fun _ => .ite ?_ ((IsQuiet.pure ()).keeps _)
  exact fun _ => logs_append fun _ _ _ => trivial

private theorem createShipment_keeps_log : createShipment.Keeps (Grows first) := by
  refine IsQuiet.drawUuid.before fun uuid => ?_
  refine (write_keeps_log (by decide) (by decide) _).bind fun _ =>
    (write_keeps_log (by decide) (by decide) _).bind fun _ => ?_
  exact fun _ => logs_append fun _ _ _ => trivial

private theorem cancel_keeps_log : cancel.Keeps (Grows first) := by
  rw [cancel_eq]
  refine (refund_keeps_log fun _ _ _ _ _ => trivial).bind fun _ => (IsQuiet.isSet _).before fun _ =>
    .ite ?_ ((IsQuiet.pure ()).keeps _)
  exact fun _ => logs_append fun _ _ _ => trivial

end Growth

theorem isQuiet_routeAfterValidation : routeAfterValidation.IsQuiet :=
  (IsQuiet.read _).bind fun _ => (IsQuiet.lift _).bind fun _ =>
    (IsQuiet.mapM (fun _ => .lift _) _).bind fun _ => .ite (.pure _) (.pure _)

private theorem isQuiet_routeAfterInventory : routeAfterInventory.IsQuiet :=
  (IsQuiet.isSet _).bind fun _ => .ite (.pure _) (.pure _)

theorem isQuiet_routeAfterPayment : routeAfterPayment.IsQuiet :=
  (IsQuiet.holds _ _).bind fun _ => .ite (.pure _) (.pure _)

private theorem workflow_keeps_log (first : List Value) : workflow.Keeps (Grows first) := by
  have hany : IsAboutStock fun _ _ => True := fun _ _ _ _ _ => trivial
  exact ⟨⟨validate_keeps_log hany, checkInventory_keeps_log first, processPayment_keeps_log hany,
    selectShipping_keeps_log hany, createShipment_keeps_log first, cancel_keeps_log first,
    write_keeps_log (by decide) (by decide) _⟩,
    isQuiet_routeAfterValidation.keeps _, isQuiet_routeAfterInventory.keeps _,
    isQuiet_routeAfterPayment.keeps _⟩

/-- The lines set stock aside this many times more often than they give it back, and tell of this many shipments. -/
structure Balance (excess shipped : Nat) (lines : List String) : Prop where
  stock : lines.count "Inventory reserved" = lines.count "Inventory released" + excess
  shipments : lines.countP (TellsShipment ·) = shipped

/-- Stock is set aside for the order if it is marked as available, and else not. -/
def Holding (available : Bool) (shipped : Nat) (lines : List String) (mark : Option Value) : Prop :=
  mark = some (.bool available) ∧ Balance available.toNat shipped lines

theorem Balance.append {excess shipped : Nat} {lines : List String} (h : Balance excess shipped lines)
    {line : String} (hline : ¬SpeaksOfStock line) : Balance excess shipped (lines ++ [line]) := by
  have hcount {other : String} (hother : SpeaksOfStock other) :
      (lines ++ [line]).count other = lines.count other := by
    have hne : line ≠ other := by
      rintro rfl
      exact hline hother
    rw [List.count_append, List.count_singleton, if_neg (by simpa using hne), Nat.add_zero]
  have htells : ¬TellsShipment line := fun htells => hline (.inr htells)
  constructor
  · rw [hcount (by decide), hcount (by decide)]
    exact h.stock
  · rw [List.countP_append, List.countP_singleton, if_neg (by simpa using htells), Nat.add_zero]
    exact h.shipments

theorem isAboutStock_holding (available : Bool) (shipped : Nat) :
    IsAboutStock (Holding available shipped) :=
  fun _ hline _ _ h => ⟨h.1, h.2.append hline⟩

section Balance

variable {first : List Value} {session : Session} {available : Bool} {shipped : Nat}

theorem isSet_mark (h : Logs first (Holding available shipped) session.state) :
    isSet "inventory_available" session = .ok available session := by
  obtain ⟨fields, lines, hstate, -, hmark, -⟩ := h
  rw [isSet_of_read (read_of_has ⟨fields, hstate, hmark⟩)]
  rfl

private theorem Balance.reserve {lines : List String} (h : Balance 0 shipped lines) :
    Balance 1 shipped (lines ++ ["Inventory reserved"]) := by
  have htells : ¬TellsShipment "Inventory reserved" := by decide
  obtain ⟨hstock, hshipments⟩ := h
  constructor
  · simp only [List.count_append, List.count_singleton] at hstock ⊢
    simp
    omega
  · simp [hshipments, htells]

theorem Balance.release {lines : List String} (h : Balance 1 shipped lines) :
    Balance 0 shipped (lines ++ ["Inventory released"]) := by
  have htells : ¬TellsShipment "Inventory released" := by decide
  obtain ⟨hstock, hshipments⟩ := h
  constructor
  · simp only [List.count_append, List.count_singleton] at hstock ⊢
    simp
    omega
  · simp [hshipments, htells]

private theorem Balance.ship {excess : Nat} {lines : List String} (h : Balance excess shipped lines)
    (number : String) :
    Balance excess (shipped + 1) (lines ++ ["Shipment created: " ++ number]) := by
  have hne (other : String) (hother : ¬TellsShipment other) : "Shipment created: " ++ number ≠ other := by
    rintro rfl
    exact hother (tellsShipment_append number)
  constructor
  · rw [List.count_append, List.count_append, List.count_singleton, List.count_singleton,
      if_neg (by simpa using hne _ (by decide)), if_neg (by simpa using hne _ (by decide))]
    exact h.stock
  · rw [List.countP_append, List.countP_singleton,
      if_pos (by simpa using tellsShipment_append number), h.shipments]

private theorem checkInventory_ensures : Ensures (Logs first (Holding false 0) ·.state) checkInventory
    fun _ session => ∃ available, Logs first (Holding available 0) session.state := by
  refine ((IsQuiet.read _).keeps _).ensures.bind fun _ => ((IsQuiet.lift _).keeps _).ensures.bind fun
    items => (checkItems_keeps_log (isAboutStock_holding false 0) items).ensures.bind fun available => ?_
  have hmark : Ensures (Logs first (Holding false 0) ·.state)
      (write "inventory_available" available) fun _ session => Logs first
        (fun lines mark => mark = some (.bool available) ∧ Balance 0 0 lines) session.state :=
    ensures_of_leaves fun _ => logs_write_mark fun _ _ h => ⟨rfl, h.2⟩
  refine hmark.bind fun _ => ?_
  cases available with
  | true =>
      have hreserve : Ensures (Logs first (fun lines mark => mark = some (.bool true) ∧ Balance 0 0 lines)
          ·.state) (append "notes" (pure "Inventory reserved")) fun _ session =>
            Logs first (Holding true 0) session.state :=
        ensures_of_leaves fun _ => logs_append fun _ _ h => ⟨h.1, h.2.reserve⟩
      exact hreserve.weaken fun _ _ h => ⟨true, h⟩
  | false => exact .pure fun _ h => ⟨false, h⟩

private theorem createShipment_tells : Ensures (Logs first (Holding true 0) ·.state) createShipment
    fun _ session => Logs first (Holding true 1) session.state := by
  refine (IsQuiet.drawUuid.keeps _).ensures.bind fun uuid =>
    (write_keeps_log (by decide) (by decide) _).ensures.bind fun _ =>
      (write_keeps_log (by decide) (by decide) _).ensures.bind fun _ => ?_
  exact ensures_of_leaves fun _ => logs_append fun _ _ h => ⟨h.1, h.2.ship _⟩

private theorem release_ensures : Ensures (Logs first (Holding available shipped) ·.state) release
    fun _ session => Logs first (fun lines _ => Balance 0 shipped lines) session.state := by
  intro session hlogs _ done hrun
  rw [release, bind_apply, isSet_mark hlogs] at hrun
  cases available with
  | true =>
      have hreleased : Logs first (fun lines _ => Balance 0 shipped lines)
          ((append "notes" (pure "Inventory released")).leaves session).state :=
        logs_append (fun _ _ h => h.2.release) hlogs
      rwa [leaves_of_ok hrun] at hreleased
  | false =>
      cases hrun
      exact hlogs.mono fun _ _ h => h.2

/-- Nothing has been shipped yet, and stock is set aside for the order if it is marked as available. -/
def Unshipped (first : List Value) (available : Bool) (trail : List String) (state : Value) : Prop :=
  trail.count "shipment" = 0 ∧ Logs first (Holding available 0) state

theorem count_visit {trail : List String} {name : String} (hname : name ≠ "shipment") :
    (trail ++ [name]).count "shipment" = trail.count "shipment" := by
  rw [List.count_append, List.count_singleton, if_neg (by simpa using hname), Nat.add_zero]

theorem Unshipped.visit {trail : List String} {state : Value} (h : Unshipped first available trail state)
    {name : String} (hname : name ≠ "shipment") : Unshipped first available (trail ++ [name]) state :=
  ⟨(count_visit hname).trans h.1, h.2⟩

/-- What is asserted at each node. Up to the shipment the mark tells what is set aside, and a payment is
taken only where something is. At the end the lines about stock balance. -/
def stockAt (first : List Value) (trail : List String) (name : String) (session : Session) : Prop :=
  match name with
  | "validate" | "check_inventory" => Unshipped first false trail session.state
  | "payment" | "shipping_select" | "shipment" => Unshipped first true trail session.state
  | "cancel" => ∃ available, Unshipped first available trail session.state
  | "finalize" => trail.count "shipment" = 1 ∧ Logs first (Holding true 1) session.state
  | _ => Logs first
      (fun lines _ => Balance (trail.count "shipment") (trail.count "shipment") lines) session.state

theorem stockAt_terminal {trail : List String} : stockAt first trail terminal session ↔ Logs first
    (fun lines _ => Balance (trail.count "shipment") (trail.count "shipment") lines) session.state :=
  Iff.rfl

/-- A gate of the order: a node that keeps what is set aside, and a router all of whose targets allow
for it. -/
theorem leadsOn_of_gate {node : Node} {branching : Branching} (available : Bool)
    (hname : node.name ≠ "shipment") (hbranching : workflow.branching? node.name = some branching)
    (hnode : ∀ trail session, stockAt first trail node.name session →
      Unshipped first available trail session.state)
    (hrun : node.run.Keeps (Logs first (Holding available 0))) (hdecide : branching.router.decide.IsQuiet)
    (htargets : ∀ entry ∈ branching.targets, ∀ trail session,
      Unshipped first available trail session.state → stockAt first trail entry.2 session) :
    workflow.LeadsOn (stockAt first) node := by
  refine Workflow.leadsOn_of_branching
    (fun trail session => Unshipped first available trail session.state) hbranching ?_ ?_
  · intro trail session hsession _ done hdone
    obtain ⟨hcount, hlogs⟩ := hnode trail session hsession
    exact ⟨hcount, hrun.ensures session hlogs () done hdone⟩
  · intro trail session hsession answer done hanswer target htarget
    have hdone := (hdecide.keeps (Unshipped first available trail)).ensures session hsession answer done hanswer
    obtain ⟨key, hmem⟩ := Branching.mem_targets htarget
    exact htargets (key, target) hmem _ done (hdone.visit hname)

private theorem leadsOn_checkInventory : workflow.LeadsOn (stockAt first) ⟨"check_inventory", "check_inventory",
    "Check inventory availability for all items.", checkInventory⟩ := by
  refine Workflow.leadsOn_of_branching
    (fun trail session => ∃ available, Unshipped first available trail session.state) rfl ?_ ?_
  · intro trail session hsession _ done hrun
    obtain ⟨available, hlogs⟩ := checkInventory_ensures session hsession.2 () done hrun
    exact ⟨available, hsession.1, hlogs⟩
  · -- the router goes by the mark, so that a payment is taken only with stock set aside
    rintro trail session ⟨available, hsession⟩ answer done hanswer target htarget
    have hvisit := hsession.visit (by decide : "check_inventory" ≠ "shipment")
    change routeAfterInventory session = .ok answer done at hanswer
    rw [routeAfterInventory, bind_apply, isSet_mark hsession.2] at hanswer
    cases available with
    | true =>
        cases hanswer
        cases htarget
        exact hvisit
    | false =>
        cases hanswer
        cases htarget
        exact ⟨false, hvisit⟩

private theorem leadsOn_cancel : workflow.LeadsOn (stockAt first) ⟨"cancel", "cancel_order",
    "Cancel order and reverse any transactions.", cancel⟩ := by
  refine Workflow.leadsOn_of_edge rfl rfl ?_
  rintro trail session ⟨available, hcount, hlogs⟩ _ done hrun
  have hcancel : Ensures (Logs first (Holding available 0) ·.state) cancel
      fun _ session => Logs first (fun lines _ => Balance 0 0 lines) session.state := by
    rw [cancel_eq]
    exact (refund_keeps_log (isAboutStock_holding available 0)).ensures.bind fun _ => release_ensures
  rw [stockAt_terminal, count_visit (by decide), hcount]
  exact hcancel session hlogs () done hrun

private theorem stockAt_leads (first : List Value) :
    workflow.nodes.Forall (workflow.LeadsOn (stockAt first)) := by
  refine ⟨?_, leadsOn_checkInventory, ?_, ?_, ?_, leadsOn_cancel, ?_⟩
  · refine leadsOn_of_gate false (by decide) rfl (fun _ _ h => h)
      (validate_keeps_log (isAboutStock_holding false 0)) isQuiet_routeAfterValidation ?_
    intro entry hentry trail session hsession
    rcases List.mem_pair.1 hentry with rfl | rfl
    · exact hsession
    · exact ⟨false, hsession⟩
  · refine leadsOn_of_gate true (by decide) rfl (fun _ _ h => h)
      (processPayment_keeps_log (isAboutStock_holding true 0)) isQuiet_routeAfterPayment ?_
    intro entry hentry trail session hsession
    rcases List.mem_pair.1 hentry with rfl | rfl
    · exact hsession
    · exact ⟨true, hsession⟩
  · refine Workflow.leadsOn_of_edge rfl rfl ?_
    intro trail session hsession _ done hrun
    have hlogs := (selectShipping_keeps_log (isAboutStock_holding true 0)).ensures session hsession.2 () done hrun
    exact ⟨(count_visit (by decide)).trans hsession.1, hlogs⟩
  · refine Workflow.leadsOn_of_edge rfl rfl ?_
    intro trail session hsession _ done hrun
    have hlogs := createShipment_tells session hsession.2 () done hrun
    refine ⟨?_, hlogs⟩
    rw [List.count_append, hsession.1]
    rfl
  · refine Workflow.leadsOn_of_edge rfl rfl ?_
    rintro trail session ⟨hcount, hlogs⟩ _ done hrun
    have hkept : finalize.Keeps (Logs first (Holding true 1)) := write_keeps_log (by decide) (by decide) _
    have hdone := hkept.ensures session hlogs () done hrun
    rw [stockAt_terminal, count_visit (by decide), hcount]
    exact hdone.mono fun _ _ h => h.2

end Balance

theorem Logs.field_notes {first : List Value} {P : List String → Option Value → Prop} {state : Value}
    (h : Logs first P state) : ∃ lines mark, P lines mark ∧
      state.field "notes" = .ok (.list (first ++ lines.map .text)) := by
  obtain ⟨fields, lines, rfl, hnotes, hP⟩ := h
  refine ⟨lines, _, hP, ?_⟩
  simp only [Value.field, hnotes]

private theorem logs_of_has {session : Session} {first : List Value} {mark : Value}
    (hnotes : session.Has "notes" (.list first)) (hmark : session.Has "inventory_available" mark) :
    Logs first (fun lines found => lines = [] ∧ found = some mark) session.state := by
  obtain ⟨fields, hstate, hget⟩ := hnotes
  obtain ⟨fields', hstate', hget'⟩ := hmark
  obtain rfl : fields = fields' := Value.record.inj (hstate.symm.trans hstate')
  exact ⟨fields, [], hstate, by simpa using hget, rfl, hget'⟩

/-- The log of an order only grows. If nothing is marked as available at first, the order ends with as
much stock set aside and not given back as is shipped, and every shipment is noted. -/
theorem walk_conserves_stock (limit : Nat) {session : Session} {first : List Value}
    (hnotes : session.Has "notes" (.list first))
    (hmark : session.Has "inventory_available" (.bool false)) :
    ∃ walk, workflow.walk limit session = walk ∧
      (∀ state, state = walk.session.state ∨ (∃ event ∈ walk.events, state = event.state) →
        ∃ notes, state.field "notes" = .ok (.list notes) ∧ first <+: notes) ∧
      (walk.ending = .finished → ∃ added : List String,
        walk.session.state.field "notes" = .ok (.list (first ++ added.map .text)) ∧
        added.count "Inventory reserved" =
          added.count "Inventory released" + walk.visited.count "shipment" ∧
        added.countP ("Shipment created: ".toList <+: ·.toList) = walk.visited.count "shipment") := by
  have hstart := logs_of_has hnotes hmark
  refine ⟨_, rfl, ?_, ?_⟩
  · have hgrows : Grows first session.state := hstart.mono fun _ _ _ => trivial
    obtain ⟨hevents, hlast⟩ := (workflow_keeps_log first).walkFrom limit workflow.entry session hgrows
    intro state hstate
    have hlogs : Grows first state := by
      rcases hstate with rfl | ⟨event, hevent, rfl⟩
      · exact hlast
      · exact hevents event hevent
    obtain ⟨lines, -, -, hfield⟩ := hlogs.field_notes
    exact ⟨_, hfield, List.prefix_append _ _⟩
  · intro hfinished
    have hentry : stockAt first [] workflow.entry session := by
      refine ⟨rfl, hstart.mono ?_⟩
      rintro _ _ ⟨rfl, rfl⟩
      exact ⟨rfl, rfl, rfl⟩
    have hend := Workflow.asserted_of_finished (stockAt_leads first) limit workflow.entry session hentry
      hfinished
    obtain ⟨lines, -, hbalance, hfield⟩ := (stockAt_terminal.1 hend).field_notes
    exact ⟨lines, hfield, hbalance.stock, hbalance.shipments⟩

def smallOrder : Fields := [
  ("customer_id", "C1"), ("shipping_address", "1 Main St"),
  ("items", .list [.record [("quantity", .int 2)]]), ("total_amount", .int 60),
  ("inventory_available", false), ("payment_status", "pending"), ("notes", .list ["Gift wrap"])]

theorem walk_smallOrder : ∃ walk, ∃ added : List String,
    workflow.walk 6 (Session.holding { state := .null } smallOrder) = walk ∧
      walk.visited = ["validate", "check_inventory", "payment", "shipping_select", "shipment", "finalize"] ∧
      walk.session.state.field "notes" = .ok (.list ([.text "Gift wrap"] ++ added.map .text)) ∧
      added.count "Inventory reserved" = added.count "Inventory released" + 1 ∧
      added.countP ("Shipment created: ".toList <+: ·.toList) = 1 := by
  have hnotes : (Session.holding { state := .null } smallOrder).Has "notes" (.list [.text "Gift wrap"]) :=
    ⟨smallOrder, rfl, rfl⟩
  obtain ⟨walk, rfl, -, hbalance⟩ := walk_conserves_stock 6 hnotes ⟨smallOrder, rfl, rfl⟩
  have hvisited : (workflow.walk 6 (Session.holding { state := .null } smallOrder)).visited =
      ["validate", "check_inventory", "payment", "shipping_select", "shipment", "finalize"] := by
    decide +kernel
  obtain ⟨added, hlog, hcount, hshipments⟩ := hbalance (by decide +kernel)
  rw [hvisited] at hcount hshipments
  exact ⟨_, added, rfl, hvisited, hlog, hcount, hshipments⟩

end Workgraph.Orders
