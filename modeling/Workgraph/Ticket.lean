import Workgraph.Text.Casing
import Workgraph.Text.Search

/-!
# Support tickets

A support ticket as a record of typed fields, and the desk that works it off: analysis first, then the
tiers in the order in which they send the ticket on. It stands beside the support workflow, which works on
states of any shape.
-/

namespace Workgraph

structure Ticket where
  message : String
  sentiment : String := ""
  category : String := ""
  priority : String := ""
  response : String := ""
  escalated : Bool := false
  resolved : Bool := false
  deriving DecidableEq, Repr

namespace Ticket

/-- Whether the message, in lower case, contains a word. -/
def mentions (ticket : Ticket) (word : String) : Bool :=
  Text.occurs word.toList (Text.lower ticket.message.toList)

def sentimentShown (ticket : Ticket) : String :=
  if ticket.mentions "angry" || ticket.mentions "frustrated" || ticket.mentions "terrible" then
    "negative"
  else if ticket.mentions "great" || ticket.mentions "happy" || ticket.mentions "excellent" then
    "positive"
  else "neutral"

def categoryShown (ticket : Ticket) : String :=
  if ticket.mentions "bug" || ticket.mentions "error" || ticket.mentions "crash" ||
      ticket.mentions "technical" then
    "technical"
  else if ticket.mentions "payment" || ticket.mentions "billing" || ticket.mentions "charge" ||
      ticket.mentions "refund" then
    "billing"
  else "general"

/-- Whether the ticket is a matter for specialists. -/
def needsSpecialist (ticket : Ticket) : Bool :=
  ticket.category == "technical" || ticket.category == "billing"

/-- The priority that follows from sentiment and category. -/
def priorityDue (ticket : Ticket) : String :=
  if ticket.sentiment == "negative" && ticket.needsSpecialist then "high"
  else if ticket.sentiment == "negative" || ticket.category == "billing" then "medium"
  else "low"

def analyze (ticket : Ticket) : Ticket :=
  let judged :=
    { ticket with sentiment := ticket.sentimentShown, category := ticket.categoryShown }
  { judged with priority := judged.priorityDue }

def handleFirstTier (ticket : Ticket) : Ticket :=
  if ticket.category == "general" && ticket.priority == "low" then
    let preview := String.ofList (ticket.message.toList.take 50)
    { ticket with
      response := "Thank you for contacting us about: " ++ preview ++ "..."
      resolved := true }
  else { ticket with resolved := false }

def handleSecondTier (ticket : Ticket) : Ticket :=
  if ticket.needsSpecialist && (ticket.priority == "low" || ticket.priority == "medium") then
    { ticket with
      response := "Our specialist will handle your " ++ ticket.category ++ " issue."
      resolved := true }
  else { ticket with resolved := false }

def escalate (ticket : Ticket) : Ticket :=
  { ticket with
    response := "This has been escalated to our senior support team."
    escalated := true
    resolved := true }

def routeAfterAnalysis (ticket : Ticket) : String :=
  if ticket.priority == "high" then "escalate"
  else if ticket.needsSpecialist then "tier2"
  else "tier1"

def routeAfterFirstTier (ticket : Ticket) : String :=
  if ticket.resolved then "end" else "tier2"

def routeAfterSecondTier (ticket : Ticket) : String :=
  if ticket.resolved then "end" else "escalate"

/-- Why a ticket is not worked off. -/
inductive Failure where
  | unknownDesk (name : String)
  | limitReached
  deriving DecidableEq, Repr

/-- Sends a ticket to a desk and on from there, over at most so many desks. -/
def follow : Nat → String → Ticket → Except Failure Ticket
  | 0, _, _ => .error .limitReached
  | limit + 1, desk, ticket =>
    if desk = "tier1" then
      let ticket := ticket.handleFirstTier
      follow limit ticket.routeAfterFirstTier ticket
    else if desk = "tier2" then
      let ticket := ticket.handleSecondTier
      follow limit ticket.routeAfterSecondTier ticket
    else if desk = "escalate" then .ok ticket.escalate
    else if desk = "end" then .ok ticket
    else .error (.unknownDesk desk)

/-- Works a ticket off. No ticket passes more than three desks. -/
def execute (ticket : Ticket) : Except Failure Ticket :=
  let ticket := ticket.analyze
  follow 3 ticket.routeAfterAnalysis ticket

end Ticket

end Workgraph
