import Workgraph.Text.Casing
import Workgraph.Walk

/-!
# Document processing

A document is classified, its text and what the text tells are extracted, and the result is
checked. A result with errors is extracted again, up to two times.
-/

namespace Workgraph.Documents

open Step

def startsWith (start : String) (s : List Char) : Bool := start.toList.isPrefixOf s

/-- The sort of a document, told from its text. -/
def typeOf (content : List Char) : String :=
  if startsWith "From:" content || startsWith "To:" content then "email"
  else if Text.occurs "Dear".toList content && Text.occurs "Sincerely".toList content then "letter"
  else if content.length < 100 then "note"
  else "document"

def detectType : Step Unit := do
  let content ← (← read "raw_content").chars
  write "document_type" (typeOf content)

def extractText : Step Unit := do
  write "extracted_text" (← read "raw_content")

def mentionsDate (s : List Char) : Bool := Text.occurs "date:".toList (Text.lower s)

/-- What a line says about the date: the part after its last colon. -/
def noteDate (found : Fields) (line : List Char) : Fields :=
  if mentionsDate line then
    found.set "date" (Value.ofChars (Text.trim Text.isGap (Text.lastPiece ':' line)))
  else found

/-- What follows a header's name. -/
def headerValue (name : String) (line : List Char) : Value :=
  Value.ofChars (Text.trim Text.isGap (Text.replace name.toList [] line))

/-- What a line says if it is one of the headers of an email. -/
def noteHeader (found : Fields) (line : List Char) : Fields :=
  if startsWith "From:" line then found.set "from" (headerValue "From:" line)
  else if startsWith "To:" line then found.set "to" (headerValue "To:" line)
  else if startsWith "Subject:" line then found.set "subject" (headerValue "Subject:" line)
  else found

/-- What the lines of a text say about it; the last line that speaks of a matter counts. -/
def metadataOf (isEmail : Bool) (content : List Char) : Fields :=
  let lines := Text.splitAt '\n' content
  let dated := if mentionsDate content then lines.foldl noteDate [] else []
  if isEmail then lines.foldl noteHeader dated else dated

def extractMetadata : Step Unit := do
  let content ← (← read "extracted_text").chars
  let isEmail ← holds "document_type" "email"
  write "metadata" (.record (metadataOf isEmail content))

/-- Whether a word is taken for a name: it has several letters and the first is a capital. -/
def isName : List Char → Bool
  | c :: _ :: _ => Text.isUpper c
  | _ => false

/-- A word with what it is taken for. -/
def entity (sort : String) (word : List Char) : Value :=
  .record [("type", .text sort), ("value", Value.ofChars word)]

def entitiesOf (content : List Char) : List Value :=
  let words := Text.words content
  (words.filter (·.contains '@')).map (entity "email") ++ (words.filter isName).map (entity "name")

def extractEntities : Step Unit := do
  let content ← (← read "extracted_text").chars
  write "entities" (.list (entitiesOf content))

/-- The complaint about a header, if the metadata lack it. -/
def complainUnless (name complaint : String) : Step (List Value) := do
  if ← (Value.text name).isIn (← read "metadata") then return [] else return [.text complaint]

/-- Checks that an email has a sender and a receiver, and that there is some text. -/
def validate : Step Unit := do
  let missing ←
    if ← holds "document_type" "email" then do
      let sender ← complainUnless "from" "Missing 'from' field in email"
      let receiver ← complainUnless "to" "Missing 'to' field in email"
      pure (sender ++ receiver)
    else pure []
  let content ← read "extracted_text"
  let short ← if content.truthy then do pure (decide ((← content.size) < 10)) else pure true
  write "validation_errors"
    (.list (if short then missing ++ [.text "Insufficient text extracted"] else missing))

def finalize : Step Unit := write "processed" true

/-- Counts an attempt and starts the extraction anew, up to the second attempt. -/
def retry : Step Unit := do
  increment "retry_count"
  if ← (← read "retry_count").atMost (.int 2) then
    write "extracted_text" (← read "raw_content")
    write "validation_errors" (.list [])
  else
    write "processed" false

/-- Sends a document with errors back while attempts are left. -/
def routeAfterValidation : Step Value := do
  if (← (← read "validation_errors").size) = 0 then return "finalize"
  else if ← (← read "retry_count").less (.int 2) then return "retry"
  else return "finalize"

def workflow : Workflow where
  schema := "DocumentState"
  fields := ["raw_content", "document_type", "extracted_text", "metadata", "entities",
    "validation_errors", "processed", "retry_count"]
  entry := "detect_type"
  nodes := [
    ⟨"detect_type", "detect_document_type", "Detect document type from content.", detectType⟩,
    ⟨"extract_text", "extract_text", "Extract text from document.", extractText⟩,
    ⟨"extract_metadata", "extract_metadata", "Extract metadata from document.", extractMetadata⟩,
    ⟨"extract_entities", "extract_entities", "Extract named entities from text.", extractEntities⟩,
    ⟨"validate", "validate_document", "Validate processed document.", validate⟩,
    ⟨"finalize", "finalize_document", "Mark document as successfully processed.", finalize⟩,
    ⟨"retry", "retry_extraction", "Retry extraction with different strategy.", retry⟩]
  edges := [
    ("detect_type", "extract_text"),
    ("extract_text", "extract_metadata"),
    ("extract_metadata", "extract_entities"),
    ("extract_entities", "validate"),
    ("retry", "extract_text"),
    ("finalize", terminal)]
  branchings := [
    ⟨"validate", ⟨"route_after_validation", routeAfterValidation⟩,
      [("finalize", "finalize"), ("retry", "retry")]⟩]

end Workgraph.Documents
