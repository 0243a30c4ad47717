import Workgraph.Proofs.Lines
import Workgraph.Proofs.Numbers
import Workgraph.Proofs.Walks
import Workgraph.Workflows.Documents

/-!
# The retry loop of documents

What is extracted from a document depends on its text alone, so each pass of the loop finds the same and
makes the same complaints. The loop is left when the attempts are used up, and the document counts as
processed whether it is sound or not.
-/

namespace Workgraph.Documents

open Step

/-- An email begins with a sender or a receiver. -/
def IsEmail (content : String) : Prop :=
  "From:".toList <+: content.toList ∨ "To:".toList <+: content.toList

/-- Some line of the text begins with this name. -/
def HasHeader (name content : String) : Prop :=
  ∃ line ∈ Text.splitAt '\n' content.toList, name.toList <+: line

/-- The text is long enough, and if it is an email it has a sender and a receiver. -/
def IsSound (content : String) : Prop :=
  10 ≤ content.length ∧ (IsEmail content → HasHeader "From:" content ∧ HasHeader "To:" content)

instance (content : String) : Decidable (IsEmail content) := inferInstanceAs (Decidable (_ ∨ _))

instance (name content : String) : Decidable (HasHeader name content) :=
  inferInstanceAs (Decidable (∃ line ∈ _, _))

instance (content : String) : Decidable (IsSound content) := inferInstanceAs (Decidable (_ ∧ _))

def complaints (content : String) : List String :=
  (if IsEmail content ∧ ¬HasHeader "From:" content then ["Missing 'from' field in email"] else []) ++
    (if IsEmail content ∧ ¬HasHeader "To:" content then ["Missing 'to' field in email"] else []) ++
    if content.length < 10 then ["Insufficient text extracted"] else []

theorem complaints_eq_nil_iff (content : String) : complaints content = [] ↔ IsSound content := by
  have hempty {c : Prop} [Decidable c] (s : String) : (if c then [s] else []) = [] ↔ ¬c := by
    split <;> simp_all
  rw [complaints, List.append_eq_nil_iff, List.append_eq_nil_iff, hempty, hempty, hempty, IsSound,
    Nat.not_lt]
  constructor
  · rintro ⟨⟨hsender, hreceiver⟩, hlong⟩
    exact ⟨hlong, fun hemail => ⟨not_not.1 fun h => hsender ⟨hemail, h⟩,
      not_not.1 fun h => hreceiver ⟨hemail, h⟩⟩⟩
  · rintro ⟨hlong, hheaders⟩
    exact ⟨⟨fun ⟨hemail, h⟩ => h (hheaders hemail).1, fun ⟨hemail, h⟩ => h (hheaders hemail).2⟩, hlong⟩

theorem startsWith_iff (start : String) (s : List Char) :
    startsWith start s = true ↔ start.toList <+: s :=
  List.isPrefixOf_iff_prefix

theorem typeOf_eq_email_iff (content : String) :
    typeOf content.toList = "email" ↔ IsEmail content := by
  rw [IsEmail, ← startsWith_iff, ← startsWith_iff, typeOf, ← Bool.or_eq_true]
  split <;> rename_i hemail
  · exact ⟨fun _ => hemail, fun _ => rfl⟩
  · refine ⟨fun htype => ?_, fun h => absurd h hemail⟩
    split at htype
    · simp at htype
    · split at htype <;> simp at htype

theorem has_foldl {note : Fields → List Char → Fields} {tells : List Char → Bool} {key : String}
    (h : ∀ found line, Fields.has key (note found line) = (Fields.has key found || tells line))
    (lines : List (List Char)) (found : Fields) :
    Fields.has key (lines.foldl note found) = (Fields.has key found || lines.any tells) := by
  induction lines generalizing found with
  | nil => simp
  | cons line rest ih => rw [List.foldl_cons, ih, h, List.any_cons, Bool.or_assoc]

private theorem has_noteDate {key : String} (hkey : "date" ≠ key) (found : Fields) (line : List Char) :
    Fields.has key (noteDate found line) = (Fields.has key found || false) := by
  rw [noteDate, Bool.or_false]
  split
  · exact Fields.has_set_of_ne hkey found _
  · rfl

private theorem has_from_noteHeader (found : Fields) (line : List Char) :
    Fields.has "from" (noteHeader found line) =
      (Fields.has "from" found || startsWith "From:" line) := by
  unfold noteHeader
  split <;> rename_i hsender
  · rw [Fields.has_set_self, hsender, Bool.or_true]
  rw [Bool.eq_false_iff.2 hsender, Bool.or_false]
  split
  · exact Fields.has_set_of_ne (by decide) found _
  · split
    · exact Fields.has_set_of_ne (by decide) found _
    · rfl

/-- A line that names the sender does not name the receiver, so that the order of the two tests does not
matter. -/
theorem not_startsWith_to {line : List Char} (h : startsWith "From:" line = true) :
    startsWith "To:" line = false := by
  obtain ⟨rest, rfl⟩ := (startsWith_iff _ _).1 h
  have hapart : Text.Apart "To:".toList "From:".toList := by decide
  rw [Bool.eq_false_iff, ne_eq, startsWith_iff]
  exact hapart.not_begins rest

private theorem has_to_noteHeader (found : Fields) (line : List Char) :
    Fields.has "to" (noteHeader found line) =
      (Fields.has "to" found || startsWith "To:" line) := by
  unfold noteHeader
  split <;> rename_i hsender
  · rw [not_startsWith_to hsender, Bool.or_false]
    exact Fields.has_set_of_ne (by decide) found _
  split <;> rename_i hreceiver
  · rw [Fields.has_set_self, hreceiver, Bool.or_true]
  rw [Bool.eq_false_iff.2 hreceiver, Bool.or_false]
  split
  · exact Fields.has_set_of_ne (by decide) found _
  · rfl

theorem has_metadataOf_iff {key name : String} (hkey : "date" ≠ key)
    (hnote : ∀ found line, Fields.has key (noteHeader found line) =
      (Fields.has key found || startsWith name line)) (content : String) :
    Fields.has key (metadataOf true content.toList) = true ↔ HasHeader name content := by
  have hdated : Fields.has key (if mentionsDate content.toList then
      (Text.splitAt '\n' content.toList).foldl noteDate [] else []) = false := by
    split
    · rw [has_foldl (has_noteDate hkey)]
      simp [Fields.has]
    · rfl
  simp only [metadataOf, if_true, has_foldl hnote, hdated, Bool.false_or, List.any_eq_true,
    startsWith_iff, HasHeader]

def metadata (content : String) : Fields :=
  metadataOf (typeOf content.toList == "email") content.toList

/-- A document whose sort has been told from its text, after so many tries. -/
structure IsClassified (fields : Fields) (content : String) (tries : Int) : Prop where
  raw : Fields.get? "raw_content" fields = some (.text content)
  type : Fields.get? "document_type" fields = some (.text (typeOf content.toList))
  tries : (Fields.get? "retry_count" fields).bind Value.whole? = some tries

namespace IsClassified

variable {fields : Fields} {content : String} {tries : Int}

def names : List String := ["raw_content", "document_type", "retry_count"]

theorem set (h : IsClassified fields content tries) {key : String} (hkey : key ∉ names)
    (value : Value) : IsClassified (Fields.set key value fields) content tries where
  raw := (Fields.get?_set_of_mem hkey (by decide) _ _).trans h.raw
  type := (Fields.get?_set_of_mem hkey (by decide) _ _).trans h.type
  tries := by
    rw [Fields.get?_set_of_mem hkey (by decide)]
    exact h.tries

theorem set_tries (h : IsClassified fields content tries) (n : Int) :
    IsClassified (Fields.set "retry_count" (.int n) fields) content n where
  raw := by simpa [Fields.get?_set] using h.raw
  type := by simpa [Fields.get?_set] using h.type
  tries := by simp [Value.whole?]

end IsClassified

section Nodes

variable {fields : Fields} {content : String} {tries : Int}

theorem detectType_holding (hraw : Fields.get? "raw_content" fields = some (.text content))
    (session : Session) : detectType (session.holding fields) =
      .ok () (session.holding (Fields.set "document_type" (.text (typeOf content.toList)) fields)) := by
  simp only [detectType, bind_apply, read_holding hraw, Value.chars, liftM_ok, pure_apply,
    write_holding]

theorem extractText_holding (hraw : Fields.get? "raw_content" fields = some (.text content))
    (session : Session) : extractText (session.holding fields) =
      .ok () (session.holding (Fields.set "extracted_text" (.text content) fields)) := by
  simp only [extractText, bind_apply, read_holding hraw, write_holding]

theorem extractMetadata_holding
    (htext : Fields.get? "extracted_text" fields = some (.text content))
    (htype : Fields.get? "document_type" fields = some (.text (typeOf content.toList)))
    (session : Session) : extractMetadata (session.holding fields) =
      .ok () (session.holding (Fields.set "metadata" (.record (metadata content)) fields)) := by
  simp only [extractMetadata, bind_apply, read_holding htext, Value.chars, liftM_ok, pure_apply,
    holds_of_read (read_holding htype session), write_holding, metadata]

private theorem extractEntities_holding
    (htext : Fields.get? "extracted_text" fields = some (.text content)) (session : Session) :
    extractEntities (session.holding fields) =
      .ok () (session.holding
        (Fields.set "entities" (.list (entitiesOf content.toList)) fields)) := by
  simp only [extractEntities, bind_apply, read_holding htext, Value.chars, liftM_ok, pure_apply,
    write_holding]

private theorem complainUnless_holding {found : Fields}
    (hfound : Fields.get? "metadata" fields = some (.record found)) (name complaint : String)
    (session : Session) : complainUnless name complaint (session.holding fields) =
      .ok (if Fields.has name found then [] else [.text complaint]) (session.holding fields) := by
  simp only [complainUnless, bind_apply, read_holding hfound, Value.isIn, Value.isAtom, if_true,
    liftM_ok, pure_apply]
  split <;> rfl

theorem short_text (content : String) (next : Bool → Step α) :
    (if (Value.text content).truthy then do
        let n ← (Value.text content).size
        let short ← pure (decide (n < 10))
        next short
      else pure true >>= next) = next (decide (content.length < 10)) := by
  by_cases hempty : content = ""
  · subst hempty
    rfl
  · rw [if_pos (by simp [Value.truthy, hempty])]
    rfl

theorem validate_holding (htext : Fields.get? "extracted_text" fields = some (.text content))
    (htype : Fields.get? "document_type" fields = some (.text (typeOf content.toList)))
    (hfound : Fields.get? "metadata" fields = some (.record (metadata content)))
    (session : Session) : validate (session.holding fields) =
      .ok () (session.holding
        (Fields.set "validation_errors" (.list ((complaints content).map .text)) fields)) := by
  have hemail : holds "document_type" "email" (session.holding fields) =
      .ok (decide (IsEmail content)) (session.holding fields) := by
    rw [holds_of_read (read_holding htype session), beq_eq_decide, decide_eq_decide.2
      (typeOf_eq_email_iff content)]
  simp only [validate, bind_apply, hemail, decide_eq_true_eq]
  by_cases h : IsEmail content
  · have hmetadata : metadata content = metadataOf true content.toList := by
      rw [metadata, (typeOf_eq_email_iff content).2 h]
      rfl
    rw [hmetadata] at hfound
    simp only [h, if_true, bind_apply, complainUnless_holding hfound, pure_apply,
      has_metadataOf_iff (by decide) has_from_noteHeader,
      has_metadataOf_iff (by decide) has_to_noteHeader, read_holding htext, short_text, write_holding,
      complaints, true_and, decide_eq_true_eq]
    by_cases hsender : HasHeader "From:" content <;>
      by_cases hreceiver : HasHeader "To:" content <;>
        by_cases hshort : content.length < 10 <;> simp [hsender, hreceiver, hshort]
  · simp only [h, if_false, bind_apply, pure_apply, read_holding htext, short_text, write_holding,
      complaints, false_and, decide_eq_true_eq]
    by_cases hshort : content.length < 10 <;> simp [hshort]

/-- How many times a document with this text is sent back after so many tries. -/
def retriesOf (content : String) (tries : Int) : Nat :=
  if complaints content = [] then 0 else (2 - tries).toNat

/-- Where the check sends the document. -/
def onward (content : String) (tries : Int) : String :=
  if retriesOf content tries = 0 then "finalize" else "retry"

private theorem routeAfterValidation_holding
    (herrors : Fields.get? "validation_errors" fields =
      some (.list ((complaints content).map .text)))
    (htries : (Fields.get? "retry_count" fields).bind Value.whole? = some tries)
    (session : Session) : routeAfterValidation (session.holding fields) =
      .ok (.text (onward content tries)) (session.holding fields) := by
  obtain ⟨v, hwhole, hread⟩ := exists_read_whole htries session
  simp only [routeAfterValidation, bind_apply, read_holding herrors, Value.size, liftM_ok, pure_apply,
    List.length_map, List.length_eq_zero_iff, onward, retriesOf]
  by_cases hsound : complaints content = []
  · simp only [hsound, if_true]
    rfl
  · have hless : v.less (.int 2) = .ok (decide (tries < 2)) := Value.less_of_whole? hwhole rfl
    have hspent : (2 - tries).toNat = 0 ↔ ¬tries < 2 := by omega
    simp only [hsound, if_false, bind_apply, hread, hless, liftM_ok, pure_apply, decide_eq_true_eq,
      hspent, ite_not]
    split <;> rfl

theorem exists_retry (h : IsClassified fields content tries) (hleft : tries < 2) (session : Session) :
    ∃ again, retry (session.holding fields) = .ok () (session.holding again) ∧
      IsClassified again content (tries + 1) ∧
      Fields.get? "validation_errors" again = some (.list []) := by
  obtain ⟨v, hwhole, hread⟩ := exists_read_whole h.tries session
  have hadd : v.add (.int 1) = .ok (.int (tries + 1)) := Value.add_of_whole? hwhole rfl
  have hcounted := h.set_tries (tries + 1)
  have hcount := Fields.get?_set_self fields "retry_count" (.int (tries + 1))
  have hfew : (Value.int (tries + 1)).atMost (.int 2) = .ok true := by
    rw [Value.atMost_int rfl, decide_eq_true (by omega : tries + 1 ≤ 2)]
  refine ⟨Fields.set "validation_errors" (.list []) (Fields.set "extracted_text" (.text content)
    (Fields.set "retry_count" (.int (tries + 1)) fields)), ?_,
    (hcounted.set (by decide) _).set (by decide) _, Fields.get?_set_self ..⟩
  simp only [retry, increment, addTo, bind_apply, hread, pure_apply, hadd, liftM_ok, write_holding,
    read_holding hcount, hfew, if_true, read_holding hcounted.raw]

end Nodes

/-- What a node finds and the field where it is written. -/
structure Finding where
  node : String
  field : String
  value : Value

/-- What is found in a document with this text, whenever it is looked for. -/
def findings (content : String) : List Finding := [
  ⟨"extract_text", "extracted_text", .text content⟩,
  ⟨"extract_metadata", "metadata", .record (metadata content)⟩,
  ⟨"extract_entities", "entities", .list (entitiesOf content.toList)⟩,
  ⟨"validate", "validation_errors", .list ((complaints content).map .text)⟩]

/-- The event agrees with what is found in the text. If it is a retry, it is within the bound on the
tries and clears the errors. -/
def Agrees (content : String) (event : Event) : Prop :=
  (∀ finding ∈ findings content, event.place = .node finding.node →
    event.state.field finding.field = .ok finding.value) ∧
  (event.place = .node "retry" → ∃ fields tries, event.state = .record fields ∧
    (Fields.get? "retry_count" fields).bind Value.whole? = some tries ∧ tries ≤ 2 ∧
    Fields.get? "validation_errors" fields = some (.list []))

def texted (content : String) (fields : Fields) : Fields :=
  Fields.set "extracted_text" (.text content) fields

def described (content : String) (fields : Fields) : Fields :=
  Fields.set "metadata" (.record (metadata content)) (texted content fields)

def searched (content : String) (fields : Fields) : Fields :=
  Fields.set "entities" (.list (entitiesOf content.toList)) (described content fields)

def checked (content : String) (fields : Fields) : Fields :=
  Fields.set "validation_errors" (.list ((complaints content).map .text)) (searched content fields)

section Walks

variable {fields : Fields} {content : String} {tries : Int} {retries : Nat}

theorem IsClassified.checked (h : IsClassified fields content tries) :
    IsClassified (checked content fields) content tries :=
  (((h.set (by decide) _).set (by decide) _).set (by decide) _).set (by decide) _

private theorem agrees_of_finding {finding : Finding} (h : finding ∈ findings content)
    (hfield : Fields.get? finding.field fields = some finding.value) :
    Agrees content ⟨.node finding.node, none, none, .record fields⟩ := by
  simp only [findings, List.mem_cons, List.not_mem_nil, or_false] at h
  rcases h with rfl | rfl | rfl | rfl <;> simp [Agrees, findings, Value.field, hfield]

def passEvents (content : String) (tries : Int) (fields : Fields) : List Event := [
  ⟨.node "extract_text", none, none, .record (texted content fields)⟩,
  ⟨.node "extract_metadata", none, none, .record (described content fields)⟩,
  ⟨.node "extract_entities", none, none, .record (searched content fields)⟩,
  ⟨.node "validate", none, none, .record (checked content fields)⟩,
  ⟨.router "route_after_validation", some (.text (onward content tries)), none,
    .record (checked content fields)⟩]

theorem agrees_of_mem_passEvents {event : Event} (h : event ∈ passEvents content tries fields) :
    Agrees content event := by
  have hfound {finding : Finding} (hmem : finding ∈ findings content) (old : Fields) :=
    agrees_of_finding hmem (Fields.get?_set_self old finding.field finding.value)
  simp only [passEvents, List.mem_cons, List.not_mem_nil, or_false] at h
  rcases h with rfl | rfl | rfl | rfl | rfl
  · exact hfound (.head _) _
  · exact hfound (.tail _ (.head _)) _
  · exact hfound (.tail _ (.tail _ (.head _))) _
  · exact hfound (.tail _ (.tail _ (.tail _ (.head _)))) _
  · simp [Agrees]

theorem walk_pass (h : IsClassified fields content tries) (limit : Nat) (session : Session) :
    workflow.walkFrom (limit + 4) "extract_text" (session.holding fields) =
      (workflow.walkFrom limit (onward content tries)
        (session.holding (checked content fields))).behind (passEvents content tries fields) := by
  have hdescribed : IsClassified (described content fields) content tries :=
    (h.set (by decide) _).set (by decide) _
  have hextract : extractText (session.holding fields) =
      .ok () (session.holding (texted content fields)) := extractText_holding h.raw session
  have hdescribe : extractMetadata (session.holding (texted content fields)) =
      .ok () (session.holding (described content fields)) :=
    extractMetadata_holding (Fields.get?_set_self ..) (h.set (by decide) _).type session
  have hsearch : extractEntities (session.holding (described content fields)) =
      .ok () (session.holding (searched content fields)) :=
    extractEntities_holding (by simp [described, texted, Fields.get?_set]) session
  have hvalidate : validate (session.holding (searched content fields)) =
      .ok () (session.holding (checked content fields)) :=
    validate_holding (by simp [described, texted, Fields.get?_set])
      (hdescribed.set (by decide) _).type (by simp [described, Fields.get?_set]) session
  have hroute : routeAfterValidation (session.holding (checked content fields)) =
      .ok (.text (onward content tries)) (session.holding (checked content fields)) :=
    routeAfterValidation_holding (Fields.get?_set_self ..) h.checked.tries session
  have htarget : Branching.target? ⟨"validate", ⟨"route_after_validation", routeAfterValidation⟩,
      [("finalize", "finalize"), ("retry", "retry")]⟩ (.text (onward content tries)) =
        some (onward content tries) := by
    unfold onward
    split <;> rfl
  rw [Workflow.walkFrom_edge (by decide) rfl hextract rfl rfl,
    Workflow.walkFrom_edge (by decide) rfl hdescribe rfl rfl,
    Workflow.walkFrom_edge (by decide) rfl hsearch rfl rfl,
    Workflow.walkFrom_branching (by decide) rfl hvalidate rfl hroute htarget]
  -- the rest of the walk is the same on both sides and must not be unfolded
  generalize workflow.walkFrom limit (onward content tries) _ = rest
  rfl

/-- How a walk ends that has so many tries behind it: after its retries, with what is always found in
the text, and with the document marked as processed. -/
structure Concludes (walk : Walk) (content : String) (tries : Int) (retries : Nat) : Prop where
  finished : walk.ending = .finished
  agrees : ∀ event ∈ walk.events, Agrees content event
  count : walk.visited.count "retry" = retries
  leaves : ∃ final, walk.session.state = .record final ∧
    Fields.get? "processed" final = some (.bool true) ∧
    (Fields.get? "retry_count" final).bind Value.whole? = some (tries + retries) ∧
    Fields.get? "validation_errors" final = some (.list ((complaints content).map .text))

theorem Concludes.behind {walk : Walk} (more : Nat) (h : Concludes walk content (tries + more) retries)
    {events : List Event} (hagrees : ∀ event ∈ events, Agrees content event)
    (hmore : (Walk.mk events walk.ending walk.session).visited.count "retry" = more) :
    Concludes (walk.behind events) content tries (more + retries) := by
  obtain ⟨final, hstate, hprocessed, htries, herrors⟩ := h.leaves
  refine ⟨h.finished, ?_, ?_, final, hstate, hprocessed, ?_, herrors⟩
  · intro event hevent
    rcases List.mem_append.1 hevent with hfirst | hrest
    · exact hagrees event hfirst
    · exact h.agrees event hrest
  · rw [Walk.visited_behind, List.count_append, hmore, h.count]
  · rw [htries, Int.natCast_add, Int.add_assoc]

theorem Concludes.behind_others {walk : Walk} (h : Concludes walk content tries retries)
    {events : List Event} (hagrees : ∀ event ∈ events, Agrees content event)
    (hnone : (Walk.mk events walk.ending walk.session).visited.count "retry" = 0) :
    Concludes (walk.behind events) content tries retries := by
  rw [← Int.add_zero tries] at h
  rw [← Nat.zero_add retries]
  exact h.behind 0 hagrees hnone

private theorem concludes_finalize (h : IsClassified fields content tries)
    (herrors : Fields.get? "validation_errors" fields =
      some (.list ((complaints content).map .text))) (limit : Nat) (session : Session) :
    Concludes (workflow.walkFrom (limit + 1) "finalize" (session.holding fields)) content tries 0 := by
  have hfinalize : finalize (session.holding fields) =
      .ok () (session.holding (Fields.set "processed" (.bool true) fields)) := rfl
  rw [Workflow.walkFrom_edge (by decide) rfl hfinalize rfl rfl, Workflow.walkFrom_terminal]
  refine ⟨rfl, ?_, rfl, _, rfl, Fields.get?_set_self .., ?_, ?_⟩
  · simp [Walk.after, Agrees, findings]
  · rw [(h.set (by decide) _).tries, Int.ofNat_zero, Int.add_zero]
  · rw [Fields.get?_set_of_ne _ (by decide), herrors]

private theorem concludes_retry (h : IsClassified fields content tries) (hleft : tries < 2) {limit : Nat}
    {session : Session}
    (hnext : ∀ {again : Fields}, IsClassified again content (tries + 1) →
      Concludes (workflow.walkFrom limit "extract_text" (session.holding again)) content (tries + 1)
        retries) :
    Concludes (workflow.walkFrom (limit + 1) "retry" (session.holding fields)) content tries
      (1 + retries) := by
  obtain ⟨again, hrun, hagain, hcleared⟩ := exists_retry h hleft session
  have hagrees : Agrees content ⟨.node "retry", none, none, .record again⟩ := by
    refine ⟨by simp [findings], fun _ => ⟨again, _, rfl, hagain.tries, ?_, hcleared⟩⟩
    omega
  rw [Workflow.walkFrom_edge (by decide) rfl hrun rfl rfl]
  exact (hnext hagain).behind 1 (List.forall_mem_singleton.2 hagrees) rfl

/-- From the extraction on, by induction on the retries to come: a pass ends the walk or takes one of
them. -/
theorem concludes_pass (n : Nat) : ∀ {fields : Fields} {tries : Int} {limit : Nat},
    IsClassified fields content tries → retriesOf content tries = n → 5 * n + 5 ≤ limit →
      ∀ session : Session,
        Concludes (workflow.walkFrom limit "extract_text" (session.holding fields)) content tries n := by
  induction n with
  | zero =>
      intro fields tries limit h hretries hlimit session
      obtain ⟨rest, rfl⟩ := Nat.exists_eq_add_of_le' hlimit
      have hlast := concludes_finalize h.checked (Fields.get?_set_self ..) rest session
      rw [walk_pass h, onward, if_pos hretries]
      exact hlast.behind_others (fun _ => agrees_of_mem_passEvents) rfl
  | succ n ih =>
      intro fields tries limit h hretries hlimit session
      obtain ⟨rest, rfl⟩ : ∃ rest, limit = rest + 1 + 4 := ⟨limit - 5, by omega⟩
      have hfaulty : complaints content ≠ [] := by
        intro hsound
        simp [retriesOf, hsound] at hretries
      rw [walk_pass h, onward, if_neg (by omega)]
      rw [retriesOf, if_neg hfaulty] at hretries
      have hfewer : retriesOf content (tries + 1) = n := by
        rw [retriesOf, if_neg hfaulty]
        omega
      rw [Nat.add_comm n]
      refine Concludes.behind_others ?_ (fun _ => agrees_of_mem_passEvents) rfl
      apply concludes_retry h.checked (by omega)
      intro again hagain
      exact ih hagain hfewer (by omega) session

theorem concludes_walk (hraw : Fields.get? "raw_content" fields = some (.text content))
    (htries : (Fields.get? "retry_count" fields).bind Value.whole? = some tries) {limit : Nat}
    (hlimit : 6 + 5 * retriesOf content tries ≤ limit) (session : Session) :
    Concludes (workflow.walk limit (session.holding fields)) content tries
      (retriesOf content tries) := by
  obtain ⟨rest, rfl⟩ : ∃ rest, limit = rest + 1 := ⟨limit - 1, by omega⟩
  have hdetect := detectType_holding hraw session
  have hclassified : IsClassified
      (Fields.set "document_type" (.text (typeOf content.toList)) fields) content tries := by
    refine ⟨?_, Fields.get?_set_self .., ?_⟩
    · rw [Fields.get?_set_of_ne _ (by decide), hraw]
    · rw [Fields.get?_set_of_ne _ (by decide), htries]
  have hpass := concludes_pass _ hclassified rfl (by omega : _ ≤ rest) session
  rw [Workflow.walk, Workflow.walkFrom_edge (by decide) rfl hdetect rfl rfl]
  refine hpass.behind_others (List.forall_mem_singleton.2 ?_) rfl
  simp [Agrees, findings, workflow]

theorem cut_or_concludes (hraw : Fields.get? "raw_content" fields = some (.text content))
    (htries : (Fields.get? "retry_count" fields).bind Value.whole? = some tries) (limit : Nat)
    (session : Session) :
    (∀ event ∈ (workflow.walk limit (session.holding fields)).events, Agrees content event) ∧
      (limit < 6 + 5 * retriesOf content tries ∧
          (workflow.walk limit (session.holding fields)).ending = .limitReached ∨
        Concludes (workflow.walk limit (session.holding fields)) content tries
          (retriesOf content tries)) := by
  have henough (n : Nat) (hn : 6 + 5 * retriesOf content tries ≤ n) :
      (workflow.walk n (session.holding fields)).ending ≠ .limitReached := by
    simp [(concludes_walk hraw htries hn session).finished]
  have hlonger := concludes_walk hraw htries (Nat.le_add_left _ limit) session
  rcases Workflow.same_or_cut henough limit with hsame | ⟨hlimit, hcut, hbegins⟩
  · rw [hsame] at hlonger
    exact ⟨hlonger.agrees, .inr hlonger⟩
  · exact ⟨fun event hevent => hlonger.agrees event (hbegins.subset hevent), .inl ⟨hlimit, hcut⟩⟩

end Walks

/-- What the nodes find is the same in every pass. A document with complaints is sent back until the
second try and no other one is. The tries are counted one by one, and the complaints remain. -/
theorem walk_events_agree (session : Session) (limit : Nat) {fields : Fields} {content : String}
    {tries : Int} (hraw : Fields.get? "raw_content" fields = some (.text content))
    (htries : (Fields.get? "retry_count" fields).bind Value.whole? = some tries) :
    ∃ (walk : Walk) (retries : Nat), workflow.walk limit (session.holding fields) = walk ∧
      (retries : Int) = (if complaints content = [] then 0 else max 0 (2 - tries)) ∧
      (∀ event ∈ walk.events, Agrees content event) ∧
      (limit < 6 + 5 * retries ∧ walk.ending = .limitReached ∨
        walk.ending = .finished ∧ walk.visited.count "retry" = retries ∧
          ∃ final, walk.session.state = .record final ∧
            (Fields.get? "retry_count" final).bind Value.whole? = some (tries + retries) ∧
            Fields.get? "validation_errors" final =
              some (.list ((complaints content).map .text))) := by
  obtain ⟨hagrees, hends⟩ := cut_or_concludes hraw htries limit session
  refine ⟨_, retriesOf content tries, rfl, ?_, hagrees, ?_⟩
  · unfold retriesOf
    split <;> omega
  · refine hends.imp_right fun hconcludes => ?_
    obtain ⟨final, hstate, -, hcount, herrors⟩ := hconcludes.leaves
    exact ⟨hconcludes.finished, hconcludes.count, final, hstate, hcount, herrors⟩

def received (content : String) : Fields := [
  ("raw_content", .text content), ("document_type", ""), ("extracted_text", ""),
  ("metadata", .record []), ("entities", .list []), ("validation_errors", .list []),
  ("processed", false), ("retry_count", .int 0)]

theorem raw_received (content : String) :
    Fields.get? "raw_content" (received content) = some (.text content) := rfl

theorem tries_received (content : String) :
    (Fields.get? "retry_count" (received content)).bind Value.whole? = some 0 := rfl

def draft : String := "From: a@b.org\nTomorrow!"

theorem complaints_draft : complaints draft = ["Missing 'to' field in email"] := by decide +kernel

theorem walk_draft : ∃ walk final,
    workflow.walk 16 (Session.holding { state := .null } (received draft)) = walk ∧
      walk.ending = .finished ∧ walk.visited.count "retry" = 2 ∧
      walk.session.state = .record final ∧
      (Fields.get? "retry_count" final).bind Value.whole? = some 2 ∧
      Fields.get? "validation_errors" final = some (.list [.text "Missing 'to' field in email"]) := by
  obtain ⟨walk, retries, rfl, hretries, -, hends⟩ :=
    walk_events_agree { state := .null } 16 (raw_received draft) (tries_received draft)
  rw [complaints_draft, if_neg (List.cons_ne_nil _ _)] at hretries
  rw [complaints_draft] at hends
  obtain rfl : retries = 2 := by omega
  obtain ⟨hlimit, -⟩ | ⟨hfinished, hcount, final, hstate, htries, herrors⟩ := hends
  · omega
  · exact ⟨_, final, rfl, hfinished, hcount, hstate, htries, herrors⟩

/-- Every document is marked as processed when its walk has finished. It has no errors then exactly if
it is sound. -/
theorem walk_processed_iff_isSound (session : Session) (limit : Nat) {fields : Fields}
    {content : String} {tries : Int}
    (hraw : Fields.get? "raw_content" fields = some (.text content))
    (htries : (Fields.get? "retry_count" fields).bind Value.whole? = some tries) :
    ∃ walk, workflow.walk limit (session.holding fields) = walk ∧
      (limit < 6 + 5 * max 0 (2 - tries) ∧ walk.ending = .limitReached ∨
        walk.ending = .finished ∧
          ∃ final errors, walk.session.state = .record final ∧
            Fields.get? "processed" final = some (.bool true) ∧
            Fields.get? "validation_errors" final = some (.list errors) ∧
            (errors = [] ↔ IsSound content)) := by
  obtain ⟨-, ⟨hlimit, hcut⟩ | hconcludes⟩ := cut_or_concludes hraw htries limit session
  · refine ⟨_, rfl, .inl ⟨?_, hcut⟩⟩
    unfold retriesOf at hlimit
    split at hlimit <;> omega
  · obtain ⟨final, hstate, hprocessed, -, herrors⟩ := hconcludes.leaves
    refine ⟨_, rfl, .inr ⟨hconcludes.finished, final, _, hstate, hprocessed, herrors, ?_⟩⟩
    rw [List.map_eq_nil_iff, complaints_eq_nil_iff]

def letter : String := "To: a@b.org\nFrom: c@d.org"

theorem walk_letter : IsSound letter ∧ ∃ final,
    (workflow.walk 16 (Session.holding { state := .null } (received letter))).session.state =
        .record final ∧
      Fields.get? "processed" final = some (.bool true) ∧
      Fields.get? "validation_errors" final = some (.list []) := by
  have hsound : IsSound letter := by decide +kernel
  obtain ⟨walk, rfl, ⟨hlimit, -⟩ | ⟨-, final, errors, hstate, hprocessed, herrors, hnone⟩⟩ :=
    walk_processed_iff_isSound { state := .null } 16 (raw_received letter) (tries_received letter)
  · omega
  · rw [hnone.2 hsound] at herrors
    exact ⟨hsound, final, hstate, hprocessed, herrors⟩

/-- A document without any text is marked as processed, and its error is there. -/
theorem walk_empty_text : ∃ walk final,
    workflow.walk 16 (Session.holding { state := .null } (received "")) = walk ∧
      walk.ending = .finished ∧ walk.session.state = .record final ∧
      Fields.get? "processed" final = some (.bool true) ∧
      Fields.get? "validation_errors" final = some (.list [.text "Insufficient text extracted"]) := by
  have hcomplaints : complaints "" = ["Insufficient text extracted"] := by decide +kernel
  have hretries : retriesOf "" 0 = 2 := by
    rw [retriesOf, hcomplaints]
    rfl
  have hconcludes := concludes_walk (raw_received "") (tries_received "")
    (by omega : _ ≤ 16) { state := .null }
  obtain ⟨final, hstate, hprocessed, -, herrors⟩ := hconcludes.leaves
  rw [hcomplaints] at herrors
  exact ⟨_, final, rfl, hconcludes.finished, hstate, hprocessed, herrors⟩

end Workgraph.Documents
