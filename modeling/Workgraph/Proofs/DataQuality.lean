import Workgraph.Proofs.Texts
import Workgraph.Workflows.DataQuality

/-!
# Data quality

When a piece of data gets through its workflow. The validation reports a price that is no numeral, but the
enrichment reads the price once more and fails on it, before the data is graded.
-/

namespace Workgraph.DataQuality

open Step
open Pipeline (Texts Holds textRecord textRecord_eq textFields get?_textFields isIn_textRecord
  field_textRecord holds_textFields)

def typeOf (data : Texts) : String :=
  if (data.lookup "email").isSome ∧ (data.lookup "name").isSome then "contact"
  else if (data.lookup "product_id").isSome ∧ (data.lookup "price").isSome then "product"
  else if (data.lookup "user_id").isSome ∧ (data.lookup "action").isSome then "event"
  else "unknown"

theorem typeOf_cases (data : Texts) :
    (typeOf data = "contact" ∧
      ∃ email name, data.lookup "email" = some email ∧ data.lookup "name" = some name) ∨
    (typeOf data = "product" ∧
      ∃ product price, data.lookup "product_id" = some product ∧ data.lookup "price" = some price) ∨
    (typeOf data = "event" ∧
      ∃ user action, data.lookup "user_id" = some user ∧ data.lookup "action" = some action) ∨
    typeOf data = "unknown" := by
  have hboth {first second : String}
      (h : (data.lookup first).isSome ∧ (data.lookup second).isSome) :
      ∃ s t, data.lookup first = some s ∧ data.lookup second = some t := by
    obtain ⟨s, hs⟩ := Option.isSome_iff_exists.1 h.1
    obtain ⟨t, ht⟩ := Option.isSome_iff_exists.1 h.2
    exact ⟨s, t, hs, ht⟩
  unfold typeOf
  split <;> rename_i hcontact
  · exact .inl ⟨rfl, hboth hcontact⟩
  · split <;> rename_i hproduct
    · exact .inr (.inl ⟨rfl, hboth hproduct⟩)
    · split <;> rename_i hevent
      · exact .inr (.inr (.inl ⟨rfl, hboth hevent⟩))
      · exact .inr (.inr (.inr rfl))

private theorem hasBoth_textRecord (first second : String) (data : Texts) :
    hasBoth first second (textRecord data) =
      .ok (decide ((data.lookup first).isSome ∧ (data.lookup second).isSome)) := by
  unfold hasBoth
  rw [isIn_textRecord, isIn_textRecord, ok_bind]
  cases (data.lookup first).isSome <;> simp [pure, Except.pure]

section Nodes

variable {fields : Fields} {data : Texts} {key s price : String}

theorem classify_holding (hraw : Fields.get? "raw_data" fields = some (textRecord data))
    (session : Session) : classify (session.holding fields) =
      .ok () (session.holding (Fields.set "data_type" (.text (typeOf data)) fields)) := by
  simp only [classify, bind_apply, read_holding hraw, hasBoth_textRecord, liftM_ok, pure_apply,
    decide_eq_true_eq, typeOf]
  split
  · rfl
  · simp only [bind_apply, pure_apply, decide_eq_true_eq]
    split
    · rfl
    · simp only [bind_apply, pure_apply, decide_eq_true_eq]
      split <;> rfl

theorem requireField_textRecord (hkey : data.lookup key = some s)
    (check : Except Fault (List String)) : requireField key (textRecord data) check = check := by
  rw [requireField, isIn_textRecord, hkey]
  rfl

private theorem exists_contactErrors {email name : String} (hemail : data.lookup "email" = some email)
    (hname : data.lookup "name" = some name) :
    ∃ errors, contactErrors (textRecord data) = .ok errors ∧ errors.length ≤ 2 := by
  have hfieldOr {key s : String} (hkey : data.lookup key = some s) :
      (textRecord data).fieldOr key "" = .ok (.text s) := by
    simp only [textRecord_eq, Value.fieldOr, get?_textFields, hkey, Option.map_some,
      Option.getD_some]
  simp only [contactErrors, requireField_textRecord hemail, requireField_textRecord hname,
    hfieldOr hemail, hfieldOr hname, ok_bind, Value.isIn, Value.size]
  split
  · split
    · exact ⟨_, rfl, by decide⟩
    · exact ⟨_, rfl, by decide⟩
  · split
    · exact ⟨_, rfl, by decide⟩
    · exact ⟨_, rfl, by decide⟩

def priceComplaint (price : String) : Option String :=
  Numeral.decimalComplaint "Price cannot be negative" "Price must be a number" price

private theorem priceErrors_text (price : String) :
    priceErrors (.text price) = .ok (priceComplaint price).toList :=
  Numeral.decimal_check_eq _ _ price

theorem productErrors_textRecord {product : String}
    (hproduct : data.lookup "product_id" = some product) (hprice : data.lookup "price" = some price) :
    productErrors (textRecord data) = .ok (priceComplaint price).toList := by
  simp only [productErrors, requireField_textRecord hproduct, requireField_textRecord hprice,
    field_textRecord hprice, ok_bind, priceErrors_text]
  rfl

private theorem eventErrors_textRecord {user action : String} (huser : data.lookup "user_id" = some user)
    (haction : data.lookup "action" = some action) :
    eventErrors (textRecord data) = .ok [] := by
  simp only [eventErrors, requireField_textRecord huser, requireField_textRecord haction]
  rfl

theorem errorsOf_text (type : String) (data : Value) : errorsOf (.text type) data =
    if type = "contact" then contactErrors data
    else if type = "product" then productErrors data
    else if type = "event" then eventErrors data
    else .ok [] := by
  simp only [errorsOf, Value.same_text, beq_iff_eq]

theorem exists_errorsOf (data : Texts) :
    ∃ errors, errorsOf (.text (typeOf data)) (textRecord data) = .ok errors ∧ errors.length ≤ 2 := by
  rw [errorsOf_text]
  rcases typeOf_cases data with ⟨htype, email, name, hemail, hname⟩ |
    ⟨htype, product, price, hproduct, hprice⟩ | ⟨htype, user, action, huser, haction⟩ | htype
  · rw [if_pos htype]
    exact exists_contactErrors hemail hname
  · rw [htype, if_neg (by decide), if_pos rfl, productErrors_textRecord hproduct hprice]
    exact ⟨_, rfl, by cases priceComplaint price <;> simp⟩
  · rw [htype, if_neg (by decide), if_neg (by decide), if_pos rfl,
      eventErrors_textRecord huser haction]
    exact ⟨_, rfl, by decide⟩
  · rw [htype, if_neg (by decide), if_neg (by decide), if_neg (by decide)]
    exact ⟨_, rfl, by decide⟩

/-- The data is a product with this price, which is no numeral. -/
def IsMispriced (data : Texts) (price : String) : Prop :=
  typeOf data = "product" ∧ data.lookup "price" = some price ∧
    ∃ fault, Numeral.readFloat price = .error fault

theorem errorsOf_of_isMispriced (h : IsMispriced data price) :
    errorsOf (.text (typeOf data)) (textRecord data) = .ok ["Price must be a number"] := by
  obtain ⟨htype, hprice, fault, hfault⟩ := h
  have hcomplaint : priceComplaint price = some "Price must be a number" := by
    simp only [priceComplaint, Numeral.decimalComplaint, hfault]
  -- Only the price is complained about, since a product has an identifier.
  have hproduct : ∃ product, data.lookup "product_id" = some product := by
    rcases typeOf_cases data with ⟨hother, -⟩ | ⟨-, product, -, hproduct, -⟩ | ⟨hother, -⟩ | hother
    · simp [htype] at hother
    · exact ⟨product, hproduct⟩
    · simp [htype] at hother
    · simp [htype] at hother
  obtain ⟨product, hproduct⟩ := hproduct
  rw [errorsOf_text, htype, if_neg (by decide), if_pos rfl,
    productErrors_textRecord hproduct hprice, hcomplaint]
  rfl

theorem enriched_text (now : DateTime) (type : String) (data : Value) :
    enriched now (.text type) data =
      if type = "contact" then enrichContact data
      else if type = "product" then enrichProduct data
      else if type = "event" then enrichEvent now data
      else .ok data := by
  simp only [enriched, Value.same_text, beq_iff_eq]

/-- The second record has as many fields as the first one or up to two more. -/
def Enlarges (old new : Fields) : Prop := old.length ≤ new.length ∧ new.length ≤ old.length + 2

private theorem exists_enrichContact {email name : String} (hemail : data.lookup "email" = some email)
    (hname : data.lookup "name" = some name) :
    ∃ changed, enrichContact (textRecord data) = .ok (.record changed) ∧
      Enlarges (textFields data) changed := by
  have hstart : Holds data ["email", "name"] (textFields data) := holds_textFields data _
  have hname' (domain sort : Value) : Holds data ["name"]
      (Fields.set "email_provider" sort (Fields.set "email_domain" domain (textFields data))) :=
    (hstart.tail.set (by decide) domain).set (by decide) sort
  simp only [enrichContact, textRecord_eq, hstart.isIn, hstart.field hemail, hemail, Option.isSome_some,
    if_true, ok_bind, Value.chars, Value.setField, (hname' _ _).isIn, hname, (hname' _ _).field hname]
  refine ⟨_, rfl, ?_⟩
  -- the name is there already, so only the two fields about the address can be new
  have hhas (domain sort : Value) : Fields.has "name" (Fields.set "email_provider" sort
      (Fields.set "email_domain" domain (textFields data))) = true := by
    rw [Fields.has, hname' domain sort "name" List.mem_cons_self, hname]
    rfl
  simp only [Enlarges, Fields.length_set _ "name", hhas, if_true, Fields.length_set _ "email_provider",
    Fields.length_set _ "email_domain"]
  split <;> split <;> omega

theorem enrichProduct_textRecord (hprice : data.lookup "price" = some price) :
    enrichProduct (textRecord data) = (do
      let x ← Numeral.readFloat price
      .ok (.record (Fields.set "price_tier" (.text (priceTier x)) (textFields data)))) := by
  simp only [enrichProduct, isIn_textRecord, hprice, Option.isSome_some, if_true, ok_bind,
    field_textRecord hprice, Value.toFloat]
  rfl

theorem enlarges_set (fields : Fields) (key : String) (value : Value) :
    Enlarges fields (Fields.set key value fields) := by
  rw [Enlarges, Fields.length_set]
  split <;> omega

private theorem exists_enrichEvent (now : DateTime) (data : Texts) :
    ∃ changed, enrichEvent now (textRecord data) = .ok (.record changed) ∧
      Enlarges (textFields data) changed := by
  rw [enrichEvent, isIn_textRecord, ok_bind]
  split
  · exact ⟨_, rfl, Nat.le_refl _, Nat.le_add_right ..⟩
  · exact ⟨_, rfl, enlarges_set ..⟩

/-- The enrichment gets through unless it comes to a price that is no numeral. -/
theorem exists_enriched (h : ∀ price, ¬IsMispriced data price) (now : DateTime) :
    ∃ changed, enriched now (.text (typeOf data)) (textRecord data) = .ok (.record changed) ∧
      Enlarges (textFields data) changed := by
  rw [enriched_text]
  rcases typeOf_cases data with ⟨htype, email, name, hemail, hname⟩ |
    ⟨htype, product, price, -, hprice⟩ | ⟨htype, -⟩ | htype
  · rw [if_pos htype]
    exact exists_enrichContact hemail hname
  · rw [htype, if_neg (by decide), if_pos rfl, enrichProduct_textRecord hprice]
    cases hread : Numeral.readFloat price with
    | ok x => exact ⟨_, rfl, enlarges_set ..⟩
    | error fault => exact absurd ⟨htype, hprice, fault, hread⟩ (h price)
  · rw [htype, if_neg (by decide), if_neg (by decide), if_pos rfl]
    exact exists_enrichEvent now data
  · rw [htype, if_neg (by decide), if_neg (by decide), if_neg (by decide)]
    exact ⟨textFields data, rfl, Nat.le_refl _, Nat.le_add_right ..⟩

private theorem enriched_of_isMispriced (h : IsMispriced data price) (now : DateTime) :
    enriched now (.text (typeOf data)) (textRecord data) = .error (.notADecimal price) := by
  obtain ⟨htype, hprice, fault, hfault⟩ := h
  have hname := Numeral.eq_notADecimal_of_readFloat hfault
  rw [enriched_text, htype, if_neg (by decide), if_pos rfl, enrichProduct_textRecord hprice, hfault,
    hname]
  rfl

end Nodes

def validated (data : Texts) (errors : List String) (fields : Fields) : Fields :=
  Fields.set "validation_errors" (.list (errors.map .text))
    (Fields.set "data_type" (.text (typeOf data)) fields)

section Walks

variable {fields : Fields} {data : Texts} {errors : List String}

theorem validated_eqOutside (data : Texts) (errors : List String) (fields : Fields) :
    Fields.EqOutside ["data_type", "validation_errors"] fields (validated data errors fields) :=
  ((Fields.EqOutside.refl _ _).set (by decide) _).set (by decide) _

theorem get?_type_validated (data : Texts) (errors : List String) (fields : Fields) :
    Fields.get? "data_type" (validated data errors fields) = some (.text (typeOf data)) := by
  rw [validated, Fields.get?_set_of_ne _ (by decide), Fields.get?_set_self]

theorem walk_to_enrich (hraw : Fields.get? "raw_data" fields = some (textRecord data))
    (herrors : errorsOf (.text (typeOf data)) (textRecord data) = .ok errors)
    (hfew : errors.length ≤ 3) (limit : Nat) (session : Session) :
    workflow.walk (limit + 2) (session.holding fields) =
      (((workflow.walkFrom limit "enrich" (session.holding (validated data errors fields))).after
        ⟨.router "route_after_validation", some (.text "enrich"), none,
          .record (validated data errors fields)⟩).after
        ⟨.node "validate", none, none, .record (validated data errors fields)⟩).after
        ⟨.node "classify", none, none,
          .record (Fields.set "data_type" (.text (typeOf data)) fields)⟩ := by
  have hclassify := classify_holding hraw session
  have hraw' : Fields.get? "raw_data" (Fields.set "data_type" (.text (typeOf data)) fields) =
      some (textRecord data) := by
    rw [Fields.get?_set_of_ne _ (by decide), hraw]
  have hvalidate : validate
      (session.holding (Fields.set "data_type" (.text (typeOf data)) fields)) =
        .ok () (session.holding (validated data errors fields)) := by
    simp only [validate, bind_apply, read_holding hraw', read_holding (Fields.get?_set_self fields _ _),
      herrors, liftM_ok, pure_apply, write_holding, validated]
  have hroute : routeAfterValidation (session.holding (validated data errors fields)) =
      .ok (.text "enrich") (session.holding (validated data errors fields)) := by
    have hlist : Fields.get? "validation_errors" (validated data errors fields) =
        some (.list (errors.map .text)) := Fields.get?_set_self ..
    simp only [routeAfterValidation, bind_apply, read_holding hlist, Value.size, liftM_ok, pure_apply,
      List.length_map, if_neg (Nat.not_lt.2 hfew)]
  rw [Workflow.walk, Workflow.walkFrom_edge (by decide) rfl hclassify rfl rfl,
    Workflow.walkFrom_branching (by decide) rfl hvalidate rfl hroute rfl]
  rfl

private theorem exists_grade {errors : List Value} {before after : Fields} {review : Value}
    (herrors : Fields.get? "validation_errors" fields = some (.list errors))
    (hafter : Fields.get? "enriched_data" fields = some (.record after))
    (hbefore : Fields.get? "raw_data" fields = some (.record before))
    (hreview : Fields.get? "needs_manual_review" fields = some review) (session : Session) :
    ∃ review' final, grade (session.holding fields) = .ok () (session.holding final) ∧
      Fields.get? "needs_manual_review" final = some review' := by
  simp only [grade, bind_apply, read_holding herrors, read_holding hafter, read_holding hbefore,
    Value.size, liftM_ok, pure_apply, write_holding]
  split
  · exact ⟨_, _, rfl, Fields.get?_set_self ..⟩
  · refine ⟨review, _, rfl, ?_⟩
    rw [Fields.get?_set_of_ne _ (by decide), hreview]

private theorem finishes_after_grade {review : Value}
    (hreview : Fields.get? "needs_manual_review" fields = some review) {session : Session}
    {before : Session} (hgrade : grade before = .ok () (session.holding fields)) (limit : Nat) :
    (workflow.walkFrom (limit + 2) "quality" before).ending = .finished := by
  have hroute : routeAfterGrading (session.holding fields) =
      .ok (.text (if review.truthy then "manual_review" else "finalize"))
        (session.holding fields) := by
    simp only [routeAfterGrading, bind_apply, isSet_of_read (read_holding hreview session)]
    split <;> rfl
  cases htruthy : review.truthy with
  | true =>
      rw [htruthy, if_pos rfl] at hroute
      have hqueue : queueForReview (session.holding fields) =
          .ok () (session.holding (Fields.set "processed" (.bool false) fields)) := rfl
      rw [Workflow.walkFrom_branching (by decide) rfl hgrade rfl hroute rfl,
        Workflow.walkFrom_edge (by decide) rfl hqueue rfl rfl, Workflow.walkFrom_terminal]
      rfl
  | false =>
      rw [htruthy, if_neg (by decide)] at hroute
      have hfinalize : finalize (session.holding fields) =
          .ok () (session.holding (Fields.set "timestamp" (.text session.supply.now.text)
            (Fields.set "processed" (.bool true) fields))) := rfl
      rw [Workflow.walkFrom_branching (by decide) rfl hgrade rfl hroute rfl,
        Workflow.walkFrom_edge (by decide) rfl hfinalize rfl rfl, Workflow.walkFrom_terminal]
      rfl

theorem enrich_of_isMispriced {price : String}
    (hraw : Fields.get? "raw_data" fields = some (textRecord data))
    (htype : Fields.get? "data_type" fields = some (.text (typeOf data)))
    (h : IsMispriced data price) (session : Session) :
    enrich (session.holding fields) = .error (.notADecimal price) (session.holding fields) := by
  have hcopy : (textRecord data).copy = .ok (textRecord data) := rfl
  simp only [enrich, bind_apply, read_holding hraw, hcopy, liftM_ok, pure_apply, read_holding htype,
    now_holding, enriched_of_isMispriced h, liftM_error]

theorem exists_enrich_holding (hraw : Fields.get? "raw_data" fields = some (textRecord data))
    (htype : Fields.get? "data_type" fields = some (.text (typeOf data)))
    (h : ∀ price, ¬IsMispriced data price) (session : Session) :
    ∃ changed, enrich (session.holding fields) =
      .ok () (session.holding (Fields.set "enriched_data" (.record changed) fields)) ∧
      Enlarges (textFields data) changed := by
  have hcopy : (textRecord data).copy = .ok (textRecord data) := rfl
  obtain ⟨changed, hchanged, henlarges⟩ := exists_enriched h session.supply.now
  refine ⟨changed, ?_, henlarges⟩
  simp only [enrich, bind_apply, read_holding hraw, hcopy, liftM_ok, pure_apply, read_holding htype,
    now_holding, hchanged, write_holding]

private theorem finishes_from_enrich {errors : List Value} {review : Value}
    (hraw : Fields.get? "raw_data" fields = some (textRecord data))
    (htype : Fields.get? "data_type" fields = some (.text (typeOf data)))
    (herrors : Fields.get? "validation_errors" fields = some (.list errors))
    (hreview : Fields.get? "needs_manual_review" fields = some review)
    (h : ∀ price, ¬IsMispriced data price) (limit : Nat) (session : Session) :
    (workflow.walkFrom (limit + 3) "enrich" (session.holding fields)).ending = .finished := by
  obtain ⟨changed, henrich, -⟩ := exists_enrich_holding hraw htype h session
  have hsame := (Fields.EqOutside.refl ["enriched_data"] fields).set
    (List.mem_singleton_self _) (.record changed)
  obtain ⟨review', final, hgrade, hreview'⟩ := exists_grade ((hsame _ (by decide)).trans herrors)
    (Fields.get?_set_self ..) ((hsame _ (by decide)).trans hraw)
    ((hsame _ (by decide)).trans hreview) session
  rw [Workflow.walkFrom_edge (by decide) rfl henrich rfl rfl]
  exact finishes_after_grade hreview' hgrade limit

/-- The walk fails on a price that its validation has reported. -/
def FailsOn (walk : Walk) (price : String) : Prop :=
  walk.ending = .failed (.notADecimal price) ∧
    ∃ final, walk.session.state = .record final ∧
      Fields.get? "validation_errors" final = some (.list [.text "Price must be a number"])

theorem failsOn_of_isMispriced {price : String}
    (hraw : Fields.get? "raw_data" fields = some (textRecord data)) (h : IsMispriced data price)
    (limit : Nat) (session : Session) :
    FailsOn (workflow.walk (limit + 3) (session.holding fields)) price := by
  have hsame := validated_eqOutside data ["Price must be a number"] fields
  have hwalk := walk_to_enrich hraw (errorsOf_of_isMispriced h) (by decide) (limit + 1) session
  have henrich := enrich_of_isMispriced ((hsame _ (by decide)).trans hraw)
    (get?_type_validated ..) h session
  rw [hwalk, Workflow.walkFrom_node_fault (by decide) rfl henrich]
  exact ⟨rfl, _, rfl, Fields.get?_set_self ..⟩

private theorem finishes_of_not_isMispriced {review : Value}
    (hraw : Fields.get? "raw_data" fields = some (textRecord data))
    (hreview : Fields.get? "needs_manual_review" fields = some review)
    (h : ∀ price, ¬IsMispriced data price) (limit : Nat) (session : Session) :
    (workflow.walk (limit + 5) (session.holding fields)).ending = .finished := by
  obtain ⟨errors, herrors, hfew⟩ := exists_errorsOf data
  have hsame := validated_eqOutside data errors fields
  have hwalk := walk_to_enrich hraw herrors (by omega) (limit + 3) session
  rw [hwalk]
  exact finishes_from_enrich ((hsame _ (by decide)).trans hraw) (get?_type_validated ..)
    (Fields.get?_set_self ..) ((hsame _ (by decide)).trans hreview) h limit session

end Walks

/-- A walk with data of texts finishes exactly if the data is not a product whose price is no numeral.
Otherwise it fails on the price, although the validation has reported it. -/
theorem walk_finished_iff_not_isMispriced (session : Session) (limit : Nat) {fields : Fields} {data : Texts}
    {review : Value} (hraw : Fields.get? "raw_data" fields = some (textRecord data))
    (hreview : Fields.get? "needs_manual_review" fields = some review) :
    ((workflow.walk (limit + 5) (session.holding fields)).ending = .finished ↔
      ∀ price, ¬IsMispriced data price) ∧
    ∀ price, IsMispriced data price →
      FailsOn (workflow.walk (limit + 5) (session.holding fields)) price := by
  have hfails (price : String) (h : IsMispriced data price) :
      FailsOn (workflow.walk (limit + 5) (session.holding fields)) price :=
    failsOn_of_isMispriced hraw h (limit + 2) session
  refine ⟨⟨?_, ?_⟩, hfails⟩
  · intro hfinished price hmispriced
    have hfailed := (hfails price hmispriced).1
    rw [hfinished] at hfailed
    cases hfailed
  · intro h
    exact finishes_of_not_isMispriced hraw hreview h limit session

def received (data : Texts) : Fields := [
  ("raw_data", textRecord data), ("data_type", ""), ("validation_errors", .list []),
  ("enriched_data", .record []), ("quality_score", .float 0), ("needs_manual_review", false),
  ("processed", false), ("timestamp", "")]

theorem raw_received (data : Texts) :
    Fields.get? "raw_data" (received data) = some (textRecord data) := rfl

def trader : Texts :=
  [("email", "nowhere"), ("name", "T"), ("product_id", "P1"), ("price", "free")]

theorem walk_trader :
    (workflow.walk 5 (Session.holding { state := .null } (received trader))).ending = .finished := by
  refine (walk_finished_iff_not_isMispriced { state := .null } 0 (raw_received trader) rfl).1.2 ?_
  rintro price ⟨htype, -⟩
  have hcontact : typeOf trader = "contact" := by decide
  rw [hcontact] at htype
  simp at htype

def giveaway : Texts := [("product_id", "P1"), ("price", "free")]

theorem walk_giveaway :
    FailsOn (workflow.walk 5 (Session.holding { state := .null } (received giveaway))) "free" :=
  failsOn_of_isMispriced (raw_received giveaway) ⟨by decide, rfl, _, rfl⟩ 2 { state := .null }

end Workgraph.DataQuality
