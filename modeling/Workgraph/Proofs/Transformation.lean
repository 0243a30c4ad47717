import Workgraph.Proofs.Complaints
import Workgraph.Proofs.Rounding

/-!
# Transforming records

The transformation reads ages and amounts again, which the validation has read before, and prices and
quantities, which nobody has looked at. So a batch gets through exactly if the price and the quantity
of each record without a complaint give a total.
-/

namespace Workgraph

theorem Step.increment_holding {fields : Fields} {key : String} {n : Int}
    (h : (Fields.get? key fields).bind Value.whole? = some n) (session : Session) :
    increment key (session.holding fields) =
      .ok () (session.holding (Fields.set key (.int (n + 1)) fields)) := by
  obtain ⟨v, hget, hwhole⟩ := Option.bind_eq_some_iff.1 h
  exact addTo_holding hget (pure_apply _ _) (Value.add_of_whole? hwhole rfl)

namespace Pipeline

open Step

private theorem complaint_eq_none_iff {key : String} {wrong : String → Option String} {entries : Texts} :
    complaint key wrong entries = none ↔ ∀ s, entries.lookup key = some s → wrong s = none := by
  unfold complaint
  rw [Option.map_eq_none_iff, Option.bind_eq_none_iff]

theorem complaints_eq_nil_iff {entries : Texts} : complaints entries = [] ↔
    ((complaint "id" idComplaint entries = none ∧ complaint "email" emailComplaint entries = none) ∧
      complaint "age" ageComplaint entries = none) ∧
      complaint "transaction_amount" amountComplaint entries = none := by
  simp only [complaints, List.append_eq_nil_iff, Option.toList_eq_nil_iff]

private theorem exists_readInt_of_ageComplaint {age : String} (h : ageComplaint age = none) :
    ∃ n, Numeral.readInt age = .ok n := by
  unfold ageComplaint at h
  cases hread : Numeral.readInt age with
  | ok n => exact ⟨n, rfl⟩
  | error fault =>
      rw [hread] at h
      cases h

section Changes

variable {entries : Texts} {names : List String} {fields : Fields} {key s : String}

/-- A change that is made where a record has a field takes the record through if it does so there. -/
theorem Holds.ifHas {change : Change} (h : Holds entries (key :: names) fields)
    (hchange : ∀ s, entries.lookup key = some s → ∃ changed,
      change (.record fields) = .ok (.record changed) ∧ Holds entries names changed) :
    ∃ changed, ifHas key change (.record fields) = .ok (.record changed) ∧
      Holds entries names changed := by
  unfold Pipeline.ifHas has
  rw [h.isIn, ok_bind]
  cases hkey : entries.lookup key with
  | none => exact ⟨fields, rfl, h.tail⟩
  | some s => exact hchange s hkey

private theorem exists_normalizeName (h : Holds entries ("name" :: names) fields)
    (hnames : "name" ∉ names) (hkey : entries.lookup "name" = some s) :
    ∃ changed, normalizeName (.record fields) = .ok (.record changed) ∧
      Holds entries names changed := by
  simp only [normalizeName, h.field hkey, ok_bind, Value.chars]
  exact ⟨_, rfl, h.tail.set hnames _⟩

private theorem exists_normalizeEmail (h : Holds entries ("email" :: names) fields)
    (hnames : "email" ∉ names) (hkey : entries.lookup "email" = some s) :
    ∃ changed, normalizeEmail (.record fields) = .ok (.record changed) ∧
      Holds entries names changed := by
  simp only [normalizeEmail, h.field hkey, ok_bind, Value.chars]
  exact ⟨_, rfl, h.tail.set hnames _⟩

private theorem exists_convertAge (h : Holds entries ("age" :: names) fields)
    (hnames : "age" ∉ names ∧ "age_group" ∉ names) (hkey : entries.lookup "age" = some s)
    (hage : ageComplaint s = none) :
    ∃ changed, convertAge (.record fields) = .ok (.record changed) ∧
      Holds entries names changed := by
  obtain ⟨n, hread⟩ := exists_readInt_of_ageComplaint hage
  simp only [convertAge, h.field hkey, ok_bind, Value.toInt, hread, Value.setField]
  exact ⟨_, rfl, (h.tail.set hnames.1 _).set hnames.2 _⟩

private theorem exists_convertAmount (h : Holds entries ("transaction_amount" :: names) fields)
    (hnames : "transaction_amount" ∉ names ∧ "tier" ∉ names)
    (hkey : entries.lookup "transaction_amount" = some s) (hamount : amountComplaint s = none) :
    ∃ changed, convertAmount (.record fields) = .ok (.record changed) ∧
      Holds entries names changed := by
  obtain ⟨x, hread⟩ := Numeral.exists_readFloat_of_decimalComplaint hamount
  simp only [convertAmount, h.field hkey, ok_bind, Value.toFloat, hread, Value.setField]
  exact ⟨_, rfl, (h.tail.set hnames.1 _).set hnames.2 _⟩

/-- Where a record has a price and a quantity, both can be read and a double is near the quantity. -/
def HasTotal (entries : Texts) : Prop :=
  ∀ price quantity, entries.lookup "price" = some price → entries.lookup "quantity" = some quantity →
    ∃ x n, Numeral.readFloat price = .ok x ∧ Numeral.readInt quantity = .ok n ∧
      n.natAbs < Binary64.overflowBound

theorem hasTotal_of_unpriced {entries : Texts}
    (h : entries.lookup "price" = none ∨ entries.lookup "quantity" = none) : HasTotal entries := by
  intro price quantity hprice hquantity
  rcases h with hnone | hnone
  · rw [hnone] at hprice
    cases hprice
  · rw [hnone] at hquantity
    cases hquantity

theorem exists_mul_float_iff (x : Float) (n : Int) :
    (∃ v, (Value.float x).mul (.int n) = .ok v) ↔ n.natAbs < Binary64.overflowBound := by
  have hmul : (Value.float x).mul (.int n) =
      (((Number.int n).toFloat >>= fun y => pure (Number.float (x * y))) >>= fun a =>
        pure (Value.ofNumber a)) := rfl
  rw [hmul, ← Number.exists_toFloat_int_iff]
  cases (Number.int n).toFloat with
  | ok y => exact iff_of_true ⟨_, rfl⟩ ⟨y, rfl⟩
  | error fault => simp

/-- A change takes a record through if a condition holds, and fails if it does not. -/
def SucceedsIf (condition : Prop) (result : Except Fault Value) : Prop :=
  (condition ∧ ∃ changed, result = .ok (.record changed)) ∨
    (¬condition ∧ ∃ fault, result = .error fault)

private theorem addTotalValue_succeedsIf {price quantity : String}
    (h : Holds entries ["price", "quantity"] fields) (hprice : entries.lookup "price" = some price)
    (hquantity : entries.lookup "quantity" = some quantity) :
    SucceedsIf (HasTotal entries) (addTotalValue (.record fields)) := by
  have htotal : HasTotal entries ↔ ∃ x n, Numeral.readFloat price = .ok x ∧
      Numeral.readInt quantity = .ok n ∧ n.natAbs < Binary64.overflowBound := by
    simp [HasTotal, hprice, hquantity]
  simp only [htotal, addTotalValue, h.field hprice, h.tail.field hquantity, ok_bind, Value.toFloat,
    Value.toInt]
  cases Numeral.readFloat price with
  | error fault => exact .inr ⟨by simp, fault, rfl⟩
  | ok x =>
      cases Numeral.readInt quantity with
      | error fault => exact .inr ⟨by simp, fault, rfl⟩
      | ok n =>
          have hbound := exists_mul_float_iff x n
          simp only [ok_bind]
          cases hmul : (Value.float x).mul (.int n) with
          | ok v => exact .inl ⟨⟨x, n, rfl, rfl, hbound.1 ⟨v, hmul⟩⟩, _, rfl⟩
          | error fault =>
              refine .inr ⟨?_, fault, rfl⟩
              rintro ⟨x', n', hx, hn, hlt⟩
              cases hx
              cases hn
              obtain ⟨v, hv⟩ := hbound.2 hlt
              rw [hmul] at hv
              cases hv

private theorem exists_transformed_eq (hsound : complaints entries = []) : ∃ shaped,
    transformed (textRecord entries) =
      ifHas "price" (ifHas "quantity" addTotalValue) (.record shaped) ∧
      Holds entries ["price", "quantity"] shaped := by
  obtain ⟨⟨-, hage⟩, hamount⟩ := complaints_eq_nil_iff.1 hsound
  rw [complaint_eq_none_iff] at hage hamount
  have hstart : Holds entries ["name", "email", "age", "transaction_amount", "price", "quantity"]
      (textFields entries) := holds_textFields entries _
  obtain ⟨named, hname, hnamed⟩ := hstart.ifHas fun s hkey =>
    exists_normalizeName hstart (by decide) hkey
  obtain ⟨mailed, hmail, hmailed⟩ := hnamed.ifHas fun s hkey =>
    exists_normalizeEmail hnamed (by decide) hkey
  obtain ⟨aged, hgroup, haged⟩ := hmailed.ifHas fun s hkey =>
    exists_convertAge hmailed (by decide) hkey (hage s hkey)
  obtain ⟨tiered, htier, htiered⟩ := haged.ifHas fun s hkey =>
    exists_convertAmount haged (by decide) hkey (hamount s hkey)
  refine ⟨tiered, ?_, htiered⟩
  have hcopy : (textRecord entries).copy = .ok (.record (textFields entries)) := rfl
  simp only [transformed, hcopy, ok_bind, hname, hmail, hgroup, htier]

theorem transformed_succeedsIf (hsound : complaints entries = []) :
    SucceedsIf (HasTotal entries) (transformed (textRecord entries)) := by
  obtain ⟨shaped, hshaped, hkept⟩ := exists_transformed_eq hsound
  rw [hshaped]
  unfold Pipeline.ifHas has
  rw [hkept.isIn, hkept.tail.isIn]
  simp only [ok_bind]
  cases hprice : entries.lookup "price" with
  | none =>
      have htotal : HasTotal entries := by simp [HasTotal, hprice]
      exact .inl ⟨htotal, shaped, rfl⟩
  | some price =>
      cases hquantity : entries.lookup "quantity" with
      | none =>
          have htotal : HasTotal entries := by simp [HasTotal, hquantity]
          exact .inl ⟨htotal, shaped, rfl⟩
      | some quantity => exact addTotalValue_succeedsIf hkept hprice hquantity

end Changes

/-- A batch after its validation, and how many of its records have been counted on either side. -/
structure IsBatch (records : List Texts) (fields : Fields) (succeeded failed : Int) : Prop where
  errors : Fields.get? "validation_errors" fields = some (.list (errorList records))
  succeeded : (Fields.get? "success_count" fields).bind Value.whole? = some succeeded
  failed : (Fields.get? "error_count" fields).bind Value.whole? = some failed

namespace IsBatch

variable {records : List Texts} {fields : Fields} {succeeded failed : Int}

theorem of_eqOutside (h : IsBatch records fields succeeded failed) {names : List String}
    {final : Fields} (hsame : Fields.EqOutside names fields final)
    (hnames : ∀ key ∈ ["validation_errors", "success_count", "error_count"], key ∉ names) :
    IsBatch records final succeeded failed where
  errors := (hsame _ (hnames _ (by decide))).trans h.errors
  succeeded := by
    rw [hsame _ (hnames _ (by decide))]
    exact h.succeeded
  failed := by
    rw [hsame _ (hnames _ (by decide))]
    exact h.failed

theorem set_succeeded (h : IsBatch records fields succeeded failed) (n : Int) :
    IsBatch records (Fields.set "success_count" (.int n) fields) n failed where
  errors := by simpa [Fields.get?_set] using h.errors
  succeeded := by simp [Value.whole?]
  failed := by simpa [Fields.get?_set] using h.failed

theorem set_failed (h : IsBatch records fields succeeded failed) (n : Int) :
    IsBatch records (Fields.set "error_count" (.int n) fields) succeeded n where
  errors := by simpa [Fields.get?_set] using h.errors
  succeeded := by simpa [Fields.get?_set] using h.succeeded
  failed := by simp [Value.whole?]

end IsBatch

theorem isBatch_checked {records : List Texts} {fields : Fields} {succeeded failed : Int}
    (hsucceeded : (Fields.get? "success_count" fields).bind Value.whole? = some succeeded)
    (hfailed : (Fields.get? "error_count" fields).bind Value.whole? = some failed) :
    IsBatch records (checked records fields) succeeded failed where
  errors := Fields.get?_set_self ..
  succeeded := by simpa [checked, Fields.get?_set] using hsucceeded
  failed := by simpa [checked, Fields.get?_set] using hfailed

section Loop

variable {before rest : List Texts} {entries : Texts} {fields : Fields} {succeeded failed : Int}

theorem mentions_errorList (before rest : List Texts) (entries : Texts) :
    mentions before.length (.list (errorList (before ++ entries :: rest))) =
      .ok (decide (complaints entries ≠ [])) := by
  rw [errorList, mentions_errorEntries, any_numbered]
  cases complaints entries <;> rfl

theorem transformFrom_faulty (h : IsBatch (before ++ entries :: rest) fields succeeded failed)
    (hfaulty : complaints entries ≠ []) (later : List Value) (session : Session) :
    transformFrom before.length (textRecord entries :: later) (session.holding fields) =
      transformFrom (before ++ [entries]).length later
        (session.holding (Fields.set "error_count" (.int (failed + 1)) fields)) := by
  rw [List.length_append, List.length_singleton]
  simp only [transformFrom, bind_apply, read_holding h.errors, mentions_errorList, liftM_ok,
    pure_apply, decide_eq_true hfaulty, if_true, increment_holding h.failed]

theorem transformFrom_sound (h : IsBatch (before ++ entries :: rest) fields succeeded failed)
    (hsound : complaints entries = []) {shaped : Value}
    (hshaped : transformed (textRecord entries) = .ok shaped) (later : List Value)
    (session : Session) :
    transformFrom before.length (textRecord entries :: later) (session.holding fields) =
      (transformFrom (before ++ [entries]).length later >>= fun shapes => pure (shaped :: shapes))
        (session.holding (Fields.set "success_count" (.int (succeeded + 1)) fields)) := by
  have hmentions : decide (complaints entries ≠ []) = false := by simp [hsound]
  rw [List.length_append, List.length_singleton]
  simp only [transformFrom, bind_apply, read_holding h.errors, mentions_errorList, liftM_ok,
    pure_apply, hmentions, Bool.false_eq_true, if_false, hshaped, increment_holding h.succeeded]

private theorem transformFrom_fault (h : IsBatch (before ++ entries :: rest) fields succeeded failed)
    (hsound : complaints entries = []) {fault : Fault}
    (hfault : transformed (textRecord entries) = .error fault) (later : List Value)
    (session : Session) :
    transformFrom before.length (textRecord entries :: later) (session.holding fields) =
      .error fault (session.holding fields) := by
  have hmentions : decide (complaints entries ≠ []) = false := by simp [hsound]
  simp only [transformFrom, bind_apply, read_holding h.errors, mentions_errorList, liftM_ok,
    pure_apply, hmentions, Bool.false_eq_true, if_false, hfault, liftM_error]

/-- The shapes of the records of a batch without complaints, in their order. -/
def Shapes (records : List Texts) (shapes : List Fields) : Prop :=
  List.Forall₂ (fun entries shape => transformed (textRecord entries) = .ok (.record shape))
    (records.filter fun entries => (complaints entries).isEmpty) shapes

private theorem exists_transformFrom (h : IsBatch (before ++ rest) fields succeeded failed)
    (htotal : ∀ entries ∈ rest, complaints entries = [] → HasTotal entries) (session : Session) :
    ∃ shapes final, transformFrom before.length (rest.map textRecord) (session.holding fields) =
        .ok (shapes.map .record) (session.holding final) ∧ Shapes rest shapes ∧
      IsBatch (before ++ rest) final (succeeded + soundCount rest)
        (failed + (rest.length - soundCount rest)) ∧
      Fields.EqOutside ["success_count", "error_count"] fields final := by
  -- The records before the position grow, since the error list speaks of positions in the whole batch.
  induction rest generalizing before fields succeeded failed with
  | nil =>
      refine ⟨[], fields, rfl, .nil, ?_, .refl _ _⟩
      simpa [soundCount] using h
  | cons entries rest ih =>
      rw [List.forall_mem_cons] at htotal
      rw [List.map_cons]
      by_cases hsound : complaints entries = []
      · obtain ⟨-, shape, hshape⟩ | ⟨hnone, -⟩ := transformed_succeedsIf hsound
        · have hcounted := h.set_succeeded (succeeded + 1)
          rw [List.append_cons] at hcounted ⊢
          obtain ⟨shapes, final, hrun, hshapes, hbatch, hsame⟩ := ih hcounted htotal.2
          refine ⟨shape :: shapes, final, ?_, ?_, ?_, ?_⟩
          · rw [transformFrom_sound h hsound hshape, bind_apply, hrun]
            rfl
          · rw [Shapes, List.filter_cons_of_pos (by simp [hsound])]
            exact .cons hshape hshapes
          · have hcount : soundCount (entries :: rest) = soundCount rest + 1 :=
              List.countP_cons_of_pos (by simp [hsound])
            rw [hcount, List.length_cons]
            convert hbatch using 1 <;> omega
          · exact ((Fields.EqOutside.refl _ _).set (by decide) _).trans hsame
        · exact absurd (htotal.1 hsound) hnone
      · have hcounted := h.set_failed (failed + 1)
        rw [List.append_cons] at hcounted ⊢
        obtain ⟨shapes, final, hrun, hshapes, hbatch, hsame⟩ := ih hcounted htotal.2
        refine ⟨shapes, final, ?_, ?_, ?_, ?_⟩
        · rw [transformFrom_faulty h hsound, hrun]
        · rw [Shapes, List.filter_cons_of_neg (by simp [hsound])]
          exact hshapes
        · have hcount : soundCount (entries :: rest) = soundCount rest :=
            List.countP_cons_of_neg (by simp [hsound])
          rw [hcount, List.length_cons]
          convert hbatch using 1
          omega
        · exact ((Fields.EqOutside.refl _ _).set (by decide) _).trans hsame

private theorem exists_transformFrom_fault (h : IsBatch (before ++ rest) fields succeeded failed)
    (htotal : ¬∀ entries ∈ rest, complaints entries = [] → HasTotal entries) (session : Session) :
    ∃ fault done, transformFrom before.length (rest.map textRecord) (session.holding fields) =
      .error fault done := by
  induction rest generalizing before fields succeeded failed with
  | nil => simp at htotal
  | cons entries rest ih =>
      rw [List.forall_mem_cons, not_and] at htotal
      rw [List.map_cons]
      by_cases hsound : complaints entries = []
      · obtain ⟨hhas, shape, hshape⟩ | ⟨-, fault, hfault⟩ := transformed_succeedsIf hsound
        · have hcounted := h.set_succeeded (succeeded + 1)
          rw [List.append_cons] at hcounted
          obtain ⟨fault, done, hrun⟩ := ih hcounted (htotal fun _ => hhas)
          refine ⟨fault, done, ?_⟩
          rw [transformFrom_sound h hsound hshape, bind_apply, hrun]
        · exact ⟨fault, _, transformFrom_fault h hsound hfault _ _⟩
      · have hcounted := h.set_failed (failed + 1)
        rw [List.append_cons] at hcounted
        obtain ⟨fault, done, hrun⟩ := ih hcounted (htotal fun hnil => absurd hnil hsound)
        exact ⟨fault, done, by rw [transformFrom_faulty h hsound, hrun]⟩

end Loop

section Batches

variable {records : List Texts} {fields : Fields} {succeeded failed : Int}

theorem exists_transform (h : IsBatch records fields succeeded failed)
    (hraw : Fields.get? "raw_records" fields = some (.list (records.map textRecord)))
    (htotal : ∀ entries ∈ records, complaints entries = [] → HasTotal entries) (session : Session) :
    ∃ shapes final, transform (session.holding fields) = .ok () (session.holding final) ∧
      Fields.get? "transformed_records" final = some (.list (shapes.map .record)) ∧
      Shapes records shapes ∧
      IsBatch records final (succeeded + soundCount records)
        (failed + (records.length - soundCount records)) ∧
      Fields.EqOutside ["success_count", "error_count", "transformed_records"] fields final := by
  have hstart : IsBatch ([] ++ records) fields succeeded failed := h
  obtain ⟨shapes, counted, hrun, hshapes, hbatch, hsame⟩ :=
    exists_transformFrom hstart htotal session
  rw [List.length_nil] at hrun
  have hwritten := (Fields.EqOutside.refl ["transformed_records"] counted).set
    (List.mem_singleton_self _) (.list (shapes.map .record))
  refine ⟨shapes, _, ?_, Fields.get?_set_self .., hshapes,
    hbatch.of_eqOutside hwritten (by decide), ?_⟩
  · simp only [transform, bind_apply, read_holding hraw, Value.members, liftM_ok, pure_apply, hrun,
      write_holding]
  · exact (hsame.mono (by simp)).trans (hwritten.mono (by simp))

private theorem exists_transform_fault (h : IsBatch records fields succeeded failed)
    (hraw : Fields.get? "raw_records" fields = some (.list (records.map textRecord)))
    (htotal : ¬∀ entries ∈ records, complaints entries = [] → HasTotal entries)
    (session : Session) :
    ∃ fault done, transform (session.holding fields) = .error fault done := by
  have hstart : IsBatch ([] ++ records) fields succeeded failed := h
  obtain ⟨fault, done, hrun⟩ := exists_transformFrom_fault hstart htotal session
  rw [List.length_nil] at hrun
  refine ⟨fault, done, ?_⟩
  simp only [transform, bind_apply, read_holding hraw, Value.members, liftM_ok, pure_apply, hrun]

end Batches

/-- A batch that has been validated is transformed exactly if each record without complaints that has a
price and a quantity has numerals there, and no quantity out of the range of doubles. -/
theorem transform_ok_iff_hasTotal (session : Session) {fields : Fields} {records : List Texts}
    {succeeded failed : Int}
    (hraw : Fields.get? "raw_records" fields = some (.list (records.map textRecord)))
    (hsucceeded : (Fields.get? "success_count" fields).bind Value.whole? = some succeeded)
    (hfailed : (Fields.get? "error_count" fields).bind Value.whole? = some failed) :
    (∃ done, (do validate; transform : Step Unit) (session.holding fields) = .ok () done) ↔
      ∀ entries ∈ records, complaints entries = [] → HasTotal entries := by
  have hbatch : IsBatch records (checked records fields) succeeded failed :=
    isBatch_checked hsucceeded hfailed
  have hkept : Fields.get? "raw_records" (checked records fields) =
      some (.list (records.map textRecord)) := by
    rw [checked, Fields.get?_set_of_ne _ (by decide), hraw]
  rw [bind_apply, validate_holding hraw]
  dsimp only
  constructor
  · rintro ⟨done, hdone⟩
    by_contra htotal
    obtain ⟨fault, stopped, hfault⟩ := exists_transform_fault hbatch hkept htotal session
    rw [hfault] at hdone
    cases hdone
  · intro htotal
    obtain ⟨shapes, final, hrun, -⟩ := exists_transform hbatch hkept htotal session
    exact ⟨_, hrun⟩

theorem succeeded_incoming (records : List Texts) :
    (Fields.get? "success_count" (incoming records)).bind Value.whole? = some 0 := rfl

theorem failed_incoming (records : List Texts) :
    (Fields.get? "error_count" (incoming records)).bind Value.whole? = some 0 := rfl

/-- A record with a price but no quantity, one with both, and one that has a complaint. -/
def priced : List Texts :=
  [[("price", "free")], [("price", "29.99"), ("quantity", "1_0")], [("id", ""), ("price", "free")]]

theorem transform_priced : ∃ done, (do validate; transform : Step Unit)
    (Session.holding { state := .null } (incoming priced)) = .ok () done := by
  refine (transform_ok_iff_hasTotal { state := .null } (raw_incoming priced)
    (succeeded_incoming priced) (failed_incoming priced)).2 ?_
  intro entries hmem _ price quantity hprice hquantity
  simp only [priced, List.mem_cons, List.not_mem_nil, or_false] at hmem
  obtain rfl | rfl | rfl := hmem
  · cases hquantity
  · cases hprice
    cases hquantity
    exact ⟨_, _, rfl, rfl, by decide +kernel⟩
  · cases hquantity

/-- A record that says `free` for its price. -/
def unpriced : List Texts := [[("product_id", "P1"), ("quantity", "1"), ("price", "free")]]

theorem transform_unpriced : unpriced.flatMap complaints = [] ∧
    ∃ done, (do validate; transform : Step Unit)
      (Session.holding { state := .null } (incoming unpriced)) =
        .error (.notADecimal "free") done :=
  ⟨rfl, _, rfl⟩

end Pipeline

end Workgraph
