import Workgraph.Proofs.Transformation
import Workgraph.Proofs.Walks

/-!
# Partition of a batch

Validation and transformation share nothing but positions: the first lists complaints by the position of their
record, the second leaves out each position that is listed. Together they part a batch: a record is listed
or it is brought into shape, in order, with all its fields, and it is counted on that side.
-/

namespace Workgraph

private theorem Fields.keys_prefix_set (key : String) (value : Value) (fields : Fields) :
    fields.map Prod.fst <+: (set key value fields).map Prod.fst := by
  induction fields with
  | nil => exact List.nil_prefix
  | cons entry rest ih =>
      rw [set_cons]
      split
      · exact List.prefix_refl _
      · exact (List.prefix_cons_inj entry.1).2 ih

namespace Pipeline

open Step

theorem mem_numbered_iff {start position : Nat} {problem : Problem} {records : List Texts} :
    (position, problem) ∈ numbered start records ↔
      ∃ i entries, position = start + i ∧ records[i]? = some entries ∧
        problem ∈ complaints entries := by
  induction records generalizing start with
  | nil => simp [numbered]
  | cons entries rest ih =>
      rw [numbered, List.mem_append, ih]
      constructor
      · rintro (hhere | ⟨i, later, rfl, hlater, hproblem⟩)
        · obtain ⟨found, hfound, heq⟩ := List.mem_map.1 hhere
          cases heq
          exact ⟨0, entries, rfl, rfl, hfound⟩
        · exact ⟨i + 1, later, by omega, hlater, hproblem⟩
      · rintro ⟨i, found, rfl, hfound, hproblem⟩
        cases i with
        | zero =>
            cases hfound
            exact .inl (List.mem_map.2 ⟨problem, hproblem, rfl⟩)
        | succ i => exact .inr ⟨i, found, by omega, hfound, hproblem⟩

private theorem pairwise_numbered (start : Nat) (records : List Texts) :
    ((numbered start records).map Prod.fst).Pairwise (· ≤ ·) := by
  induction records generalizing start with
  | nil => exact .nil
  | cons entries rest ih =>
      rw [numbered, List.map_append, List.pairwise_append]
      refine ⟨?_, ih (start + 1), ?_⟩
      · rw [List.map_map]
        exact List.pairwise_map.2 (List.pairwise_of_forall fun _ _ => Nat.le_refl start)
      · intro here hhere later hlater
        obtain ⟨problem, -, rfl⟩ := List.mem_map.1 (List.map_map ▸ hhere)
        obtain ⟨found, hfound, rfl⟩ := List.mem_map.1 hlater
        have hbounds := le_of_mem_numbered hfound
        dsimp only [Function.comp_apply]
        omega

/-- The records at the positions that the error list does not speak of. -/
def spared (errors : List (Nat × Problem)) (records : List Texts) : List Texts :=
  (records.zipIdx.filter fun placed => placed.2 ∉ errors.map Prod.fst).map Prod.fst

private theorem mem_positions_iff {position : Nat} {records : List Texts} {entries : Texts}
    (h : records[position]? = some entries) :
    position ∈ (numbered 0 records).map Prod.fst ↔ complaints entries ≠ [] := by
  rw [List.mem_map]
  constructor
  · rintro ⟨⟨place, problem⟩, hfound, rfl⟩
    obtain ⟨i, found, hplace, hrecord, hproblem⟩ := mem_numbered_iff.1 hfound
    rw [Nat.zero_add] at hplace
    subst hplace
    rw [hrecord] at h
    cases h
    exact List.ne_nil_of_mem hproblem
  · intro hfaulty
    obtain ⟨problem, hproblem⟩ := List.exists_mem_of_ne_nil _ hfaulty
    refine ⟨(position, problem), mem_numbered_iff.2 ?_, rfl⟩
    exact ⟨position, entries, (Nat.zero_add _).symm, h, hproblem⟩

private theorem spared_numbered (records : List Texts) : spared (numbered 0 records) records =
    records.filter fun entries => (complaints entries).isEmpty := by
  have hsame : records.zipIdx.filter (fun placed => placed.2 ∉ (numbered 0 records).map Prod.fst) =
      records.zipIdx.filter ((fun entries => (complaints entries).isEmpty) ∘ Prod.fst) := by
    apply List.filter_congr
    rintro ⟨entries, position⟩ hplaced
    have hentries : records[position]? = some entries := List.mk_mem_zipIdx_iff_getElem?.1 hplaced
    rw [Bool.eq_iff_iff, decide_eq_true_iff, mem_positions_iff hentries, not_not,
      Function.comp_apply, List.isEmpty_iff]
  rw [spared, hsame, ← List.filter_map, List.zipIdx_map_fst]

def changedNames : List String :=
  ["name", "email", "age", "age_group", "transaction_amount", "tier", "total_value"]

/-- The new record has the fields of the old one in their order and maybe more after them. Those that no change
is about have their values. -/
structure Grows (old new : Fields) : Prop where
  keys : old.map Prod.fst <+: new.map Prod.fst
  others : Fields.EqOutside changedNames old new

namespace Grows

variable {first second third : Fields}

theorem refl (fields : Fields) : Grows fields fields := ⟨List.prefix_refl _, .refl _ _⟩

theorem trans (h : Grows first second) (h' : Grows second third) : Grows first third :=
  ⟨h.keys.trans h'.keys, h.others.trans h'.others⟩

theorem set (h : Grows first second) {key : String} (hkey : key ∈ changedNames) (value : Value) :
    Grows first (Fields.set key value second) :=
  ⟨h.keys.trans (Fields.keys_prefix_set key value second), h.others.set hkey value⟩

end Grows

theorem bind_eq_ok {x : Except Fault α} {next : α → Except Fault β} {b : β}
    (h : (x >>= next) = .ok b) : ∃ a, x = .ok a ∧ next a = .ok b := by
  cases x with
  | error fault => cases h
  | ok a => exact ⟨a, rfl, h⟩

/-- What is computed, if anything, is a record that has grown from this one. -/
def GrownFrom (fields : Fields) (result : Except Fault Value) : Prop :=
  ∀ v, result = .ok v → ∃ new, v = .record new ∧ Grows fields new

theorem Grows.grownFrom {fields new : Fields} (h : Grows fields new) :
    GrownFrom fields (.ok (.record new)) := by
  intro v hv
  cases hv
  exact ⟨new, rfl, h⟩

theorem grownFrom_bind {fields : Fields} {x : Except Fault α} {next : α → Except Fault Value}
    (h : ∀ a, GrownFrom fields (next a)) : GrownFrom fields (x >>= next) := by
  intro v hrun
  obtain ⟨a, -, hnext⟩ := bind_eq_ok hrun
  exact h a v hnext

/-- The change, where it succeeds, lets a record grow. -/
def Enlarges (change : Change) : Prop := ∀ fields, GrownFrom fields (change (.record fields))

namespace Enlarges

variable {first second change : Change}

theorem bind (hfirst : Enlarges first) (hsecond : Enlarges second) :
    Enlarges fun r => first r >>= second := by
  intro fields v hrun
  obtain ⟨between, hbetween, hrun⟩ := bind_eq_ok hrun
  obtain ⟨middle, rfl, hgrown⟩ := hfirst fields between hbetween
  obtain ⟨new, rfl, hmore⟩ := hsecond middle v hrun
  exact ⟨new, rfl, hgrown.trans hmore⟩

theorem ifHas (h : Enlarges change) (key : String) : Enlarges (ifHas key change) := by
  intro fields
  apply grownFrom_bind
  intro found
  cases found with
  | true => exact h fields
  | false => exact (Grows.refl fields).grownFrom

end Enlarges

private theorem enlarges_copy : Enlarges Value.copy := fun fields => (Grows.refl fields).grownFrom

private theorem enlarges_normalizeName : Enlarges normalizeName := by
  intro fields
  apply grownFrom_bind; intro name
  apply grownFrom_bind; intro chars
  exact ((Grows.refl fields).set (by decide) _).grownFrom

private theorem enlarges_normalizeEmail : Enlarges normalizeEmail := by
  intro fields
  apply grownFrom_bind; intro email
  apply grownFrom_bind; intro chars
  exact ((Grows.refl fields).set (by decide) _).grownFrom

private theorem enlarges_convertAge : Enlarges convertAge := by
  intro fields
  apply grownFrom_bind; intro age
  apply grownFrom_bind; intro n
  exact (((Grows.refl fields).set (by decide) _).set (by decide) _).grownFrom

private theorem enlarges_convertAmount : Enlarges convertAmount := by
  intro fields
  apply grownFrom_bind; intro amount
  apply grownFrom_bind; intro x
  exact (((Grows.refl fields).set (by decide) _).set (by decide) _).grownFrom

private theorem enlarges_addTotalValue : Enlarges addTotalValue := by
  intro fields
  apply grownFrom_bind; intro price
  apply grownFrom_bind; intro x
  apply grownFrom_bind; intro quantity
  apply grownFrom_bind; intro n
  apply grownFrom_bind; intro total
  exact ((Grows.refl fields).set (by decide) _).grownFrom

private theorem enlarges_transformed : Enlarges transformed :=
  enlarges_copy.bind <| (enlarges_normalizeName.ifHas "name").bind <|
    (enlarges_normalizeEmail.ifHas "email").bind <| (enlarges_convertAge.ifHas "age").bind <|
    (enlarges_convertAmount.ifHas "transaction_amount").bind <|
    (enlarges_addTotalValue.ifHas "quantity").ifHas "price"

def HasCount (key : String) (state : Value) : Prop := ∃ n, state.field key = .ok (.int n)

theorem exists_fields_of_field {v w : Value} {key : String} (h : v.field key = .ok w) :
    ∃ fields, v = .record fields ∧ Fields.get? key fields = some w := by
  cases v with
  | record fields =>
      refine ⟨fields, rfl, ?_⟩
      cases hget : Fields.get? key fields <;> simp_all [Value.field]
  | _ => cases h

theorem increment_keeps_hasCount (key other : String) : (increment key).Keeps (HasCount other) := by
  rintro session ⟨n, hfield⟩
  by_cases hkey : key = other
  · subst hkey
    obtain ⟨fields, hstate, hget⟩ := exists_fields_of_field hfield
    have hwhole : (Fields.get? key fields).bind Value.whole? = some n := by
      rw [hget]
      rfl
    rw [Session.eq_holding hstate, leaves_of_ok (increment_holding hwhole session)]
    exact ⟨n + 1, (session.has_holding_set fields key (.int (n + 1))).field⟩
  · have hkeeps : (increment key).Keeps (·.field other = .ok (.int n)) :=
      (IsQuiet.read key).before fun _ => (IsQuiet.pure _).before fun _ =>
        (IsQuiet.lift _).before fun _ => Keeps.write_other hkey _ _
    exact ⟨n, hkeeps session hfield⟩

private theorem transformFrom_keeps_hasCount (key : String) (position : Nat) (records : List Value) :
    (transformFrom position records).Keeps (HasCount key) := by
  induction records generalizing position with
  | nil => exact (IsQuiet.pure []).keeps _
  | cons r rest ih =>
      refine (IsQuiet.read _).before fun _ => (IsQuiet.lift _).before fun _ => .ite ?_ ?_
      · exact (increment_keeps_hasCount _ key).bind fun _ => ih _
      · refine (IsQuiet.lift _).before fun _ => (increment_keeps_hasCount _ key).bind fun _ => ?_
        exact (ih _).bind fun _ => (IsQuiet.pure _).keeps _

private theorem transform_keeps_hasCount {key : String} (hkey : "transformed_records" ≠ key) :
    transform.Keeps (HasCount key) := by
  refine (IsQuiet.read _).before fun _ => (IsQuiet.lift _).before fun _ => ?_
  refine (transformFrom_keeps_hasCount key _ _).bind fun shapes => ?_
  rintro session ⟨n, hfield⟩
  exact ⟨n, Keeps.write_other hkey _ _ session hfield⟩

theorem count_of_transform {key : String} {fields final : Fields} {before after : Int}
    {session : Session} (hkey : "transformed_records" ≠ key)
    (hbefore : Fields.get? key fields = some (.int before))
    (hrun : transform (session.holding fields) = .ok () (session.holding final))
    (hafter : (Fields.get? key final).bind Value.whole? = some after) :
    Fields.get? key final = some (.int after) := by
  have hstart : (session.holding fields).Has key (.int before) :=
    Session.has_holding_iff.2 hbefore
  obtain ⟨n, hfield⟩ := transform_keeps_hasCount hkey _ ⟨before, hstart.field⟩
  rw [leaves_of_ok hrun] at hfield
  obtain ⟨held, hheld, hget⟩ := exists_fields_of_field hfield
  cases hheld
  rw [hget] at hafter ⊢
  cases hafter
  rfl

/-- The record is brought into shape, with all its fields. -/
structure IsShapeOf (entries : Texts) (shape : Fields) : Prop extends
    Grows (textFields entries) shape where
  made : transformed (textRecord entries) = .ok (.record shape)

/-- A batch that has been validated and transformed: what is wrong with its records is listed in their order,
the records that are not listed are brought into shape in their order, and all are counted. -/
structure IsParted (records : List Texts) (succeeded failed : Int) (errors : List (Nat × Problem))
    (shapes : List Fields) (final : Fields) : Prop where
  raw_kept : Fields.get? "raw_records" final = some (.list (records.map textRecord))
  errors_listed : Fields.get? "validation_errors" final =
    some (.list (errors.map fun found => errorEntry found.1 found.2))
  errors_complete : ∀ position problem, (position, problem) ∈ errors ↔
    ∃ entries, records[position]? = some entries ∧ problem ∈ complaints entries
  errors_ordered : (errors.map Prod.fst).Pairwise (· ≤ ·)
  shapes_listed : Fields.get? "transformed_records" final = some (.list (shapes.map .record))
  shapes_made : List.Forall₂ IsShapeOf (spared errors records) shapes
  success_count : Fields.get? "success_count" final = some (.int (succeeded + shapes.length))
  error_count : Fields.get? "error_count" final =
    some (.int (failed + (records.length - shapes.length)))

private theorem isShapeOf_of_transformed {entries : Texts} {shape : Fields}
    (h : transformed (textRecord entries) = .ok (.record shape)) : IsShapeOf entries shape := by
  obtain ⟨new, hnew, hgrows⟩ := enlarges_transformed (textFields entries) _ h
  cases hnew
  exact ⟨hgrows, h⟩

/-- Validation and transformation part every batch of text records in which none has both a price and a
quantity. -/
theorem transform_isParted (session : Session) {fields : Fields} {records : List Texts}
    {succeeded failed : Int}
    (hraw : Fields.get? "raw_records" fields = some (.list (records.map textRecord)))
    (hsucceeded : Fields.get? "success_count" fields = some (.int succeeded))
    (hfailed : Fields.get? "error_count" fields = some (.int failed))
    (hunpriced : ∀ entries ∈ records,
      entries.lookup "price" = none ∨ entries.lookup "quantity" = none) :
    ∃ errors shapes final,
      (do validate; transform : Step Unit) (session.holding fields) =
        .ok () (session.holding final) ∧
      IsParted records succeeded failed errors shapes final := by
  have hsame := (Fields.EqOutside.refl ["validation_errors"] fields).set (List.mem_singleton_self _)
    (.list (errorList records))
  have hbatch : IsBatch records (checked records fields) succeeded failed :=
    isBatch_checked (by rw [hsucceeded]; rfl) (by rw [hfailed]; rfl)
  have hlisted := (hsame "raw_records" (by decide)).trans hraw
  have htotal : ∀ entries ∈ records, complaints entries = [] → HasTotal entries :=
    fun entries hentries _ => hasTotal_of_unpriced (hunpriced entries hentries)
  obtain ⟨shapes, final, hrun, hshapes, hmade, hcounted, hkept⟩ :=
    exists_transform hbatch hlisted htotal session
  have hlength : soundCount records = shapes.length := by
    rw [soundCount, List.countP_eq_length_filter]
    exact hmade.length_eq
  rw [hlength] at hcounted
  refine ⟨numbered 0 records, shapes, final, ?_, ?_⟩
  · rw [bind_apply, validate_holding hraw]
    exact hrun
  · constructor
    · exact (hkept _ (by decide)).trans hlisted
    · exact hcounted.errors
    · intro position problem
      simp [mem_numbered_iff]
    · exact pairwise_numbered 0 records
    · exact hshapes
    · rw [spared_numbered]
      exact hmade.imp fun _ _ => isShapeOf_of_transformed
    · have hbefore := (hsame "success_count" (by decide)).trans hsucceeded
      exact count_of_transform (by decide) hbefore hrun hcounted.succeeded
    · have hbefore := (hsame "error_count" (by decide)).trans hfailed
      exact count_of_transform (by decide) hbefore hrun hcounted.failed

/-- A record with two mistakes, one with a price and an age, one with an address in capitals and an amount that
is no number but reads as one, and one without fields. -/
def motley : List Texts := [
  [("id", ""), ("age", "151")],
  [("name", "ann lee"), ("age", " 1_7 "), ("price", "free")],
  [("email", "A@B.C"), ("transaction_amount", "nan"), ("tier", "none")],
  []]

def counted (records : List Texts) (succeeded failed : Int) : Fields := [
  ("raw_records", .list (records.map textRecord)), ("success_count", .int succeeded),
  ("error_count", .int failed)]

theorem transform_motley : ∃ errors shapes final,
    (do validate; transform : Step Unit)
      (Session.holding { state := .null } (counted motley 5 (-2))) =
        .ok () (Session.holding { state := .null } final) ∧
    IsParted motley 5 (-2) errors shapes final :=
  transform_isParted { state := .null } rfl rfl rfl (by decide)

end Pipeline

end Workgraph
