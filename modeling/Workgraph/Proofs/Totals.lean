import Workgraph.Proofs.Transformation

/-!
# Totals of a batch

What the statistics at the end of a walk say about a batch. The counts of successes and errors grow in the
transformation only, so on the way around it no record is counted and the totals do not add up.
-/

namespace Workgraph.Pipeline

open Step

private theorem exists_errorCount (records : List Texts) (fields : Fields) :
    ∃ n, errorCount (.list (errorList records)) (.record fields) = .ok n := by
  have hentry (found : Nat × Problem) :
      (do return (← (errorEntry found.1 found.2).fieldOr "record" .null).same
            (← (Value.record fields).fieldOr "id" .null) : Except Fault Bool) =
        .ok ((Value.ofNat found.1).same ((Fields.get? "id" fields).getD .null)) := rfl
  have hanswers : (errorList records).mapM (fun entry =>
      (do return (← entry.fieldOr "record" .null).same
            (← (Value.record fields).fieldOr "id" .null) : Except Fault Bool)) =
      .ok ((numbered 0 records).map fun found =>
        (Value.ofNat found.1).same ((Fields.get? "id" fields).getD .null)) := by
    apply mapM_map_of_ok
    exact hentry
  simp only [errorCount, Value.members, ok_bind, hanswers]
  exact ⟨_, rfl⟩

section Nodes

variable {records : List Texts} {fields : Fields} {source destination : Value}

private theorem exists_enrichFrom_cons
    (herrors : Fields.get? "validation_errors" fields = some (.list (errorList records)))
    (hsource : Fields.get? "source_type" fields = some source) (done rest : List Value)
    (shape : Fields) (session : Session) : ∃ enriched,
      enrichFrom done (.record shape :: rest) (session.holding fields) =
        enrichFrom (done ++ [.record enriched]) rest (session.holding
          (Fields.set "transformed_records" (.list (done ++ .record enriched :: rest)) fields)) := by
  have hread (key : String) (hkey : "transformed_records" ≠ key) (items : List Value) :
      Fields.get? key (Fields.set "transformed_records" (.list items) fields) =
        Fields.get? key fields := Fields.get?_set_of_ne _ hkey _
  have hsource' (items : List Value) := (hread "source_type" (by decide) items).trans hsource
  have herrors' (items : List Value) := (hread "validation_errors" (by decide) items).trans herrors
  obtain ⟨errors, hcount⟩ := exists_errorCount records
    (Fields.set "source" source (Fields.set "processed_at" (.text session.supply.now.text) shape))
  simp only [enrichFrom, bind_apply, now_holding, Value.setField, liftM_ok, pure_apply, write_holding,
    read_holding (hsource' _), Fields.set_set, read_holding (herrors' _), hcount]
  exact ⟨_, rfl⟩

private theorem exists_enrichFrom
    (herrors : Fields.get? "validation_errors" fields = some (.list (errorList records)))
    (hsource : Fields.get? "source_type" fields = some source) {done : List Value}
    {shapes : List Fields}
    (hitems : Fields.get? "transformed_records" fields = some (.list (done ++ shapes.map .record)))
    (session : Session) : ∃ items final,
      enrichFrom done (shapes.map .record) (session.holding fields) =
        .ok () (session.holding final) ∧
      Fields.get? "transformed_records" final = some (.list items) ∧
      Fields.EqOutside ["transformed_records"] fields final := by
  induction shapes generalizing done fields with
  | nil => exact ⟨_, fields, rfl, hitems, .refl _ _⟩
  | cons shape rest ih =>
      obtain ⟨enriched, hstep⟩ :=
        exists_enrichFrom_cons herrors hsource done (rest.map .record) shape session
      have hsame := (Fields.EqOutside.refl ["transformed_records"] fields).set
        (List.mem_singleton_self _) (.list (done ++ .record enriched :: rest.map .record))
      have hitems' : Fields.get? "transformed_records" (Fields.set "transformed_records"
          (.list (done ++ .record enriched :: rest.map .record)) fields) =
          some (.list ((done ++ [.record enriched]) ++ rest.map .record)) := by
        rw [Fields.get?_set_self, List.append_cons]
      obtain ⟨items, final, hrun, hlist, hrest⟩ := ih ((hsame _ (by decide)).trans herrors)
        ((hsame _ (by decide)).trans hsource) hitems'
      exact ⟨items, final, by rw [List.map_cons, hstep, hrun], hlist, hsame.trans hrest⟩

private theorem exists_enrich
    (herrors : Fields.get? "validation_errors" fields = some (.list (errorList records)))
    (hsource : Fields.get? "source_type" fields = some source) {shapes : List Fields}
    (hitems : Fields.get? "transformed_records" fields = some (.list (shapes.map .record)))
    (session : Session) : ∃ items final,
      enrich (session.holding fields) = .ok () (session.holding final) ∧
      Fields.get? "transformed_records" final = some (.list items) ∧
      Fields.EqOutside ["transformed_records"] fields final := by
  have hstart : Fields.get? "transformed_records" fields =
      some (.list ([] ++ shapes.map .record)) := hitems
  obtain ⟨items, final, hrun, hlist, hsame⟩ := exists_enrichFrom herrors hsource hstart session
  refine ⟨items, final, ?_, hlist, hsame⟩
  simp only [enrich, bind_apply, read_holding hitems, Value.members, liftM_ok, pure_apply, hrun]

private theorem noteLoaded_holding {items : List Value}
    (hitems : Fields.get? "transformed_records" fields = some (.list items)) (verb place : String)
    (session : Session) : ∃ status, noteLoaded verb place (session.holding fields) =
      .ok () (session.holding (Fields.set "load_status" (.text status) fields)) := by
  simp only [noteLoaded, bind_apply, read_holding hitems, Value.size, liftM_ok, pure_apply,
    write_holding]
  exact ⟨_, rfl⟩

private theorem exists_load (hdestination : Fields.get? "destination_type" fields = some destination)
    {items : List Value} (hitems : Fields.get? "transformed_records" fields = some (.list items))
    (session : Session) : ∃ final,
      load (session.holding fields) = .ok () (session.holding final) ∧
      Fields.EqOutside ["load_status"] fields final := by
  have hnoted (verb place : String) : ∃ final,
      noteLoaded verb place (session.holding fields) = .ok () (session.holding final) ∧
      Fields.EqOutside ["load_status"] fields final := by
    obtain ⟨status, hstatus⟩ := noteLoaded_holding hitems verb place session
    exact ⟨_, hstatus, (Fields.EqOutside.refl _ _).set (List.mem_singleton_self _) _⟩
  simp only [load, bind_apply, read_holding hdestination]
  split
  · exact hnoted _ _
  · split
    · exact hnoted _ _
    · split
      · exact hnoted _ _
      · exact ⟨fields, rfl, .refl _ _⟩

/-- The statistics give these numbers of records. -/
structure Reports (stats : Fields) (total succeeded failed : Int) : Prop where
  total : (Fields.get? "total_records" stats).bind Value.whole? = some total
  succeeded : (Fields.get? "successful" stats).bind Value.whole? = some succeeded
  failed : (Fields.get? "failed" stats).bind Value.whole? = some failed

private theorem exists_percentage {v w : Value} {m n : Int} (hv : v.whole? = some m)
    (hw : w.whole? = some n) (hm : 0 ≤ m) (hn : 0 < n) (hle : m ≤ n) :
    ∃ x rate, v.divide w = .ok (.float x) ∧ (Value.float x).mul (.int 100) = .ok rate := by
  obtain ⟨x, hx⟩ := Number.exists_divide_of_le hm hn hle
  have hbound : (100 : Int).natAbs < Binary64.overflowBound := by decide +kernel
  obtain ⟨rate, hrate⟩ := (exists_mul_float_iff x 100).2 hbound
  refine ⟨x, rate, ?_, hrate⟩
  simp only [Value.divide, Value.number, Value.number?_of_whole? hv, Value.number?_of_whole? hw,
    ok_bind, hx]
  rfl

private theorem exists_successRate {total succeeded : Int}
    (hcount : (Fields.get? "record_count" fields).bind Value.whole? = some total)
    (hsucceeded : (Fields.get? "success_count" fields).bind Value.whole? = some succeeded)
    (hpositive : 0 ≤ succeeded) (hle : succeeded ≤ total) (session : Session) :
    ∃ rate, successRate (session.holding fields) = .ok rate (session.holding fields) := by
  obtain ⟨count, hwhole, hread⟩ := exists_read_whole hcount session
  obtain ⟨successes, hsuccesses, hreadSuccesses⟩ := exists_read_whole hsucceeded session
  simp only [successRate, bind_apply, hread, Value.greater_int hwhole, liftM_ok, pure_apply,
    decide_eq_true_eq]
  split
  · rename_i htotal
    obtain ⟨x, rate, hdivide, hmul⟩ := exists_percentage hsuccesses hwhole hpositive htotal hle
    simp only [bind_apply, hreadSuccesses, hread, hdivide, hmul, liftM_ok, pure_apply]
    exact ⟨rate, rfl⟩
  · exact ⟨.int 0, rfl⟩

private theorem exists_summarize {total succeeded failed : Int} (h : IsBatch records fields succeeded failed)
    (hcount : (Fields.get? "record_count" fields).bind Value.whole? = some total)
    (hpositive : 0 ≤ succeeded) (hle : succeeded ≤ total) (session : Session) :
    ∃ stats, summarize (session.holding fields) =
        .ok () (session.holding (Fields.set "pipeline_stats" (.record stats) fields)) ∧
      Reports stats total succeeded failed := by
  obtain ⟨count, hwhole, hread⟩ := exists_read_whole hcount session
  obtain ⟨successes, hsuccesses, hreadSuccesses⟩ := exists_read_whole h.succeeded session
  obtain ⟨failures, hfailures, hreadFailures⟩ := exists_read_whole h.failed session
  obtain ⟨rate, hrate⟩ := exists_successRate hcount h.succeeded hpositive hle session
  simp only [summarize, bind_apply, hread, hreadSuccesses, hreadFailures, hrate,
    read_holding h.errors, Value.size, liftM_ok, pure_apply, write_holding]
  exact ⟨_, rfl, ⟨hwhole, hsuccesses, hfailures⟩⟩

end Nodes

section Walks

variable {records : List Texts} {fields : Fields} {total succeeded failed : Int}

/-- The walk finishes and its statistics give these numbers. -/
def EndsWith (walk : Walk) (session : Session) (total succeeded failed : Int) : Prop :=
  ∃ final stats, walk.FinishesIn (session.holding final) ∧
    Fields.get? "pipeline_stats" final = some (.record stats) ∧
    Reports stats total succeeded failed

theorem endsWith_stats (h : IsBatch records fields succeeded failed)
    (hcount : (Fields.get? "record_count" fields).bind Value.whole? = some total)
    (hpositive : 0 ≤ succeeded) (hle : succeeded ≤ total) (limit : Nat) (session : Session) :
    EndsWith (workflow.walkFrom (limit + 1) "stats" (session.holding fields)) session
      total succeeded failed := by
  obtain ⟨stats, hrun, hreports⟩ := exists_summarize h hcount hpositive hle session
  refine ⟨_, stats, ?_, Fields.get?_set_self fields _ _, hreports⟩
  apply Workflow.finishesIn_of_edge (by decide) rfl hrun rfl rfl
  rw [Workflow.walkFrom_terminal]
  exact ⟨rfl, rfl⟩

private theorem endsWith_transform (h : IsBatch records fields 0 0)
    (hraw : Fields.get? "raw_records" fields = some (.list (records.map textRecord)))
    (hcount : (Fields.get? "record_count" fields).bind Value.whole? = some (records.length : Int))
    {source destination : Value} (hsource : Fields.get? "source_type" fields = some source)
    (hdestination : Fields.get? "destination_type" fields = some destination)
    (htotal : ∀ entries ∈ records, complaints entries = [] → HasTotal entries) (limit : Nat)
    (session : Session) :
    EndsWith (workflow.walkFrom (limit + 4) "transform" (session.holding fields)) session
      records.length (soundCount records) (records.length - soundCount records) := by
  obtain ⟨shapes, shaped, hshaped, hshapes, -, hbatch, hsame⟩ :=
    exists_transform h hraw htotal session
  obtain ⟨items, enriched, henriched, hitems, hgained⟩ := exists_enrich hbatch.errors
    ((hsame _ (by decide)).trans hsource) hshapes session
  have hplace := (hgained "destination_type" (by decide)).trans
    ((hsame _ (by decide)).trans hdestination)
  obtain ⟨loaded, hloaded, hnoted⟩ := exists_load hplace hitems session
  -- The counts are those of the transformation, since the two nodes after it write other fields.
  have hcounted := (hbatch.of_eqOutside hgained (by decide)).of_eqOutside hnoted (by decide)
  rw [Int.zero_add, Int.zero_add] at hcounted
  have hrecords : (Fields.get? "record_count" loaded).bind Value.whole? =
      some (records.length : Int) := by
    rw [hnoted _ (by decide), hgained _ (by decide), hsame _ (by decide), hcount]
  have hle : soundCount records ≤ records.length := List.countP_le_length
  obtain ⟨final, stats, hfinish, hstats⟩ :=
    endsWith_stats hcounted hrecords (by omega) (by omega) limit session
  refine ⟨final, stats, ?_, hstats⟩
  apply Workflow.finishesIn_of_edge (by decide) rfl hshaped rfl rfl
  apply Workflow.finishesIn_of_edge (by decide) rfl henriched rfl rfl
  exact Workflow.finishesIn_of_edge (by decide) rfl hloaded rfl rfl hfinish

/-- A batch of text records of which none has been counted. -/
structure IsUncounted (records : List Texts) (fields : Fields) : Prop where
  raw : Fields.get? "raw_records" fields = some (.list (records.map textRecord))
  count : (Fields.get? "record_count" fields).bind Value.whole? = some (records.length : Int)
  succeeded : (Fields.get? "success_count" fields).bind Value.whole? = some 0
  failed : (Fields.get? "error_count" fields).bind Value.whole? = some 0

theorem endsWith_of_skipped (h : IsUncounted records fields)
    (hskip : soundCount records ≤ surplus records) (limit : Nat) (session : Session) :
    EndsWith (workflow.walkFrom (limit + 2) "validate" (session.holding fields)) session
      records.length 0 0 := by
  have hroute := routeAfterValidation_checked h.count session
  rw [if_pos hskip] at hroute
  have hstatus := (Fields.EqOutside.refl ["load_status"] (checked records fields)).set
    (List.mem_singleton_self _) "FAILED: All records invalid"
  have hbatch : IsBatch records (givenUp (checked records fields)) 0 0 :=
    (isBatch_checked h.succeeded h.failed).of_eqOutside hstatus (by decide)
  have hcount : (Fields.get? "record_count" (givenUp (checked records fields))).bind
      Value.whole? = some (records.length : Int) := by
    rw [givenUp, hstatus _ (by decide), checked, Fields.get?_set_of_ne _ (by decide), h.count]
  obtain ⟨final, stats, hfinish, hstats⟩ :=
    endsWith_stats hbatch hcount (Int.le_refl 0) (Int.natCast_nonneg _) limit session
  exact ⟨final, stats, Workflow.finishesIn_of_branching (by decide) rfl
    (validate_holding h.raw session) rfl hroute rfl hfinish, hstats⟩

private theorem endsWith_of_not_skipped (h : IsUncounted records fields) {source destination : Value}
    (hsource : Fields.get? "source_type" fields = some source)
    (hdestination : Fields.get? "destination_type" fields = some destination)
    (htotal : ∀ entries ∈ records, complaints entries = [] → HasTotal entries)
    (hskip : ¬soundCount records ≤ surplus records) (limit : Nat) (session : Session) :
    EndsWith (workflow.walkFrom (limit + 5) "validate" (session.holding fields)) session
      records.length (soundCount records) (records.length - soundCount records) := by
  have hroute := routeAfterValidation_checked h.count session
  rw [if_neg hskip] at hroute
  have hsame := (Fields.EqOutside.refl ["validation_errors"] fields).set
    (List.mem_singleton_self _) (.list (errorList records))
  have hcount : (Fields.get? "record_count" (checked records fields)).bind Value.whole? =
      some (records.length : Int) := by
    rw [checked, hsame _ (by decide), h.count]
  obtain ⟨final, stats, hfinish, hstats⟩ := endsWith_transform
    (isBatch_checked h.succeeded h.failed) ((hsame _ (by decide)).trans h.raw) hcount
    ((hsame _ (by decide)).trans hsource) ((hsame _ (by decide)).trans hdestination) htotal limit
    session
  exact ⟨final, stats, Workflow.finishesIn_of_branching (by decide) rfl
    (validate_holding h.raw session) rfl hroute rfl hfinish, hstats⟩

end Walks

/-- A batch that is transformed is counted record by record. A batch that is skipped is not counted at
all, so the totals add up exactly for batches that are empty or not skipped. -/
theorem walkFrom_validate_counts_eq_iff (session : Session) (limit : Nat) {fields : Fields} {records : List Texts}
    {source destination : Value} (h : IsUncounted records fields)
    (hsource : Fields.get? "source_type" fields = some source)
    (hdestination : Fields.get? "destination_type" fields = some destination)
    (hpriced : ∀ entries ∈ records,
      entries.lookup "price" = none ∨ entries.lookup "quantity" = none) :
    ∃ succeeded failed : Int,
      EndsWith (workflow.walkFrom (limit + 5) "validate" (session.holding fields)) session
        records.length succeeded failed ∧
      (if soundCount records ≤ surplus records then succeeded = 0 ∧ failed = 0
        else succeeded = soundCount records ∧ failed = records.length - soundCount records) ∧
      ((records.length : Int) = succeeded + failed ↔
        records = [] ∨ surplus records < soundCount records) := by
  have htotal : ∀ entries ∈ records, complaints entries = [] → HasTotal entries :=
    fun entries hmem _ => hasTotal_of_unpriced (hpriced entries hmem)
  by_cases hskip : soundCount records ≤ surplus records
  · have hends := endsWith_of_skipped h hskip (limit + 3) session
    refine ⟨0, 0, hends, ?_, ?_⟩
    · rw [if_pos hskip]
      exact ⟨rfl, rfl⟩
    · rw [← List.length_eq_zero_iff]
      omega
  · have hends := endsWith_of_not_skipped h hsource hdestination htotal hskip limit session
    refine ⟨_, _, hends, ?_, ?_⟩
    · rw [if_neg hskip]
      exact ⟨rfl, rfl⟩
    · exact iff_of_true (by omega) (.inr (by omega))

theorem isUncounted_incoming (records : List Texts) : IsUncounted records (incoming records) :=
  ⟨raw_incoming records, count_incoming records, succeeded_incoming records, failed_incoming records⟩

theorem walkFrom_validate_mostlySound : EndsWith (workflow.walkFrom 5 "validate"
    (Session.holding { state := .null } (incoming mostlySound))) { state := .null } 3 2 1 := by
  obtain ⟨succeeded, failed, hends, hcounts, -⟩ := walkFrom_validate_counts_eq_iff { state := .null } 0
    (isUncounted_incoming mostlySound) rfl rfl (by decide)
  have hsound : soundCount mostlySound = 2 := by decide +kernel
  rw [hsound, if_neg (by decide +kernel)] at hcounts
  obtain ⟨rfl, rfl⟩ := hcounts
  exact hends

def nameless : List Texts := [[("id", "")]]

/-- The record has failed, but it is not among the failed ones. -/
theorem walkFrom_validate_nameless : EndsWith (workflow.walkFrom 5 "validate"
    (Session.holding { state := .null } (incoming nameless))) { state := .null } 1 0 0 :=
  endsWith_of_skipped (isUncounted_incoming nameless) (by decide) 3 { state := .null }

end Workgraph.Pipeline
