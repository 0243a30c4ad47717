import Workgraph.Proofs.Numbers
import Workgraph.Proofs.Texts

/-!
# Complaints about records

What the validation says about records of texts, and when it makes the pipeline skip a batch. The
router compares the number of complaints with the number of records, so a record with several mistakes
weighs as much as several records.
-/

namespace Workgraph.Pipeline

open Step

def idComplaint (id : String) : Option String := if id = "" then some "Missing ID" else none

def emailComplaint (email : String) : Option String :=
  if '@' ∈ email.toList ∧ '.' ∈ email.toList then none else some "Invalid email format"

def ageComplaint (age : String) : Option String :=
  match Numeral.readInt age with
  | .ok n => if 0 ≤ n ∧ n ≤ 150 then none else some "Age out of range"
  | .error _ => some "Age must be numeric"

def amountComplaint (amount : String) : Option String :=
  Numeral.decimalComplaint "Amount cannot be negative" "Amount must be numeric" amount

/-- What is wrong with a field of a record; a field that is missing is right. -/
def complaint (key : String) (wrong : String → Option String) (entries : Texts) :
    Option Problem :=
  ((entries.lookup key).bind wrong).map fun text => (key, text)

/-- What is wrong with a record of texts. -/
def complaints (entries : Texts) : List Problem :=
  (complaint "id" idComplaint entries).toList ++
    (complaint "email" emailComplaint entries).toList ++
    (complaint "age" ageComplaint entries).toList ++
    (complaint "transaction_amount" amountComplaint entries).toList

theorem checkField_textRecord {check : Value → Except Fault (List String)}
    {wrong : String → Option String} (hcheck : ∀ s, check (.text s) = .ok (wrong s).toList)
    (key : String) (entries : Texts) :
    checkField key (textRecord entries) check = .ok (complaint key wrong entries).toList := by
  unfold checkField has complaint
  rw [isIn_textRecord]
  cases hlookup : entries.lookup key with
  | none => rfl
  | some s =>
      simp only [Option.isSome_some, field_textRecord hlookup, bind, Except.bind, hcheck, if_true,
        Option.bind_some]
      cases wrong s <;> rfl

private theorem checkId_text (s : String) : checkId (.text s) = .ok (idComplaint s).toList := by
  simp only [checkId, idComplaint, Value.truthy]
  by_cases h : s = ""
  · simp [h]
  · simp [h]

private theorem checkEmail_text (s : String) : checkEmail (.text s) = .ok (emailComplaint s).toList := by
  have hin (c : Char) : (Value.text (String.ofList [c])).isIn (.text s) =
      .ok (decide (c ∈ s.toList)) := by
    simp only [Value.isIn, String.toList_ofList]
    congr 1
    rw [Bool.eq_iff_iff, Text.occurs_singleton_iff, decide_eq_true_iff]
  have hat : (Value.text "@").isIn (.text s) = .ok (decide ('@' ∈ s.toList)) := hin '@'
  have hdot : (Value.text ".").isIn (.text s) = .ok (decide ('.' ∈ s.toList)) := hin '.'
  simp only [checkEmail, hat, hdot, bind, Except.bind, emailComplaint]
  by_cases h : '@' ∈ s.toList
  · by_cases h' : '.' ∈ s.toList
    · simp [h, h', pure, Except.pure]
    · simp [h, h', pure, Except.pure]
  · simp [h, pure, Except.pure]

private theorem checkAge_text (s : String) : checkAge (.text s) = .ok (ageComplaint s).toList := by
  simp only [checkAge, ageComplaint, Value.toInt]
  cases hread : Numeral.readInt s with
  | error fault => simp [Numeral.isUnreadable_of_readInt hread]
  | ok n =>
      have hrange : (decide (n < 0) || decide (150 < n)) = true ↔ ¬(0 ≤ n ∧ n ≤ 150) := by
        simp
        omega
      simp only [hrange, ite_not]
      split <;> rfl

private theorem checkAmount_text (s : String) : checkAmount (.text s) = .ok (amountComplaint s).toList :=
  Numeral.decimal_check_eq _ _ s

private theorem problemsOf_textRecord (entries : Texts) :
    problemsOf (textRecord entries) = .ok (complaints entries) := by
  simp only [problemsOf, checkField_textRecord checkId_text, checkField_textRecord checkEmail_text,
    checkField_textRecord checkAge_text, checkField_textRecord checkAmount_text, bind, Except.bind,
    pure, Except.pure, complaints]

/-- The complaints about records, each with the position of its record; the first record stands at a
position. -/
def numbered (position : Nat) : List Texts → List (Nat × Problem)
  | [] => []
  | entries :: rest =>
    (complaints entries).map (fun problem => (position, problem)) ++ numbered (position + 1) rest

def errorList (records : List Texts) : List Value :=
  (numbered 0 records).map fun found => errorEntry found.1 found.2

private theorem errorsFrom_textRecords (position : Nat) (records : List Texts) :
    errorsFrom position (records.map textRecord) =
      .ok ((numbered position records).map fun found => errorEntry found.1 found.2) := by
  induction records generalizing position with
  | nil => rfl
  | cons entries rest ih =>
      simp only [List.map_cons, errorsFrom, problemsOf_textRecord, ih, bind, Except.bind, pure,
        Except.pure, numbered, List.map_append, List.map_map, Function.comp_def]

private theorem length_numbered (position : Nat) (records : List Texts) :
    (numbered position records).length = (records.flatMap complaints).length := by
  induction records generalizing position with
  | nil => rfl
  | cons entries rest ih => simp [numbered, ih]

private theorem numbered_append (position : Nat) (first second : List Texts) :
    numbered position (first ++ second) =
      numbered position first ++ numbered (position + first.length) second := by
  induction first generalizing position with
  | nil => rfl
  | cons entries rest ih =>
      rw [List.cons_append, numbered, numbered, ih, List.append_assoc, List.length_cons,
        Nat.add_assoc, Nat.add_comm 1]

theorem le_of_mem_numbered {position : Nat} {records : List Texts}
    {found : Nat × Problem} (h : found ∈ numbered position records) :
    position ≤ found.1 ∧ found.1 < position + records.length := by
  induction records generalizing position with
  | nil => cases h
  | cons entries rest ih =>
      rw [List.length_cons]
      rcases List.mem_append.1 h with hhere | hlater
      · obtain ⟨problem, -, rfl⟩ := List.mem_map.1 hhere
        exact ⟨Nat.le_refl _, by dsimp only; omega⟩
      · have hbounds := ih hlater
        omega

theorem any_numbered (before rest : List Texts)
    (entries : Texts) :
    (numbered 0 (before ++ entries :: rest)).any (fun found => decide (found.1 = before.length)) =
      !(complaints entries).isEmpty := by
  have hbefore : (numbered 0 before).any (fun found => decide (found.1 = before.length)) = false := by
    rw [List.any_eq_false]
    intro found hfound heq
    have hbounds := le_of_mem_numbered hfound
    have hposition := of_decide_eq_true heq
    omega
  have hrest : (numbered (before.length + 1) rest).any
      (fun found => decide (found.1 = before.length)) = false := by
    rw [List.any_eq_false]
    intro found hfound heq
    have hbounds := le_of_mem_numbered hfound
    have hposition := of_decide_eq_true heq
    omega
  rw [numbered_append, List.any_append, hbefore, Bool.false_or, Nat.zero_add, numbered,
    List.any_append, hrest, Bool.or_false, List.any_map]
  cases complaints entries <;> simp

theorem mentions_errorEntries (position : Nat) (found : List (Nat × Problem)) :
    mentions position (.list (found.map fun found => errorEntry found.1 found.2)) =
      .ok (found.any fun found => decide (found.1 = position)) := by
  have hentry (found : Nat × Problem) :
      (do return (← (errorEntry found.1 found.2).field "record").same (.ofNat position) :
        Except Fault Bool) = .ok (decide (found.1 = position)) := by
    have hfield : (errorEntry found.1 found.2).field "record" = .ok (.ofNat found.1) := rfl
    have hsame : (Value.ofNat found.1).same (.ofNat position) = decide (found.1 = position) := by
      rw [Value.ofNat, Value.ofNat, Value.same_of_whole? rfl rfl]
      exact decide_eq_decide.2 Int.ofNat_inj
    rw [hfield, ← hsame]
    rfl
  have hanswers : (found.map fun found => errorEntry found.1 found.2).mapM
      (fun entry => (do return (← entry.field "record").same (.ofNat position) :
        Except Fault Bool)) = .ok (found.map fun found => decide (found.1 = position)) := by
    apply mapM_map_of_ok
    exact hentry
  simp only [mentions, Value.members, ok_bind, hanswers]
  rw [List.any_map]
  rfl

/-- The number of records without a complaint. -/
def soundCount (records : List Texts) : Nat :=
  records.countP fun entries => (complaints entries).isEmpty

/-- The number of complaints beyond the first one about each record. -/
def surplus (records : List Texts) : Nat :=
  (records.flatMap fun entries => (complaints entries).drop 1).length

private theorem length_complaints_add_soundCount (records : List Texts) :
    (records.flatMap complaints).length + soundCount records = surplus records + records.length := by
  induction records with
  | nil => rfl
  | cons entries rest ih =>
      unfold soundCount surplus at ih ⊢
      simp only [List.flatMap_cons, List.length_append, List.countP_cons, List.length_cons,
        List.length_drop]
      cases complaints entries with
      | nil =>
          simp only [List.isEmpty_nil, if_true, List.length_nil]
          omega
      | cons first others =>
          simp only [List.isEmpty_cons, Bool.false_eq_true, if_false, List.length_cons]
          omega

private theorem soundCount_eq_zero_iff {records : List Texts} :
    soundCount records = 0 ↔ ∀ entries ∈ records, complaints entries ≠ [] := by
  simp [soundCount, List.countP_eq_zero]

def checked (records : List Texts) (fields : Fields) : Fields :=
  Fields.set "validation_errors" (.list (errorList records)) fields

def givenUp (fields : Fields) : Fields :=
  Fields.set "load_status" "FAILED: All records invalid" fields

section Skipping

variable {fields : Fields} {records : List Texts}

theorem validate_holding
    (hraw : Fields.get? "raw_records" fields = some (.list (records.map textRecord)))
    (session : Session) :
    validate (session.holding fields) = .ok () (session.holding (checked records fields)) := by
  simp only [validate, bind_apply, read_holding hraw, Value.members, errorsFrom_textRecords, liftM_ok,
    pure_apply, write_holding, checked, errorList]

/-- The router counts complaints against records. The complaints beyond the first one about a record
can make up for records without any. -/
theorem routeAfterValidation_checked
    (hcount : (Fields.get? "record_count" fields).bind Value.whole? = some (records.length : Int))
    (session : Session) : routeAfterValidation (session.holding (checked records fields)) =
      if soundCount records ≤ surplus records then
        .ok (.text "stats") (session.holding (givenUp (checked records fields)))
      else .ok (.text "transform") (session.holding (checked records fields)) := by
  have herrors : Fields.get? "validation_errors" (checked records fields) =
      some (.list (errorList records)) := Fields.get?_set_self ..
  have hkept : (Fields.get? "record_count" (checked records fields)).bind Value.whole? =
      some (records.length : Int) := by
    rw [checked, Fields.get?_set_of_ne _ (by decide), hcount]
  obtain ⟨v, hwhole, hread⟩ := exists_read_whole hkept session
  have hatLeast : (Value.ofNat (errorList records).length).atLeast v =
      .ok (decide ((records.length : Int) ≤ (errorList records).length)) :=
    Value.atMost_of_whole? hwhole rfl
  have hskips : (records.length : Int) ≤ (errorList records).length ↔
      soundCount records ≤ surplus records := by
    have hcounts := length_complaints_add_soundCount records
    have hlength : (errorList records).length = (records.flatMap complaints).length := by
      rw [errorList, List.length_map, length_numbered]
    omega
  simp only [routeAfterValidation, bind_apply, read_holding herrors, Value.size, liftM_ok, pure_apply,
    hread, hatLeast, hskips, decide_eq_true_eq]
  split <;> rfl

end Skipping

/-- A batch is skipped when the complaints beyond the first one about a record make up for the sound
records. So it is skipped for being wrong throughout exactly if no record is sound or the sound
ones outnumber those further complaints. -/
theorem routeAfterValidation_eq_stats_iff (session : Session) {fields : Fields} {records : List Texts}
    (hraw : Fields.get? "raw_records" fields = some (.list (records.map textRecord)))
    (hcount : (Fields.get? "record_count" fields).bind Value.whole? = some (records.length : Int)) :
    ∃ answer final, (do validate; routeAfterValidation : Step Value) (session.holding fields) =
        .ok (.text answer) (session.holding final) ∧
      Fields.get? "validation_errors" final = some (.list (errorList records)) ∧
      (answer = "stats" ∧
          Fields.get? "load_status" final = some (.text "FAILED: All records invalid") ∨
        answer = "transform" ∧
          Fields.get? "load_status" final = Fields.get? "load_status" fields) ∧
      (answer = "stats" ↔ soundCount records ≤ surplus records) ∧
      ((answer = "stats" ↔ ∀ entries ∈ records, complaints entries ≠ []) ↔
        soundCount records = 0 ∨ surplus records < soundCount records) := by
  have hroute := routeAfterValidation_checked hcount session
  rw [bind_apply, validate_holding hraw]
  simp only [hroute, ← soundCount_eq_zero_iff]
  split <;> rename_i hskip
  · refine ⟨"stats", _, rfl, ?_, .inl ⟨rfl, ?_⟩, ?_, ?_⟩
    · simp [givenUp, checked, Fields.get?_set]
    · exact Fields.get?_set_self ..
    · exact iff_of_true rfl hskip
    · rw [iff_true_left rfl]
      omega
  · refine ⟨"transform", _, rfl, Fields.get?_set_self .., .inr ⟨rfl, ?_⟩, ?_, ?_⟩
    · exact Fields.get?_set_of_ne _ (by decide) _
    · exact iff_of_false (by decide) hskip
    · have hanswer : ¬"transform" = "stats" := by decide
      rw [iff_false_left hanswer]
      omega

def incoming (records : List Texts) : Fields := [
  ("source_type", "file"), ("raw_records", .list (records.map textRecord)),
  ("record_count", .int records.length), ("success_count", .int 0), ("error_count", .int 0),
  ("destination_type", "database"), ("load_status", "")]

theorem raw_incoming (records : List Texts) :
    Fields.get? "raw_records" (incoming records) = some (.list (records.map textRecord)) := rfl

theorem count_incoming (records : List Texts) :
    (Fields.get? "record_count" (incoming records)).bind Value.whole? =
      some (records.length : Int) := rfl

/-- One record with two mistakes and two records without any. -/
def mostlySound : List Texts := [[("id", ""), ("email", "nobody")], [("id", "2"), ("age", "30")], []]

theorem routeAfterValidation_mostlySound : ∃ final, (do validate; routeAfterValidation : Step Value)
    (Session.holding { state := .null } (incoming mostlySound)) =
      .ok (.text "transform") (Session.holding { state := .null } final) := by
  obtain ⟨answer, final, hrun, -, hanswer, hskips, -⟩ :=
    routeAfterValidation_eq_stats_iff { state := .null } (raw_incoming mostlySound) (count_incoming mostlySound)
  obtain ⟨hstats, -⟩ | ⟨rfl, -⟩ := hanswer
  · exact absurd (hskips.1 hstats) (by decide +kernel)
  · exact ⟨final, hrun⟩

/-- The second record is sound, but the first one has as many mistakes as there are records. -/
def halfSound : List Texts := [[("id", ""), ("email", "nobody")], [("id", "2")]]

theorem routeAfterValidation_halfSound : (∃ final, (do validate; routeAfterValidation : Step Value)
    (Session.holding { state := .null } (incoming halfSound)) =
      .ok (.text "stats") (Session.holding { state := .null } final)) ∧
    ¬∀ entries ∈ halfSound, complaints entries ≠ [] := by
  have hroute := routeAfterValidation_checked (count_incoming halfSound) { state := .null }
  rw [if_pos (by decide)] at hroute
  rw [bind_apply, validate_holding (raw_incoming halfSound)]
  exact ⟨⟨_, hroute⟩, by decide⟩

end Workgraph.Pipeline
