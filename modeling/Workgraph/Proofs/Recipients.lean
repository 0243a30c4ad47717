import Mathlib.Data.List.Forall2
import Mathlib.Tactic.IntervalCases
import Workgraph.Proofs.Rendering
import Workgraph.Proofs.Texts
import Workgraph.Workflows.Campaign

/-!
# Recipients of a campaign

What becomes of the recipients from the check of their addresses to the report on the mails. Each of them is
looked at alone, by the place in the list or by a random number, and none gets lost: those who are welcome
stay in their order, take the subject lines in turn, and are counted as sent or as failed.
-/

namespace Workgraph

namespace Fields

theorem filter_set {names : List String} {key : String} (hkey : key ∈ names) (fields : Fields)
    (value : Value) :
    (set key value fields).filter (·.1 ∉ names) = fields.filter (·.1 ∉ names) := by
  induction fields with
  | nil => simp [set, hkey]
  | cons entry rest ih =>
      rw [set_cons]
      split <;> rename_i hentry
      · simp [hentry, hkey]
      · simp only [List.filter_cons, ih]

end Fields

namespace Step

private theorem filterM_map_of_ok {f : α → β} {p : β → Step Bool} {q : α → Bool} {session : Session}
    (h : ∀ x, p (f x) session = .ok (q x) session) (xs : List α) :
    (xs.map f).filterM p session = .ok ((xs.filter q).map f) session := by
  have haux (seen : List β) :
      (xs.map f).filterAuxM p seen session = .ok (((xs.filter q).map f).reverse ++ seen) session := by
    induction xs generalizing seen with
    | nil => rfl
    | cons x rest ih =>
        rw [List.map_cons, List.filterAuxM, bind_apply, h]
        simp only [ih]
        cases hx : q x <;> simp [hx]
  rw [List.filterM, bind_apply, haux]
  simp [pure_apply]

end Step

namespace Campaign

open Step

section Changes

variable {value : α → Value} {change : Nat → Value → Except Fault Value} {changed : Nat → α → Value}

private theorem changeFrom_holding (h : ∀ position x, change position (value x) = .ok (changed position x))
    (session : Session) (xs : List α) {done : List Value} {fields : Fields}
    (hlist : Fields.get? "recipients" fields = some (.list (done ++ xs.map value))) :
    changeFrom change done (xs.map value) (session.holding fields) =
      .ok () (session.holding (Fields.set "recipients"
        (.list (done ++ xs.mapIdx fun i => changed (done.length + i))) fields)) := by
  induction xs generalizing done fields with
  | nil =>
      rw [List.map_nil] at hlist
      rw [List.mapIdx_nil, Fields.set_of_get? hlist]
      rfl
  | cons x rest ih =>
      have hnext : Fields.get? "recipients"
          (Fields.set "recipients" (.list (done ++ changed done.length x :: rest.map value)) fields) =
          some (.list ((done ++ [changed done.length x]) ++ rest.map value)) := by
        rw [Fields.get?_set_self, List.append_assoc, List.singleton_append]
      simp only [List.map_cons, changeFrom, bind_apply, h, liftM_ok, pure_apply, write_holding, ih hnext,
        Fields.set_set, List.mapIdx_cons, List.length_append, List.length_singleton, List.append_assoc,
        List.singleton_append, Nat.add_zero, Nat.add_assoc, Nat.add_comm 1]

theorem changeRecipients_holding
    (h : ∀ position x, change position (value x) = .ok (changed position x)) (session : Session)
    {xs : List α} {fields : Fields}
    (hlist : Fields.get? "recipients" fields = some (.list (xs.map value))) :
    changeRecipients change (session.holding fields) =
      .ok () (session.holding (Fields.set "recipients" (.list (xs.mapIdx changed)) fields)) := by
  simp only [changeRecipients, bind_apply, read_holding hlist, Value.members, liftM_ok, pure_apply]
  rw [changeFrom_holding h session xs hlist]
  simp only [List.length_nil, Nat.zero_add, List.nil_append]

end Changes

/-- A recipient whose address is a text. -/
structure Recipient where
  record : Fields
  email : String
  email_eq : Fields.get? "email" record = some (.text email)

namespace Recipient

def value (recipient : Recipient) : Value := .record recipient.record

/-- The address has the marks of an address and is not known to bounce, and the recipient is subscribed. -/
def IsWelcome (recipient : Recipient) : Prop :=
  '@' ∈ recipient.email.toList ∧ '.' ∈ recipient.email.toList ∧
    ¬"bounced".toList <:+: recipient.email.toList ∧
    (Fields.get? "subscribed" recipient.record).any Value.truthy = true

instance (recipient : Recipient) : Decidable recipient.IsWelcome :=
  inferInstanceAs (Decidable (_ ∧ _ ∧ _ ∧ _))

private theorem isReachable_value (recipient : Recipient) :
    isReachable recipient.value = .ok (decide recipient.IsWelcome) := by
  have hmark (c : Char) : Text.occurs [c] recipient.email.toList = decide (c ∈ recipient.email.toList) := by
    rw [Bool.eq_iff_iff, Text.occurs_singleton_iff, decide_eq_true_iff]
  have hbounced : Text.occurs "bounced".toList recipient.email.toList =
      decide ("bounced".toList <:+: recipient.email.toList) := by
    rw [Bool.eq_iff_iff, Text.occurs_iff_infix, decide_eq_true_iff]
  have hsubscribed : ((Fields.get? "subscribed" recipient.record).getD (.bool false)).truthy =
      (Fields.get? "subscribed" recipient.record).any Value.truthy := by
    cases Fields.get? "subscribed" recipient.record <;> rfl
  simp only [isReachable, value, Value.fieldOr, recipient.email_eq, Option.getD_some, ok_bind, Value.isIn,
    show "@".toList = ['@'] from rfl, show ".".toList = ['.'] from rfl, hmark, hbounced, hsubscribed]
  by_cases hat : '@' ∈ recipient.email.toList
  · by_cases hdot : '.' ∈ recipient.email.toList
    · cases hasked : (Fields.get? "subscribed" recipient.record).any Value.truthy <;>
        simp [IsWelcome, hat, hdot, hasked] <;> rfl
    · simp [IsWelcome, hdot]
      rfl
  · simp [IsWelcome, hat]
    rfl

private theorem validateRecipients_holding (session : Session) {recipients : List Recipient} {fields : Fields}
    (hlist : Fields.get? "recipients" fields = some (.list (recipients.map value))) :
    validateRecipients (session.holding fields) = .ok () (session.holding (Fields.set "recipients"
      (.list ((recipients.filter IsWelcome).map value)) fields)) := by
  have hreachable (recipient : Recipient) :
      (liftM (isReachable recipient.value) : Step Bool) (session.holding fields) =
        .ok (decide recipient.IsWelcome) (session.holding fields) := by
    rw [isReachable_value]
    rfl
  have hwelcome := filterM_map_of_ok (p := fun recipient => liftM (isReachable recipient)) hreachable recipients
  simp only [validateRecipients, bind_apply, read_holding hlist, Value.members, liftM_ok, pure_apply, hwelcome,
    write_holding]

end Recipient

def trialKeys : List String := ["subject_variant", "variant_name"]

/-- The subject lines on trial under their names. -/
def namedVariants (subject : Value) : List (String × Value) := [
  ("variant_A", subject),
  ("variant_B", .text (subject.display ++ " 🎁")),
  ("variant_C", .text ("URGENT: " ++ subject.display))]

def variants (subject : Value) : List Value := (namedVariants subject).map Prod.snd

private theorem subjectVariants_of_isWritable {subject : Value} (h : subject.isWritable = true) :
    subjectVariants subject = .ok (variants subject) := by
  rw [subjectVariants, Value.render_of_isWritable h]
  rfl

/-- The recipient at a place with a subject line and its name. -/
def assigned (subject : Value) (position : Nat) (recipient : Recipient) : Fields :=
  Fields.set "variant_name" (variantName (position % 3))
    (Fields.set "subject_variant" ((variants subject).getD (position % 3) .null) recipient.record)

private theorem assignSubject_value (subject : Value) (position : Nat) (recipient : Recipient) :
    assignSubject (variants subject) position recipient.value =
      .ok (.record (assigned subject position recipient)) := rfl

private theorem filter_assigned (subject : Value) (position : Nat) (recipient : Recipient) :
    (assigned subject position recipient).filter (·.1 ∉ trialKeys) =
      recipient.record.filter (·.1 ∉ trialKeys) := by
  rw [assigned, Fields.filter_set (by decide), Fields.filter_set (by decide)]

private theorem mem_namedVariants {index : Nat} (h : index < 3) (subject : Value) :
    (variantName index, (variants subject).getD index .null) ∈ namedVariants subject := by
  interval_cases index
  · exact List.mem_cons_self
  · exact List.mem_cons_of_mem _ List.mem_cons_self
  · exact List.mem_cons_of_mem _ (List.mem_cons_of_mem _ List.mem_cons_self)

def isInGroup (name : String) (recipient : Fields) : Bool :=
  match Fields.get? "variant_name" recipient with
  | some (.text s) => s == name
  | _ => false

private theorem isInGroup_assigned {index : Nat} (h : index < 3) (subject : Value) (position : Nat)
    (recipient : Recipient) : isInGroup (variantName index) (assigned subject position recipient) =
      decide (position % 3 = index) := by
  have hposition : position % 3 < 3 := Nat.mod_lt _ (by decide)
  rw [isInGroup, assigned, Fields.get?_set_self]
  generalize position % 3 = other at hposition ⊢
  interval_cases index <;> interval_cases other <;> decide

private theorem countP_range_mod {index : Nat} (h : index < 3) (n : Nat) :
    (List.range n).countP (· % 3 = index) = (n + 2 - index) / 3 := by
  induction n with
  | zero =>
      rw [List.range_zero, List.countP_nil]
      omega
  | succ n ih =>
      rw [List.range_succ, List.countP_append, ih, List.countP_singleton]
      split <;> rename_i hn
      · have := of_decide_eq_true hn
        omega
      · have := of_decide_eq_false (Bool.eq_false_iff.2 hn)
        omega

theorem countP_assigned {index : Nat} (h : index < 3) (subject : Value) (recipients : List Recipient) :
    (recipients.mapIdx (assigned subject)).countP (isInGroup (variantName index)) =
      (recipients.length + 2 - index) / 3 := by
  rw [List.mapIdx_eq_zipIdx_map, List.countP_map, ← countP_range_mod h, List.range_eq_range',
    ← List.zipIdx_map_snd 0 recipients, List.countP_map]
  congr 1
  funext placed
  exact isInGroup_assigned h subject placed.2 placed.1

/-- The state of a campaign in which these recipients try the subject lines. -/
def onTrial (subject : Value) (recipients : List Recipient) (fields : Fields) : Fields :=
  Fields.set "recipients" (.list ((recipients.mapIdx (assigned subject)).map .record))
    (Fields.set "ab_variants" (.list (variants subject)) fields)

private theorem trySubjects_holding (session : Session) {recipients : List Recipient} {subject : Value}
    {fields : Fields} (htest : Fields.get? "ab_test_enabled" fields = some (.bool true))
    (hsubject : Fields.get? "subject_line" fields = some subject) (hwritable : subject.isWritable = true)
    (hlist : Fields.get? "recipients" fields = some (.list (recipients.map Recipient.value))) :
    trySubjects (session.holding fields) =
      .ok () (session.holding (onTrial subject recipients fields)) := by
  have hkept : Fields.get? "recipients" (Fields.set "ab_variants" (.list (variants subject)) fields) =
      some (.list (recipients.map Recipient.value)) := by
    rw [Fields.get?_set_of_ne _ (by decide)]
    exact hlist
  have hrecords : recipients.mapIdx (fun position recipient =>
      Value.record (assigned subject position recipient)) =
        (recipients.mapIdx (assigned subject)).map .record := by
    simp [List.mapIdx_eq_zipIdx_map]
  simp only [trySubjects, bind_apply, isSet_of_read (read_holding htest session), Value.truthy, if_true,
    read_holding hsubject, subjectVariants_of_isWritable hwritable, liftM_ok, pure_apply, write_holding,
    changeRecipients_holding (assignSubject_value subject) session hkept,
    hrecords, onTrial]

private theorem trySubjects_of_not_isWritable (session : Session) {subject : Value} {fields : Fields}
    (htest : Fields.get? "ab_test_enabled" fields = some (.bool true))
    (hsubject : Fields.get? "subject_line" fields = some subject) (hlong : subject.isWritable = false) :
    trySubjects (session.holding fields) = .error (.tooManyDigits none) (session.holding fields) := by
  have hvariants : subjectVariants subject = .error (.tooManyDigits none) := by
    rw [subjectVariants, Value.render_of_not_isWritable hlong]
    rfl
  simp only [trySubjects, bind_apply, isSet_of_read (read_holding htest session), Value.truthy, if_true,
    read_holding hsubject, hvariants, liftM_error]

/-- How many of so many mails fail. Where random numbers are missing a mail does not fail. -/
def failures (randoms : List Float) (mails : Nat) : Nat := (randoms.take mails).countP (0.95 < ·)

/-- The session after so many random numbers have been drawn. -/
def drawn (session : Session) (count : Nat) : Session :=
  { session with supply := { session.supply with randoms := session.supply.randoms.drop count } }

private theorem failures_succ (randoms : List Float) (mails : Nat) : failures randoms (mails + 1) =
    failures (randoms.drop 1) mails + if 0.95 < randoms.headD 0 then 1 else 0 := by
  cases randoms with
  | nil =>
      have hzero : ¬(0.95 : Float) < 0 := by decide +kernel
      simp [failures, hzero]
  | cons x rest => simp [failures, List.countP_cons]

private theorem drawRandom_holding (session : Session) (fields : Fields) :
    drawRandom (session.holding fields) =
      .ok (session.supply.randoms.headD 0) ((drawn session 1).holding fields) := by
  rw [drawn, List.drop_one]
  rfl

theorem drawn_drawn (session : Session) (first second : Nat) :
    drawn (drawn session first) second = drawn session (first + second) := by
  simp [drawn]

private theorem exists_sendFrom (records : List Fields) (sent failed : Nat) (session : Session)
    (fields : Fields) : ∃ successes,
      sendFrom sent failed (records.map .record) (session.holding fields) =
        .ok (sent + successes, failed + failures session.supply.randoms records.length)
          ((drawn session records.length).holding fields) ∧
      successes + failures session.supply.randoms records.length = records.length := by
  induction records generalizing sent failed session with
  | nil => exact ⟨0, rfl, rfl⟩
  | cons record rest ih =>
      have hcount := failures_succ session.supply.randoms rest.length
      have hrest : failures (drawn session 1).supply.randoms rest.length =
        failures (session.supply.randoms.drop 1) rest.length := rfl
      simp only [List.map_cons, sendFrom, bind_apply, Value.fieldOr, liftM_ok, pure_apply, drawRandom_holding,
        List.length_cons, gt_iff_lt]
      split at hcount <;> rename_i hdraw
      · obtain ⟨successes, hsend, htotal⟩ := ih sent (failed + 1) (drawn session 1)
        refine ⟨successes, ?_, by omega⟩
        rw [if_pos hdraw, hsend, drawn_drawn, hcount, hrest, Nat.add_comm 1, Nat.add_assoc,
          Nat.add_comm 1]
      · obtain ⟨successes, hsend, htotal⟩ := ih (sent + 1) failed (drawn session 1)
        have hsame : failures session.supply.randoms (rest.length + 1) =
          failures (session.supply.randoms.drop 1) rest.length := hcount
        refine ⟨successes + 1, ?_, by omega⟩
        rw [if_neg hdraw, hsend, drawn_drawn, hsame, hrest, Nat.add_comm 1, Nat.add_assoc,
          Nat.add_comm 1]

private theorem exists_send (session : Session) {records : List Fields} {fields : Fields}
    (hlist : Fields.get? "recipients" fields = some (.list (records.map .record))) :
    ∃ sent, send (session.holding fields) = .ok () ((drawn session records.length).holding
        (Fields.set "delivery_status"
          (deliveryStatus sent (failures session.supply.randoms records.length)) fields)) ∧
      sent + failures session.supply.randoms records.length = records.length := by
  obtain ⟨sent, hsend, htotal⟩ := exists_sendFrom records 0 0 session fields
  refine ⟨sent, ?_, htotal⟩
  simp only [send, bind_apply, read_holding hlist, Value.members, liftM_ok, pure_apply, hsend, Nat.zero_add,
    write_holding]

private theorem trackEngagement_holding (session : Session) {fields : Fields} {sent failed : Nat}
    (hstatus : Fields.get? "delivery_status" fields = some (deliveryStatus sent failed)) :
    trackEngagement (session.holding fields) = .ok () (session.holding (Fields.set "engagement_metrics"
      (.record [("delivered", .ofNat sent), ("opened", .int 0), ("clicked", .int 0),
        ("unsubscribed", .int 0)]) fields)) := by
  have hsent : (deliveryStatus sent failed).field "sent" = .ok (.ofNat sent) := rfl
  simp only [trackEngagement, bind_apply, read_holding hstatus, hsent, liftM_ok, pure_apply, write_holding]

/-- A campaign whose mails have been sent. Of the recipients those who are welcome are left, as they were except
for the fields of the trial. Each of them has one of the three subject lines with its name, the groups of the
three names are as even as can be, and every mail is counted once. -/
structure IsAccounted (recipients : List Recipient) (subject : Value) (mailed : List Fields)
    (sent failed : Nat) (final : Fields) : Prop where
  listed : Fields.get? "recipients" final = some (.list (mailed.map .record))
  welcome : List.Forall₂ (fun (recipient : Recipient) record =>
      record.filter (·.1 ∉ trialKeys) = recipient.record.filter (·.1 ∉ trialKeys))
    (recipients.filter Recipient.IsWelcome) mailed
  variants : Fields.get? "ab_variants" final = some (.list ((namedVariants subject).map Prod.snd))
  named : ∀ record ∈ mailed, ∃ variant ∈ namedVariants subject,
    Fields.get? "variant_name" record = some (.text variant.1) ∧
      Fields.get? "subject_variant" record = some variant.2
  even : ∀ variant ∈ namedVariants subject, ∀ other ∈ namedVariants subject,
    mailed.countP (isInGroup variant.1) ≤ mailed.countP (isInGroup other.1) + 1
  status : Fields.get? "delivery_status" final = some (.record
    [("sent", .int sent), ("failed", .int failed), ("bounced", .int 0)])
  counted : sent + failed = (recipients.filter Recipient.IsWelcome).length
  metrics : Fields.get? "engagement_metrics" final = some (.record
    [("delivered", .int sent), ("opened", .int 0), ("clicked", .int 0), ("unsubscribed", .int 0)])

private theorem forall₂_assigned (subject : Value) (recipients : List Recipient) :
    List.Forall₂ (fun (recipient : Recipient) record =>
        record.filter (·.1 ∉ trialKeys) = recipient.record.filter (·.1 ∉ trialKeys))
      recipients (recipients.mapIdx (assigned subject)) := by
  rw [List.forall₂_iff_get]
  refine ⟨by rw [List.length_mapIdx], fun i _ _ => ?_⟩
  simp only [List.get_eq_getElem, List.getElem_mapIdx]
  exact filter_assigned subject i _

private theorem exists_mem_namedVariants {subject : Value} {recipients : List Recipient} {record : Fields}
    (h : record ∈ recipients.mapIdx (assigned subject)) : ∃ variant ∈ namedVariants subject,
      Fields.get? "variant_name" record = some (.text variant.1) ∧
        Fields.get? "subject_variant" record = some variant.2 := by
  obtain ⟨position, hposition, rfl⟩ := List.mem_mapIdx.1 h
  refine ⟨_, mem_namedVariants (Nat.mod_lt position (by decide)) subject, ?_, ?_⟩
  · exact Fields.get?_set_self _ _ _
  · rw [assigned, Fields.get?_set_of_ne _ (by decide)]
    exact Fields.get?_set_self _ _ _

private theorem countP_le_countP_add_one {subject : Value} {variant other : String × Value}
    (hvariant : variant ∈ namedVariants subject) (hother : other ∈ namedVariants subject)
    (recipients : List Recipient) :
    (recipients.mapIdx (assigned subject)).countP (isInGroup variant.1) ≤
      (recipients.mapIdx (assigned subject)).countP (isInGroup other.1) + 1 := by
  have hindex {entry : String × Value} (h : entry ∈ namedVariants subject) :
      ∃ index < 3, entry.1 = variantName index := by
    simp only [namedVariants, List.mem_cons, List.not_mem_nil, or_false] at h
    rcases h with rfl | rfl | rfl
    · exact ⟨0, by decide, rfl⟩
    · exact ⟨1, by decide, rfl⟩
    · exact ⟨2, by decide, rfl⟩
  obtain ⟨i, hi, hname⟩ := hindex hvariant
  obtain ⟨j, hj, hothername⟩ := hindex hother
  rw [hname, hothername, countP_assigned hi, countP_assigned hj]
  omega

private theorem exists_isAccounted (session : Session) {checked : Fields} {recipients : List Recipient}
    {subject : Value} (htest : Fields.get? "ab_test_enabled" checked = some (.bool true))
    (hsubject : Fields.get? "subject_line" checked = some subject) (hwritable : subject.isWritable = true)
    (hlist : Fields.get? "recipients" checked =
      some (.list ((recipients.filter Recipient.IsWelcome).map Recipient.value))) :
    ∃ mailed sent final,
      (do trySubjects; send; trackEngagement : Step Unit) (session.holding checked) =
        .ok () ((drawn session mailed.length).holding final) ∧
      IsAccounted recipients subject mailed sent (failures session.supply.randoms mailed.length) final := by
  generalize hkept : recipients.filter Recipient.IsWelcome = kept at hlist
  have htry := trySubjects_holding session htest hsubject hwritable hlist
  have hmailed : Fields.get? "recipients" (onTrial subject kept checked) =
      some (.list ((kept.mapIdx (assigned subject)).map .record)) := Fields.get?_set_self _ _ _
  obtain ⟨sent, hsend, htotal⟩ := exists_send session hmailed
  have htrack := trackEngagement_holding (drawn session (kept.mapIdx (assigned subject)).length)
    (Fields.get?_set_self (onTrial subject kept checked) "delivery_status"
      (deliveryStatus sent (failures session.supply.randoms (kept.mapIdx (assigned subject)).length)))
  refine ⟨kept.mapIdx (assigned subject), sent, _, Eq.trans ?_ htrack, ?_⟩
  · simp only [bind_apply, htry, hsend]
  · constructor
    · rw [Fields.get?_set_of_ne _ (by decide), Fields.get?_set_of_ne _ (by decide)]
      exact hmailed
    · rw [hkept]
      exact forall₂_assigned subject kept
    · rw [Fields.get?_set_of_ne _ (by decide), Fields.get?_set_of_ne _ (by decide), onTrial,
        Fields.get?_set_of_ne _ (by decide)]
      exact Fields.get?_set_self _ _ _
    · exact fun record hrecord => exists_mem_namedVariants hrecord
    · exact fun variant hvariant other hother => countP_le_countP_add_one hvariant hother kept
    · rw [Fields.get?_set_of_ne _ (by decide)]
      exact Fields.get?_set_self _ _ _
    · rw [hkept, htotal, List.length_mapIdx]
    · exact Fields.get?_set_self _ _ _

/-- From the check of the addresses to the report no recipient gets lost or doubled, whatever the random numbers
are. One is drawn for each of those who are left. Only a subject line that cannot be written ends this with a fault,
and any text can be written. -/
theorem send_accounts_for_recipients (session : Session) {fields : Fields} {recipients : List Recipient}
    {subject : Value} (hlist : Fields.get? "recipients" fields = some (.list (recipients.map Recipient.value)))
    (hsubject : Fields.get? "subject_line" fields = some subject)
    (htest : Fields.get? "ab_test_enabled" fields = some (.bool true)) :
    (subject.isWritable = true → ∃ mailed sent final,
      (do validateRecipients; trySubjects; send; trackEngagement : Step Unit) (session.holding fields) =
        .ok () ((drawn session mailed.length).holding final) ∧
      IsAccounted recipients subject mailed sent (failures session.supply.randoms mailed.length) final) ∧
    (subject.isWritable = false → ∃ final,
      (do validateRecipients; trySubjects; send; trackEngagement : Step Unit) (session.holding fields) =
        .error (.tooManyDigits none) (session.holding final)) := by
  have hvalidate := Recipient.validateRecipients_holding session hlist
  generalize hchecked : Fields.set "recipients"
    (.list ((recipients.filter Recipient.IsWelcome).map Recipient.value)) fields = checked at hvalidate
  have hlisted : Fields.get? "recipients" checked =
      some (.list ((recipients.filter Recipient.IsWelcome).map Recipient.value)) :=
    hchecked ▸ Fields.get?_set_self fields _ _
  have hsame : Fields.EqOutside ["recipients"] fields checked :=
    hchecked ▸ (Fields.EqOutside.refl _ fields).set (List.mem_singleton_self _) _
  have htest' := (hsame "ab_test_enabled" (by decide)).trans htest
  have hsubject' := (hsame "subject_line" (by decide)).trans hsubject
  rw [bind_apply, hvalidate]
  constructor
  · intro hwritable
    exact exists_isAccounted session htest' hsubject' hwritable hlisted
  · intro hlong
    refine ⟨checked, ?_⟩
    simp only [bind_apply, trySubjects_of_not_isWritable session htest' hsubject' hlong]

def Recipient.ofEmail (email : String) (others : Fields) : Recipient where
  record := ("email", .text email) :: others
  email := email
  email_eq := rfl

/-- Two who are welcome, one of them with a name left over from another trial, and three who are not. -/
def crowd : List Recipient := [
  .ofEmail "ann@example.com" [("subscribed", .bool true)],
  .ofEmail "ben@example" [("subscribed", .bool true)],
  .ofEmail "bounced@example.com" [("subscribed", .int 1)],
  .ofEmail "cyd@example.com" [("name", "Cyd")],
  .ofEmail ".@" [("variant_name", "variant_Z"), ("subscribed", "no")]]

def crowdFields : Fields := [
  ("subject_line", "News"), ("ab_test_enabled", .bool true),
  ("recipients", .list (crowd.map Recipient.value))]

/-- The first of the two mails fails and the second one just does not. -/
theorem send_to_crowd : ∃ mailed sent final,
    (do validateRecipients; trySubjects; send; trackEngagement : Step Unit)
        (Session.holding { state := .null, supply := { randoms := [0.96, 0.95] } } crowdFields) =
      .ok () ((drawn { state := .null, supply := { randoms := [0.96, 0.95] } } mailed.length).holding final) ∧
    IsAccounted crowd "News" mailed sent (failures [0.96, 0.95] mailed.length) final :=
  (send_accounts_for_recipients { state := .null, supply := { randoms := [0.96, 0.95] } } rfl rfl rfl).1 rfl

end Campaign

end Workgraph
