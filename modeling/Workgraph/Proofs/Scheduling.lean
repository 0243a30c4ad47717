import Workgraph.Proofs.Calendar
import Workgraph.Proofs.Steps
import Workgraph.Workflows.Campaign

/-!
# Scheduling

When the mails of a campaign go out. A newsletter waits for a Tuesday, today included, unless the calendar
ends before. The hour is set whatever the time is, so on the day itself a newsletter after ten and a
promotion after two are scheduled for a time that has passed, and nothing else is.
-/

namespace Workgraph.Campaign

open Step

private theorem daysToTuesday_le (weekday : Nat) : daysToTuesday weekday ≤ 6 := by
  unfold daysToTuesday
  omega

private theorem weekday_add_daysToTuesday {weekday : Nat} (h : weekday < 7) :
    (weekday + daysToTuesday weekday) % 7 = 1 := by
  unfold daysToTuesday
  omega

private theorem daysToTuesday_eq_zero_iff {weekday : Nat} (h : weekday < 7) :
    daysToTuesday weekday = 0 ↔ weekday = 1 := by
  unfold daysToTuesday
  omega

theorem sendTime_newsletter (now : DateTime) : sendTime "newsletter" now =
    match now.date.advance? (daysToTuesday now.date.weekday) with
    | some date => .ok { now.atHour ⟨10, by decide⟩ with date }
    | none => .error .dateOutOfRange := rfl

theorem sendTime_promotional (now : DateTime) :
    sendTime "promotional" now = .ok (now.atHour ⟨14, by decide⟩) := rfl

private theorem sendTime_other {type : Value} (hnewsletter : type ≠ "newsletter")
    (hpromotional : type ≠ "promotional") (now : DateTime) : sendTime type now = .ok now := by
  unfold sendTime
  rw [if_neg (mt Value.same_text_iff.1 hnewsletter), if_neg (mt Value.same_text_iff.1 hpromotional)]

section Schedule

variable {fields : Fields} {type : Value} {time : DateTime}

theorem schedule_of_sendTime (session : Session)
    (htype : Fields.get? "campaign_type" fields = some type)
    (htime : sendTime type session.supply.now = .ok time) :
    schedule (session.holding fields) =
      .ok () (session.holding (Fields.set "scheduled_time" (.text time.text) fields)) := by
  simp only [schedule, bind_apply, read_holding htype, now_holding, htime, liftM_ok, pure_apply,
    write_holding]

theorem schedule_of_sendTime_error (session : Session) {fault : Fault}
    (htype : Fields.get? "campaign_type" fields = some type)
    (hfault : sendTime type session.supply.now = .error fault) :
    schedule (session.holding fields) = .error fault (session.holding fields) := by
  simp only [schedule, bind_apply, read_holding htype, now_holding, hfault, liftM_error]

/-- The state tells this time, and no other, as the time of the mails. -/
def ScheduledFor (time : DateTime) (fields : Fields) : Prop :=
  ∀ other : DateTime, Fields.get? "scheduled_time" fields = some (.text other.text) ↔ other = time

theorem scheduledFor_set (time : DateTime) (fields : Fields) :
    ScheduledFor time (Fields.set "scheduled_time" (.text time.text) fields) := by
  intro other
  rw [Fields.get?_set_self, Option.some_inj, Value.text.injEq]
  exact ⟨fun h => (DateTime.text_injective h).symm, fun h => h ▸ rfl⟩

end Schedule

/-- The time is ten on a Tuesday, up to six days after the day of the order; what is below the second is as it
was then. -/
structure IsTuesdayMorning (now time : DateTime) : Prop where
  tuesday : time.date.weekday = 1
  soon : ∃ days ≤ 6, now.date.advance? days = some time.date
  hour : time.hour.val = 10
  minute : time.minute.val = 0
  second : time.second.val = 0
  microsecond : time.microsecond = now.microsecond

/-- A newsletter is scheduled for ten on a Tuesday, today or within six days. If there is no such day, because
the first Tuesday from today on comes after the last day of the calendar, the date is out of range. -/
theorem schedule_newsletter (session : Session) {fields : Fields}
    (htype : Fields.get? "campaign_type" fields = some (.text "newsletter")) :
    (∃ final time, schedule (session.holding fields) = .ok () (session.holding final) ∧
        ScheduledFor time final ∧ IsTuesdayMorning session.supply.now time) ∨
      (∃ days ≤ 6, (session.supply.now.date.weekday + days) % 7 = 1 ∧
        Date.lastDay.ordinal < session.supply.now.date.ordinal + days) ∧
        schedule (session.holding fields) = .error .dateOutOfRange (session.holding fields) := by
  have hsend := sendTime_newsletter session.supply.now
  have hfirst := weekday_add_daysToTuesday session.supply.now.date.weekday_lt
  have hsoon := daysToTuesday_le session.supply.now.date.weekday
  cases hdate : session.supply.now.date.advance? (daysToTuesday session.supply.now.date.weekday) with
  | some date =>
      rw [hdate] at hsend
      left
      refine ⟨_, _, schedule_of_sendTime session htype hsend, scheduledFor_set _ _, ?_⟩
      refine ⟨?_, ⟨_, hsoon, hdate⟩, rfl, rfl, rfl, rfl⟩
      rw [Date.weekday_of_advance? hdate]
      exact hfirst
  | none =>
      rw [hdate] at hsend
      right
      refine ⟨⟨_, hsoon, hfirst, ?_⟩, schedule_of_sendTime_error session htype hsend⟩
      exact Date.lastDay_lt_of_advance? hdate

def orderedAt (now : DateTime) : Session := { state := .null, supply := { now } }

def mailing (type : String) : Fields := [("campaign_type", type), ("scheduled_time", "")]

theorem type_mailing (type : String) :
    Fields.get? "campaign_type" (mailing type) = some (.text type) := rfl

def leapWednesday : DateTime where
  date := ⟨1996, 2, 28, by decide, by decide, by decide⟩
  hour := ⟨23, by decide⟩
  minute := ⟨59, by decide⟩
  second := ⟨59, by decide⟩
  microsecond := ⟨7, by decide⟩

theorem schedule_leapWednesday :
    ∃ final time, schedule ((orderedAt leapWednesday).holding (mailing "newsletter")) =
        .ok () ((orderedAt leapWednesday).holding final) ∧
      ScheduledFor time final ∧ IsTuesdayMorning leapWednesday time := by
  rcases schedule_newsletter (orderedAt leapWednesday) (type_mailing "newsletter") with
    hscheduled | ⟨⟨days, hdays, -, hlast⟩, -⟩
  · exact hscheduled
  · have hdate : (orderedAt leapWednesday).supply.now.date.ordinal = 728717 := by decide
    have hlastDay : Date.lastDay.ordinal = 3652059 := by decide
    omega

/-- The hour that is set for mails of this type has passed on the day on which they are to go out. -/
def IsLate (type : Value) (now : DateTime) : Prop :=
  type = "newsletter" ∧ now.date.weekday = 1 ∧ 10 * 3600 < now.secondOfDay ∨
    type = "promotional" ∧ 14 * 3600 < now.secondOfDay

private theorem isLate_newsletter_iff {now : DateTime} :
    IsLate "newsletter" now ↔ now.date.weekday = 1 ∧ 10 * 3600 < now.secondOfDay := by
  simp [IsLate]

theorem isLate_promotional_iff {now : DateTime} :
    IsLate "promotional" now ↔ 14 * 3600 < now.secondOfDay := by
  simp [IsLate]

private theorem instant_le_newsletter_iff {now time : DateTime} (h : sendTime "newsletter" now = .ok time) :
    now.instant ≤ time.instant ↔ ¬IsLate "newsletter" now := by
  have hdays := daysToTuesday_eq_zero_iff now.date.weekday_lt
  rw [sendTime_newsletter] at h
  split at h
  · rename_i date hdate
    cases h
    rw [isLate_newsletter_iff]
    by_cases htuesday : now.date.weekday = 1
    · rw [hdays.2 htuesday] at hdate
      cases hdate
      have hhour := now.instant_le_atHour_iff ⟨10, by decide⟩
      dsimp only at hhour
      refine hhour.trans ?_
      omega
    · have hlater := Date.ordinal_of_advance? hdate
      apply iff_of_true
      · apply DateTime.instant_le_of_earlier_day
        show now.date.ordinal < date.ordinal
        omega
      · exact fun hlate => htuesday hlate.1
  · cases h

private theorem instant_le_sendTime_iff {type : Value} {now time : DateTime}
    (h : sendTime type now = .ok time) : now.instant ≤ time.instant ↔ ¬IsLate type now := by
  by_cases hnewsletter : type = "newsletter"
  · subst hnewsletter
    exact instant_le_newsletter_iff h
  by_cases hpromotional : type = "promotional"
  · subst hpromotional
    rw [sendTime_promotional] at h
    cases h
    rw [DateTime.instant_le_atHour_iff, isLate_promotional_iff]
    dsimp only
    omega
  · rw [sendTime_other hnewsletter hpromotional] at h
    cases h
    simp [IsLate, hnewsletter, hpromotional]

/-- If mails are scheduled, it is for a time that has not passed, unless the hour that is set for them has
passed on the day itself. -/
theorem schedule_in_time_iff_not_isLate (session : Session) {done : Session} {fields : Fields} {type : Value}
    (htype : Fields.get? "campaign_type" fields = some type)
    (hrun : schedule (session.holding fields) = .ok () done) :
    ∃ final time, done = session.holding final ∧ ScheduledFor time final ∧
      (session.supply.now.instant ≤ time.instant ↔ ¬IsLate type session.supply.now) := by
  cases hsend : sendTime type session.supply.now with
  | error fault =>
      rw [schedule_of_sendTime_error session htype hsend] at hrun
      cases hrun
  | ok time =>
      rw [schedule_of_sendTime session htype hsend] at hrun
      cases hrun
      exact ⟨_, time, rfl, scheduledFor_set time fields, instant_le_sendTime_iff hsend⟩

def atHourOfStandard (hour : Fin 24) : DateTime := { DateTime.standard with hour }

theorem schedule_promotion_at_two :
    ∃ final time, schedule ((orderedAt (atHourOfStandard 14)).holding (mailing "promotional")) =
        .ok () ((orderedAt (atHourOfStandard 14)).holding final) ∧
      ScheduledFor time final ∧ (atHourOfStandard 14).instant ≤ time.instant := by
  have hrun := schedule_of_sendTime (orderedAt (atHourOfStandard 14)) (type_mailing "promotional")
    (sendTime_promotional _)
  obtain ⟨final, time, hfinal, htime, hlate⟩ :=
    schedule_in_time_iff_not_isLate _ (type_mailing "promotional") hrun
  refine ⟨final, time, hfinal ▸ hrun, htime, hlate.2 ?_⟩
  rw [isLate_promotional_iff]
  decide

/-- An hour later the promotion is scheduled for the hour that has passed. -/
theorem schedule_promotion_at_three :
    ∃ final time, schedule ((orderedAt (atHourOfStandard 15)).holding (mailing "promotional")) =
        .ok () ((orderedAt (atHourOfStandard 15)).holding final) ∧
      ScheduledFor time final ∧ time.instant < (atHourOfStandard 15).instant := by
  have hrun := schedule_of_sendTime (orderedAt (atHourOfStandard 15)) (type_mailing "promotional")
    (sendTime_promotional _)
  refine ⟨_, _, hrun, scheduledFor_set _ _, ?_⟩
  decide

end Workgraph.Campaign
