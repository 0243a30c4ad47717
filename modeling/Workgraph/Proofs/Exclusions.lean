import Workgraph.Proofs.Walks
import Workgraph.Workflows.Experiment

/-!
# Users that an experiment excludes

An experiment is meant for some segments, and the users of the others are excluded from it. The flag of an
experiment is put in force before the segment is looked at, and an excluded user gets no flags of a
variant but keeps that one. So an excluded user sees no feature exactly if the experiment is not set up.
-/

namespace Workgraph.Experiment

open Step

def HasEligibility (eligibility : String) (state : Value) : Prop :=
  ∃ fields tracking, state = .record fields ∧
    Fields.get? "tracking_data" fields = some (.record tracking) ∧
    Fields.get? "eligibility" tracking = some (.text eligibility)

theorem HasEligibility.inj {first second : String} {state : Value} (h : HasEligibility first state)
    (h' : HasEligibility second state) : first = second := by
  obtain ⟨fields, tracking, rfl, htracking, hfirst⟩ := h
  obtain ⟨_, _, ⟨⟩, htracking', hsecond⟩ := h'
  cases htracking.symm.trans htracking'
  cases hfirst.symm.trans hsecond
  rfl

section Keeps

variable {eligibility : String}

theorem write_keeps_eligibility {key : String} (hkey : key ≠ "tracking_data") (v : Value) :
    (write key v).Keeps (HasEligibility eligibility) := by
  rintro session ⟨fields, tracking, hstate, htracking, heligibility⟩
  rw [Session.eq_holding hstate, leaves_of_ok (write_holding session fields key v)]
  exact ⟨_, tracking, rfl, (Fields.get?_set_of_ne fields hkey v).trans htracking, heligibility⟩

private theorem writeIn_keeps_eligibility {key : String} (hkey : key ≠ "tracking_data") (inner : String)
    (v : Value) : (writeIn key inner v).Keeps (HasEligibility eligibility) :=
  (IsQuiet.read key).before fun _ => (IsQuiet.lift _).before fun _ => write_keeps_eligibility hkey _

theorem track_keeps_eligibility {inner : String} (hinner : inner ≠ "eligibility") (v : Value) :
    (writeIn "tracking_data" inner v).Keeps (HasEligibility eligibility) := by
  rintro session ⟨fields, tracking, hstate, htracking, heligibility⟩
  rw [Session.eq_holding hstate, leaves_of_ok (writeIn_holding htracking inner v session)]
  refine ⟨_, _, rfl, Fields.get?_set_self _ _ _, ?_⟩
  exact (Fields.get?_set_of_ne tracking hinner v).trans heligibility

private theorem isQuiet_drawPoint : drawPoint.IsQuiet := fun _ => rfl

private theorem assignVariant_keeps_eligibility : assignVariant.Keeps (HasEligibility eligibility) := by
  refine (IsQuiet.isSet _).before fun overridden => .ite ?_ ?_
  · refine (IsQuiet.read _).before fun _ => ?_
    refine (write_keeps_eligibility (by decide) _).bind fun _ => ?_
    exact track_keeps_eligibility (by decide) _
  · refine (IsQuiet.read _).before fun _ => (IsQuiet.lift _).before fun _ => ?_
    refine (IsQuiet.lift _).before fun _ => (IsQuiet.read _).before fun _ => ?_
    refine (IsQuiet.read _).before fun _ => (IsQuiet.lift _).before fun _ => ?_
    refine isQuiet_drawPoint.before fun _ => (IsQuiet.lift _).before fun _ => ?_
    refine (IsQuiet.lift _).before fun _ => ?_
    refine (write_keeps_eligibility (by decide) _).bind fun _ => ?_
    exact track_keeps_eligibility (by decide) _

private theorem activateFeatures_keeps_eligibility : activateFeatures.Keeps (HasEligibility eligibility) := by
  have hget : (get : Step Session).IsQuiet := fun _ => rfl
  refine (IsQuiet.read _).before fun _ => (IsQuiet.lift _).before fun _ => ?_
  refine (IsQuiet.read _).before fun _ => (IsQuiet.lift _).before fun _ => ?_
  refine (write_keeps_eligibility (by decide) _).bind fun _ => hget.before fun _ => .ite ?_ ?_
  · exact writeIn_keeps_eligibility (by decide) _ _
  · exact (IsQuiet.pure ()).keeps _

private theorem trackAssignment_keeps_eligibility : trackAssignment.Keeps (HasEligibility eligibility) := by
  refine (IsQuiet.read _).before fun _ => (IsQuiet.read _).before fun _ => ?_
  refine (IsQuiet.read _).before fun _ => (IsQuiet.read _).before fun _ => ?_
  exact track_keeps_eligibility (by decide) _

/-- From the assignment on a walk keeps the eligibility, however it ends. -/
theorem assigned_keeps_eligibility (limit : Nat) (session : Session)
    (h : HasEligibility eligibility session.state) :
    HasEligibility eligibility (workflow.walkFrom limit "assign" session).session.state := by
  refine Workflow.keeps_of_edge (by decide) rfl rfl rfl assignVariant_keeps_eligibility ?_ limit session h
  refine Workflow.keeps_of_edge (by decide) rfl rfl rfl activateFeatures_keeps_eligibility ?_
  refine Workflow.keeps_of_edge (by decide) rfl rfl rfl trackAssignment_keeps_eligibility ?_
  intro limit session hend
  rw [Workflow.walkFrom_terminal]
  exact hend

end Keeps

/-- The segments that an experiment is meant for. One that is not set up is meant for none. -/
def targets (experiment : String) : List String :=
  ((setups.lookup experiment).map Setup.segments).getD []

def ownFlags (experiment : String) : Fields :=
  ((setups.lookup experiment).map fun setup => (setup.flag, .bool true)).toList

def configFor (experiment : String) : Value :=
  ((setups.lookup experiment).map Setup.toValue).getD (.record [])

def segmentOf (session : Session) : String := segmentFor (session.supply.hashes.headD 0 % 100)

/-- A record with a user, an experiment and tracking data. -/
structure IsUser (fields : Fields) (user experiment : String) (tracking : Fields) : Prop where
  user : Fields.get? "user_id" fields = some (.text user)
  experiment : Fields.get? "experiment_id" fields = some (.text experiment)
  tracking : Fields.get? "tracking_data" fields = some (.record tracking)

/-- A user in a segment, with the configuration and the flag of the experiment. -/
structure IsLoaded (fields : Fields) (user experiment segment : String) (tracking : Fields) : Prop where
  isUser : IsUser fields user experiment tracking
  segment : Fields.get? "user_segment" fields = some (.text segment)
  config : Fields.get? "experiment_config" fields = some (configFor experiment)
  flags : Fields.get? "feature_flags" fields = some (.record (ownFlags experiment))

section Nodes

variable {fields tracking : Fields} {user experiment segment : String}

theorem IsUser.set (h : IsUser fields user experiment tracking) {key : String}
    (hkey : key ∉ ["user_id", "experiment_id", "tracking_data"]) (value : Value) :
    IsUser (Fields.set key value fields) user experiment tracking where
  user := (Fields.get?_set_of_mem hkey (by simp) fields value).trans h.user
  experiment := (Fields.get?_set_of_mem hkey (by simp) fields value).trans h.experiment
  tracking := (Fields.get?_set_of_mem hkey (by simp) fields value).trans h.tracking

theorem IsLoaded.set (h : IsLoaded fields user experiment segment tracking) {key : String}
    (hkey : key ∉ ["user_id", "experiment_id", "tracking_data", "user_segment", "experiment_config",
      "feature_flags"]) (value : Value) :
    IsLoaded (Fields.set key value fields) user experiment segment tracking where
  isUser := h.isUser.set (fun hmem => hkey (List.mem_append_left _ hmem)) value
  segment := (Fields.get?_set_of_mem hkey (by simp) fields value).trans h.segment
  config := (Fields.get?_set_of_mem hkey (by simp) fields value).trans h.config
  flags := (Fields.get?_set_of_mem hkey (by simp) fields value).trans h.flags

theorem IsLoaded.set_tracking (h : IsLoaded fields user experiment segment tracking) (new : Fields) :
    IsLoaded (Fields.set "tracking_data" (.record new) fields) user experiment segment new := by
  refine ⟨⟨?_, ?_, ?_⟩, ?_, ?_, ?_⟩
  · simpa [Fields.get?_set] using h.isUser.user
  · simpa [Fields.get?_set] using h.isUser.experiment
  · simp
  · simpa [Fields.get?_set] using h.segment
  · simpa [Fields.get?_set] using h.config
  · simpa [Fields.get?_set] using h.flags

theorem IsLoaded.hasEligibility {eligibility : String}
    (h : IsLoaded fields user experiment segment tracking)
    (heligibility : Fields.get? "eligibility" tracking = some (.text eligibility)) :
    HasEligibility eligibility (.record fields) :=
  ⟨fields, tracking, rfl, h.isUser.tracking, heligibility⟩

private theorem exists_identify (h : IsUser fields user experiment tracking) (session : Session) :
    ∃ later : Session, identify (session.holding fields) =
      .ok () (later.holding (Fields.set "user_segment" (segmentOf session) fields)) := by
  simp only [identify, bind_apply, read_holding h.user]
  exact ⟨_, rfl⟩

private theorem exists_loadConfig (h : IsUser fields user experiment tracking)
    (hsegment : Fields.get? "user_segment" fields = some (.text segment)) (session : Session) :
    ∃ (later : Session) (loaded : Fields), loadConfig (session.holding fields) =
      .ok () (later.holding loaded) ∧ IsLoaded loaded user experiment segment tracking := by
  refine ⟨{ session with flagsLinked := (setups.lookup experiment).isSome },
    Fields.set "feature_flags" (.record (ownFlags experiment))
      (Fields.set "experiment_config" (configFor experiment) fields), ?_, ?_⟩
  · simp only [loadConfig, bind_apply, read_holding h.experiment, lookup, liftM_ok, pure_apply,
      ownFlags, configFor]
    cases setups.lookup experiment with
    | none => rfl
    | some setup => rfl
  · refine ⟨(h.set (by decide) _).set (by decide) _, ?_, ?_, ?_⟩
    · simpa [Fields.get?_set] using hsegment
    · simp [Fields.get?_set]
    · simp

private theorem segments_configFor (experiment : String) :
    (configFor experiment).fieldOr "target_segments" (.list []) =
      .ok (.list ((targets experiment).map .text)) := by
  unfold configFor targets
  cases setups.lookup experiment with
  | none => rfl
  | some setup => rfl

def eligibilityFor (experiment segment : String) : String :=
  if segment ∈ targets experiment then "included" else "excluded"

theorem exists_checkEligibility (h : IsLoaded fields user experiment segment tracking)
    (session : Session) :
    ∃ checked, checkEligibility (session.holding fields) = .ok () (session.holding checked) ∧
      IsLoaded checked user experiment segment
        (Fields.set "eligibility" (eligibilityFor experiment segment) tracking) ∧
      (segment ∉ targets experiment → Fields.get? "variant" checked = some "control") := by
  simp only [checkEligibility, bind_apply, read_holding h.segment, read_holding h.config,
    segments_configFor, Value.isIn_texts, liftM_ok, pure_apply, decide_eq_true_eq]
  unfold eligibilityFor
  by_cases hmeant : segment ∈ targets experiment
  · simp only [hmeant, if_true, writeIn_holding h.isUser.tracking]
    exact ⟨_, rfl, h.set_tracking _, fun hnot => absurd trivial hnot⟩
  · have hcontrol : IsLoaded (Fields.set "variant" "control" fields) user experiment segment tracking :=
      h.set (by decide) _
    simp only [hmeant, if_false, bind_apply, write_holding, writeIn_holding hcontrol.isUser.tracking]
    refine ⟨_, rfl, hcontrol.set_tracking _, fun _ => ?_⟩
    simp [Fields.get?_set]

theorem routeAfterEligibility_holding {eligibility : String}
    (h : IsLoaded fields user experiment segment tracking)
    (heligibility : Fields.get? "eligibility" tracking = some (.text eligibility)) (session : Session) :
    routeAfterEligibility (session.holding fields) =
      .ok (.text (if eligibility = "excluded" then "track" else "assign")) (session.holding fields) := by
  simp only [routeAfterEligibility, bind_apply, read_holding h.isUser.tracking, Value.fieldOr,
    heligibility, Option.getD_some, liftM_ok, pure_apply, Value.same_text, beq_iff_eq]
  split <;> rfl

private theorem exists_trackAssignment (h : IsLoaded fields user experiment segment tracking) {variant : Value}
    (hvariant : Fields.get? "variant" fields = some variant) (session : Session) :
    ∃ tracked event, trackAssignment (session.holding fields) = .ok () (session.holding tracked) ∧
      IsLoaded tracked user experiment segment (Fields.set "assignment_event" event tracking) := by
  simp only [trackAssignment, bind_apply, read_holding h.isUser.experiment, read_holding hvariant,
    read_holding h.isUser.user, read_holding h.segment, writeIn_holding h.isUser.tracking]
  exact ⟨_, _, rfl, h.set_tracking _⟩

end Nodes

section Walks

variable {fields tracking : Fields} {user experiment : String} {session : Session}

theorem walk_to_check (h : IsUser fields user experiment tracking) (session : Session) :
    ∃ (later : Session) (loaded : Fields) (events : List Event),
      IsLoaded loaded user experiment (segmentOf session) tracking ∧
      ∀ limit, workflow.walk (limit + 2) (session.holding fields) =
        (workflow.walkFrom limit "check_eligibility" (later.holding loaded)).behind events := by
  obtain ⟨known, hidentify⟩ := exists_identify h session
  obtain ⟨later, loaded, hload, hloaded⟩ :=
    exists_loadConfig (h.set (by decide) _) (Fields.get?_set_self _ _ _) known
  refine ⟨later, loaded, [
    ⟨.node "identify", none, none, .record (Fields.set "user_segment" (segmentOf session) fields)⟩,
    ⟨.node "load_config", none, none, .record loaded⟩], hloaded, fun limit => ?_⟩
  show workflow.walkFrom (limit + 2) "identify" _ = _
  rw [Workflow.walkFrom_edge (by decide) rfl hidentify rfl rfl,
    Workflow.walkFrom_edge (by decide) rfl hload rfl rfl]
  rfl

private theorem included_of_finished (h : IsUser fields user experiment tracking)
    (hmeant : segmentOf session ∈ targets experiment) {limit : Nat}
    (hfinished : (workflow.walk limit (session.holding fields)).ending = .finished) :
    HasEligibility "included" (workflow.walk limit (session.holding fields)).session.state := by
  -- a finished walk is the same under a larger limit, and that one gets past the check
  rcases workflow.walkFrom_add limit 3 workflow.entry (session.holding fields) with hsame | ⟨hcut, -⟩
  · obtain ⟨later, loaded, events, hloaded, hwalk⟩ := walk_to_check h session
    obtain ⟨checked, hcheck, hchecked, -⟩ := exists_checkEligibility hloaded later
    rw [eligibilityFor, if_pos hmeant] at hchecked
    have hroute := routeAfterEligibility_holding hchecked (Fields.get?_set_self _ _ _) later
    have hlonger := hwalk (limit + 1)
    rw [Workflow.walkFrom_branching (by decide) rfl hcheck rfl hroute rfl] at hlonger
    rw [Workflow.walk, ← hsame]
    show HasEligibility "included" (workflow.walk (limit + 3) _).session.state
    rw [hlonger]
    apply assigned_keeps_eligibility
    exact hchecked.hasEligibility (Fields.get?_set_self _ _ _)
  · rw [Workflow.walk, hcut] at hfinished
    cases hfinished

/-- The walk comes to its end with the user excluded and with these flags in force. -/
def EndsExcluded (flags : Fields) (walk : Walk) : Prop :=
  walk.ending = .finished ∧ HasEligibility "excluded" walk.session.state ∧
    walk.session.state.field "feature_flags" = .ok (.record flags)

theorem endsExcluded_walk (h : IsUser fields user experiment tracking)
    (hmeant : segmentOf session ∉ targets experiment) {limit : Nat} (hlimit : 4 ≤ limit) :
    EndsExcluded (ownFlags experiment) (workflow.walk limit (session.holding fields)) := by
  obtain ⟨more, rfl⟩ := Nat.exists_eq_add_of_le' hlimit
  obtain ⟨later, loaded, events, hloaded, hwalk⟩ := walk_to_check h session
  obtain ⟨checked, hcheck, hchecked, hvariant⟩ := exists_checkEligibility hloaded later
  rw [eligibilityFor, if_neg hmeant] at hchecked
  have hroute := routeAfterEligibility_holding hchecked (Fields.get?_set_self _ _ _) later
  obtain ⟨tracked, event, htrack, htracked⟩ := exists_trackAssignment hchecked (hvariant hmeant) later
  rw [hwalk (more + 2), Workflow.walkFrom_branching (by decide) rfl hcheck rfl hroute rfl,
    Workflow.walkFrom_edge (by decide) rfl htrack rfl rfl, Workflow.walkFrom_terminal]
  refine ⟨rfl, htracked.hasEligibility ?_, ?_⟩
  · simp [Fields.get?_set]
  · show (Value.record tracked).field "feature_flags" = _
    simp only [Value.field, htracked.flags]

private theorem no_flag_iff (experiment : String) :
    (∀ entry ∈ ownFlags experiment, entry.2 ≠ .bool true) ↔ experiment ∉ setups.map Prod.fst := by
  have hnone : experiment ∉ setups.map Prod.fst ↔ setups.lookup experiment = none := by
    rw [List.lookup_eq_none_iff]
    simp only [List.mem_map, not_exists, not_and, bne_iff_ne, ne_eq, eq_comm (b := experiment)]
  rw [hnone, ownFlags]
  cases setups.lookup experiment with
  | none => simp
  | some setup => simp

end Walks

/-- The walk of a user for whom the experiment is not meant is cut off or ends with the user excluded. No
feature is in force for an excluded user exactly if the experiment is not among those set up. -/
theorem walk_excluded_flags_iff (session : Session) (limit : Nat) {fields tracking : Fields}
    {user experiment : String} (h : IsUser fields user experiment tracking) :
    ∃ walk, workflow.walk limit (session.holding fields) = walk ∧
      (walk.ending = .finished → (HasEligibility "excluded" walk.session.state ↔
        segmentOf session ∉ targets experiment)) ∧
      (segmentOf session ∉ targets experiment → limit < 4 ∧ walk.ending = .limitReached ∨
        walk.ending = .finished ∧ ∃ flags,
          walk.session.state.field "feature_flags" = .ok (.record flags) ∧
          ((∀ entry ∈ flags, entry.2 ≠ .bool true) ↔ experiment ∉ setups.map Prod.fst)) := by
  refine ⟨_, rfl, ?_⟩
  by_cases hmeant : segmentOf session ∈ targets experiment
  · refine ⟨fun hfinished => iff_of_false ?_ (not_not_intro hmeant), fun hnot => absurd hmeant hnot⟩
    intro hexcluded
    have hincluded := included_of_finished h hmeant hfinished
    exact absurd (hincluded.inj hexcluded) (by decide)
  · have hends (walk : Walk) (hwalk : EndsExcluded (ownFlags experiment) walk) :
        walk.ending ≠ .limitReached := by
      simp [hwalk.1]
    rcases Workflow.cut_or_of_enough hends (fun n hn => endsExcluded_walk h hmeant hn) limit with
      ⟨hlimit, hcut⟩ | ⟨hfinished, hexcluded, hflags⟩
    · refine ⟨fun hfinished => ?_, fun _ => .inl ⟨hlimit, hcut⟩⟩
      rw [hcut] at hfinished
      cases hfinished
    · refine ⟨fun _ => iff_of_true hexcluded hmeant, fun _ => .inr ⟨hfinished, _, hflags, ?_⟩⟩
      exact no_flag_iff experiment

def visitor (experiment : String) : Fields := [
  ("user_id", "user_1"), ("experiment_id", .text experiment), ("variant", ""), ("user_segment", ""),
  ("feature_flags", .record []), ("experiment_config", .record []), ("tracking_data", .record []),
  ("conversion_tracked", false), ("override_variant", "")]

theorem isUser_visitor (experiment : String) : IsUser (visitor experiment) "user_1" experiment [] :=
  ⟨rfl, rfl, rfl⟩

theorem walk_unplanned :
    ∃ walk, workflow.walk 4 (Session.holding { state := .null } (visitor "unplanned")) = walk ∧
      HasEligibility "excluded" walk.session.state ∧
      ∃ flags, walk.session.state.field "feature_flags" = .ok (.record flags) ∧
        ∀ entry ∈ flags, entry.2 ≠ .bool true := by
  obtain ⟨walk, hwalk, heligibility, hflags⟩ :=
    walk_excluded_flags_iff { state := .null } 4 (isUser_visitor "unplanned")
  obtain ⟨hlimit, -⟩ | ⟨hfinished, flags, hfield, hnone⟩ := hflags (by decide)
  · omega
  · exact ⟨walk, hwalk, (heligibility hfinished).2 (by decide), flags, hfield, hnone.2 (by decide)⟩

/-- A user of another segment is excluded from the new homepage and sees it. -/
theorem walk_excluded_visitor :
    ∃ walk, workflow.walk 4 (Session.holding { state := .null, supply := { hashes := [99] } }
        (visitor "homepage_redesign")) = walk ∧
      walk.ending = .finished ∧ HasEligibility "excluded" walk.session.state ∧
      walk.session.state.field "feature_flags" = .ok (.record [("new_homepage", .bool true)]) :=
  ⟨_, rfl, endsExcluded_walk (isUser_visitor "homepage_redesign") (by decide) (by decide)⟩

end Workgraph.Experiment
