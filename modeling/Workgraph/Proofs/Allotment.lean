import Mathlib
import Workgraph.Proofs.Exclusions

/-!
# How users are shared out

The share of each variant is cut to whole percent, and a user gets the variant in whose block of points the hash
falls, modulo one hundred. The blocks lie side by side in the order of the shares, and the points behind the last
one go to the control. As long as the shares do not come to more than one hundred, a variant has as
many points as its share.
-/

namespace Workgraph

/-- The session in which this hash is drawn next. -/
def Session.drawing (session : Session) (hash : Int) : Session :=
  { session with supply := { session.supply with hashes := hash :: session.supply.hashes } }

namespace Experiment

open Step

def percent (share : Value) : Except Fault Int := do (← share.mul (.int 100)).toInt

/-- Variants with the points that they get. -/
abbrev Plan := List (String × Nat)

namespace Plan

def total (plan : Plan) : Nat := (plan.map Prod.snd).sum

/-- The points of a variant lie behind those of the variants before it. -/
def block (plan : Plan) (i : Nat) : Finset Nat :=
  Finset.Ico (total (plan.take i)) (total (plan.take (i + 1)))

/-- The points that are behind those of all variants. -/
def leftOver (plan : Plan) : Finset Nat := Finset.Ico plan.total 100

/-- The variant that a point belongs to when the shares are gone through in their order. -/
def pick (point : Nat) : Plan → String
  | [] => "control"
  | (name, points) :: rest => if point < points then name else pick (point - points) rest

end Plan

/-- The points below one hundred for which a variant is chosen. -/
def pointsOf (chosen : Nat → String) (name : String) : Finset Nat :=
  (Finset.range 100).filter fun point => chosen point = name

/-- The shares of an allocation come to these points. -/
def IsPlan (allocation : Fields) (plan : Plan) : Prop :=
  List.Forall₂ (fun entry share => entry.1 = share.1 ∧ percent entry.2 = .ok (share.2 : Int))
    allocation plan

theorem IsPlan.names_eq {allocation : Fields} {plan : Plan} (h : IsPlan allocation plan) :
    allocation.map Prod.fst = plan.map Prod.fst := by
  induction h with
  | nil => rfl
  | cons hentry _ ih => rw [List.map_cons, List.map_cons, hentry.1, ih]

private theorem allot_cons {share : Value} {points : Int} (h : percent share = .ok points) (point below : Int)
    (name : String) (rest : Fields) : allot point below ((name, share) :: rest) =
      if point < below + points then .ok name else allot point (below + points) rest := by
  rw [percent] at h
  cases hproduct : share.mul (.int 100) with
  | error fault => simp [hproduct, bind, Except.bind] at h
  | ok product =>
      simp only [hproduct, bind, Except.bind] at h
      simp only [allot, hproduct, h, bind, Except.bind, pure, Except.pure]

private theorem IsPlan.allot_eq {allocation : Fields} {plan : Plan} (h : IsPlan allocation plan)
    (below point : Nat) : allot (below + point : Nat) below allocation = .ok (plan.pick point) := by
  induction h generalizing below point with
  | nil => rfl
  | @cons entry share allocation plan hentry _ ih =>
      rw [allot_cons hentry.2, Plan.pick, hentry.1]
      by_cases hpoint : point < share.2
      · rw [if_pos (by omega), if_pos hpoint]
      · have hrest := ih (below + share.2) (point - share.2)
        have hpoints : below + share.2 + (point - share.2) = below + point := by omega
        rw [hpoints, Nat.cast_add below share.2] at hrest
        rw [if_neg (by omega), if_neg hpoint, hrest]

namespace Plan

variable {plan : Plan} {name : String} {point i : Nat}

@[simp]
theorem total_nil : total [] = 0 := rfl

@[simp]
theorem total_cons (share : String × Nat) (plan : Plan) : total (share :: plan) = share.2 + total plan :=
  List.sum_cons

theorem pick_of_mem_block {share : String × Nat} (hshare : plan[i]? = some share)
    (hpoint : point ∈ plan.block i) : plan.pick point = share.1 := by
  induction plan generalizing i point with
  | nil => simp at hshare
  | cons first rest ih =>
      rw [block, Finset.mem_Ico] at hpoint
      cases i with
      | zero =>
          cases hshare
          rw [pick, if_pos (by simpa using hpoint.2)]
      | succ i =>
          simp only [List.take_succ_cons, total_cons] at hpoint
          rw [pick, if_neg (by omega)]
          apply ih (by simpa using hshare)
          rw [block, Finset.mem_Ico]
          omega

theorem pick_of_total_le (h : plan.total ≤ point) : plan.pick point = "control" := by
  induction plan generalizing point with
  | nil => rfl
  | cons share rest ih =>
      rw [total_cons] at h
      rw [pick, if_neg (by omega)]
      apply ih
      omega

theorem exists_mem_block (h : point < plan.total) :
    ∃ i share, plan[i]? = some share ∧ point ∈ plan.block i := by
  induction plan generalizing point with
  | nil => simp at h
  | cons share rest ih =>
      rw [total_cons] at h
      by_cases hpoint : point < share.2
      · refine ⟨0, share, rfl, ?_⟩
        simpa [block] using hpoint
      · obtain ⟨i, other, hother, hblock⟩ := ih (show point - share.2 < total rest by omega)
        refine ⟨i + 1, other, hother, ?_⟩
        rw [block, Finset.mem_Ico] at hblock ⊢
        simp only [List.take_succ_cons, total_cons]
        omega

private theorem total_take_succ {share : String × Nat} (hshare : plan[i]? = some share) :
    total (plan.take (i + 1)) = total (plan.take i) + share.2 := by
  rw [List.take_add_one, hshare]
  simp [total]

private theorem card_block {share : String × Nat} (hshare : plan[i]? = some share) :
    (plan.block i).card = share.2 := by
  rw [block, Nat.card_Ico, total_take_succ hshare]
  omega

theorem total_take_le (plan : Plan) (i : Nat) : total (plan.take i) ≤ plan.total := by
  rw [total, total, List.map_take]
  exact (List.take_sublist _ _).sum_le_sum (by simp)

private theorem disjoint_block_leftOver (plan : Plan) (i : Nat) : Disjoint (plan.block i) plan.leftOver := by
  rw [Finset.disjoint_left]
  intro point hblock hleft
  rw [block, Finset.mem_Ico] at hblock
  rw [leftOver, Finset.mem_Ico] at hleft
  have hle := total_take_le plan (i + 1)
  omega

private theorem lt_total_of_mem_block (h : point ∈ plan.block i) : point < plan.total := by
  rw [block, Finset.mem_Ico] at h
  exact h.2.trans_le (total_take_le plan (i + 1))

/-- A variant is found in its block and nowhere else; only the control is also found behind all blocks. -/
theorem pick_eq_iff (hnames : (plan.map Prod.fst).Nodup) {share : String × Nat}
    (hshare : plan[i]? = some share) :
    plan.pick point = share.1 ↔ point ∈ plan.block i ∨ share.1 = "control" ∧ plan.total ≤ point := by
  constructor
  · intro hpick
    by_cases hpoint : point < plan.total
    · obtain ⟨j, other, hother, hblock⟩ := exists_mem_block hpoint
      have hsame : (plan.map Prod.fst)[j]? = (plan.map Prod.fst)[i]? := by
        rw [List.getElem?_map, List.getElem?_map, hother, hshare, Option.map_some, Option.map_some,
          ← pick_of_mem_block hother hblock, hpick]
      have hj : j < (plan.map Prod.fst).length := by
        rw [List.length_map]
        exact (List.getElem?_eq_some_iff.1 hother).1
      obtain rfl : j = i := (List.getElem?_inj hj hnames).1 hsame
      exact .inl hblock
    · have hle : plan.total ≤ point := Nat.le_of_not_lt hpoint
      rw [pick_of_total_le hle] at hpick
      exact .inr ⟨hpick.symm, hle⟩
  · rintro (hblock | ⟨hcontrol, hle⟩)
    · exact pick_of_mem_block hshare hblock
    · rw [pick_of_total_le hle, hcontrol]

private theorem pick_eq_control_iff (hcontrol : "control" ∉ plan.map Prod.fst) :
    plan.pick point = "control" ↔ plan.total ≤ point := by
  constructor
  · intro hpick
    by_contra hpoint
    obtain ⟨i, share, hshare, hblock⟩ := exists_mem_block (Nat.lt_of_not_le hpoint)
    rw [pick_of_mem_block hshare hblock] at hpick
    exact hcontrol (hpick ▸ List.mem_map_of_mem (List.mem_of_getElem? hshare))
  · exact pick_of_total_le

private theorem pointsOf_pick (hnames : (plan.map Prod.fst).Nodup) (htotal : plan.total ≤ 100)
    {share : String × Nat} (hshare : plan[i]? = some share) :
    pointsOf plan.pick share.1 =
      if share.1 = "control" then plan.block i ∪ plan.leftOver else plan.block i := by
  ext point
  have hlt : point ∈ plan.block i → point < plan.total := lt_total_of_mem_block
  rw [pointsOf, Finset.mem_filter, Finset.mem_range, pick_eq_iff hnames hshare]
  split <;> rename_i hcontrol
  · rw [Finset.mem_union, leftOver, Finset.mem_Ico]
    grind
  · grind

private theorem pointsOf_pick_control (hcontrol : "control" ∉ plan.map Prod.fst) :
    pointsOf plan.pick "control" = plan.leftOver := by
  ext point
  rw [pointsOf, Finset.mem_filter, Finset.mem_range, pick_eq_control_iff hcontrol, leftOver,
    Finset.mem_Ico, and_comm]

end Plan

/-- A user without a variant of choice, for whom the shares of an experiment are known. -/
structure IsUndecided (fields : Fields) (user experiment : String) (tracking allocation : Fields) :
    Prop where
  isUser : IsUser fields user experiment tracking
  override : (Fields.get? "override_variant" fields).map Value.truthy = some false
  config : ∃ config, Fields.get? "experiment_config" fields = some (.record config) ∧
    Fields.get? "traffic_allocation" config = some (.record allocation)

/-- With this hash the assignment comes to its end and writes this variant. -/
def Assigns (session : Session) (fields : Fields) (hash : Int) (variant : String) : Prop :=
  ∃ later, assignVariant ((session.drawing hash).holding fields) = .ok () later ∧
    later.state.field "variant" = .ok (.text variant)

section Assignment

variable {fields tracking allocation : Fields} {user experiment : String} {plan : Plan}

/-- The point of a hash decides, whichever sign the hash has. -/
theorem assignVariant_holding (h : IsUndecided fields user experiment tracking allocation)
    (hplan : IsPlan allocation plan) (session : Session) (hash : Int) :
    assignVariant ((session.drawing hash).holding fields) =
      .ok () (session.holding (Fields.set "tracking_data"
        (.record (Fields.set "assignment" "algorithmic" tracking))
        (Fields.set "variant" (.text (plan.pick (hash % 100).toNat)) fields))) := by
  obtain ⟨v, hget, hfalse⟩ := Option.map_eq_some_iff.1 h.override
  obtain ⟨config, hconfig, hallocation⟩ := h.config
  have hunset := isSet_of_read (read_holding hget (session.drawing hash))
  have hdraw : drawPoint ((session.drawing hash).holding fields) =
      .ok (hash % 100) (session.holding fields) := rfl
  have hallot : allot (hash % 100) 0 allocation = .ok (plan.pick (hash % 100).toNat) := by
    have hpoint := hplan.allot_eq 0 (hash % 100).toNat
    rwa [Nat.zero_add, Int.toNat_of_nonneg (Int.emod_nonneg hash (by decide))] at hpoint
  have htracking : Fields.get? "tracking_data"
      (Fields.set "variant" (.text (plan.pick (hash % 100).toNat)) fields) = some (.record tracking) :=
    (h.isUser.set (by decide) _).tracking
  simp only [assignVariant, bind_apply, hunset, hfalse, Bool.false_eq_true, if_false, read_holding hconfig,
    Value.fieldOr, hallocation, Option.getD_some, liftM_ok, pure_apply, read_holding h.isUser.user,
    read_holding h.isUser.experiment, Value.add, hdraw, Value.fields, hallot, write_holding,
    writeIn_holding htracking]

theorem assigns_pick (h : IsUndecided fields user experiment tracking allocation)
    (hplan : IsPlan allocation plan) (session : Session) (hash : Int) :
    Assigns session fields hash (plan.pick (hash % 100).toNat) := by
  refine ⟨_, assignVariant_holding h hplan session hash, ?_⟩
  simp [Session.holding, Value.field, Fields.get?_set]

/-- A hash decides by its residue modulo one hundred. Each variant has the residues of one block, as many as its
share comes to, and the control has in addition those that are left over. -/
theorem assigns_plan_blocks (h : IsUndecided fields user experiment tracking allocation)
    (hplan : IsPlan allocation plan) (hnames : (allocation.map Prod.fst).Nodup)
    (htotal : plan.total ≤ 100) (session : Session) :
    ∃ chosen : Nat → String,
      (∀ hash : Int, Assigns session fields hash (chosen (hash % 100).toNat)) ∧
      (∀ i name share, plan[i]? = some (name, share) → (plan.block i).card = share ∧
        Disjoint (plan.block i) plan.leftOver ∧ pointsOf chosen name =
          if name = "control" then plan.block i ∪ plan.leftOver else plan.block i) ∧
      plan.leftOver.card = 100 - plan.total ∧
      ("control" ∉ allocation.map Prod.fst → pointsOf chosen "control" = plan.leftOver) := by
  rw [hplan.names_eq] at hnames ⊢
  refine ⟨plan.pick, assigns_pick h hplan session, fun i name share hshare => ?_, Nat.card_Ico _ _,
    Plan.pointsOf_pick_control⟩
  exact ⟨Plan.card_block hshare, plan.disjoint_block_leftOver i,
    Plan.pointsOf_pick hnames htotal hshare⟩

end Assignment

def applicant (allocation : Fields) : Fields :=
  Fields.set "experiment_config" (.record [("traffic_allocation", .record allocation)])
    (visitor "pricing_test")

theorem isUndecided_applicant (allocation : Fields) :
    IsUndecided (applicant allocation) "user_1" "pricing_test" [] allocation :=
  ⟨⟨rfl, rfl, rfl⟩, rfl, _, rfl, rfl⟩

def unevenShares : Fields := [("variant_b", .float 0.29), ("control", .int 0), ("variant_a", .float 0.31)]

private theorem isPlan_unevenShares :
    IsPlan unevenShares [("variant_b", 28), ("control", 0), ("variant_a", 31)] :=
  .cons ⟨rfl, rfl⟩ (.cons ⟨rfl, rfl⟩ (.cons ⟨rfl, rfl⟩ .nil))

/-- A control without a share has the points that are left over, and with them the hash minus one. -/
theorem assigns_uneven_plan :
    ∃ chosen : Nat → String,
      (∀ hash : Int, Assigns { state := .null } (applicant unevenShares) hash
        (chosen (hash % 100).toNat)) ∧
      pointsOf chosen "variant_b" = Finset.Ico 0 28 ∧ pointsOf chosen "variant_a" = Finset.Ico 28 59 ∧
      pointsOf chosen "control" = Finset.Ico 59 100 ∧
      Assigns { state := .null } (applicant unevenShares) (-1) "control" := by
  obtain ⟨chosen, hassigns, hpoints, -, -⟩ := assigns_plan_blocks
    (isUndecided_applicant unevenShares) isPlan_unevenShares (by decide) (by decide) { state := .null }
  have hcontrol : pointsOf chosen "control" = Finset.Ico 59 100 := (hpoints 1 _ _ rfl).2.2
  have hlast : 99 ∈ pointsOf chosen "control" := by
    rw [hcontrol]
    decide
  refine ⟨chosen, hassigns, (hpoints 0 _ _ rfl).2.2, (hpoints 2 _ _ rfl).2.2, hcontrol, ?_⟩
  rw [← (Finset.mem_filter.1 hlast).2]
  exact hassigns (-1)

end Experiment

end Workgraph
