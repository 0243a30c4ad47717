import Workgraph.Comparison
import Workgraph.Proofs.Doubles
import Workgraph.Proofs.Equality
import Workgraph.Proofs.Rendering

/-!
# What the comparison of states accepts

No difference is found exactly when two states have the same fields and none of their values differ. On states
without doubles, and with a tolerance below one, this is equality.
-/

namespace Workgraph

namespace Comparison

theorem sameMembers_iff {xs ys : List String} :
    sameMembers xs ys = true ↔ ∀ key, key ∈ xs ↔ key ∈ ys := by
  simp only [sameMembers, Bool.and_eq_true, List.all_eq_true, List.contains_iff_mem]
  exact ⟨fun h key => ⟨h.1 key, h.2 key⟩, fun h => ⟨fun key => (h key).1, fun key => (h key).2⟩⟩

section Values

variable {tolerance : Value} {key : String} {v w : Value}

private theorem itemContrast_eq_none_iff {xs ys : List Value} (hlength : xs.length = ys.length)
    (position : Nat) : itemContrast key position xs ys = none ↔ Value.sameItems xs ys = true := by
  induction xs generalizing ys position with
  | nil =>
      cases ys with
      | nil => simp [itemContrast, Value.sameItems]
      | cons y ys => simp at hlength
  | cons x xs ih =>
      cases ys with
      | nil => simp at hlength
      | cons y ys =>
          have hrest : xs.length = ys.length := by simpa using hlength
          rw [itemContrast, Value.sameItems, Bool.and_eq_true]
          split <;> rename_i hsame
          · rw [ih hrest, hsame]
            simp
          · simp [hsame]

theorem exists_valueContrast_of_not_numbers (tolerance : Value) (key : String)
    (h : v.number? = none ∨ w.number? = none) :
    ∃ found, valueContrast tolerance key v w = .ok found ∧ (found = none ↔ v.same w = true) := by
  have hother : ∃ found : Option Contrast,
      (.ok (if v.same w then none else some (.value key v w)) : Except Fault _) = .ok found ∧
      (found = none ↔ v.same w = true) := by
    refine ⟨_, rfl, ?_⟩
    split <;> simp_all
  unfold valueContrast
  split
  · simp_all
  · split
    · rename_i xs ys _
      rw [Value.same]
      split <;> rename_i hlength
      · exact ⟨_, rfl, itemContrast_eq_none_iff hlength 0⟩
      · refine ⟨_, rfl, iff_of_false (by simp) ?_⟩
        intro hsame
        exact hlength (Value.sameItems_iff.1 hsame).1
    · exact hother

theorem valueContrast_of_numbers {a b : Number} (key : String) (hv : v.number? = some a)
    (hw : w.number? = some b) {apart : Bool} (h : farApart tolerance a b = .ok apart) :
    valueContrast tolerance key v w =
      .ok (if apart then some (.number key v w) else none) := by
  unfold valueContrast
  rw [hv, hw]
  simp only [h, bind, Except.bind]
  cases apart <;> rfl

theorem farApart_int (hzero : (Value.int 0).atMost tolerance = .ok true)
    (hone : tolerance.less (.int 1) = .ok true) (m n : Int) :
    farApart tolerance (.int m) (.int n) = .ok (decide (m ≠ n)) := by
  obtain ⟨t, ht⟩ := Value.exists_number?_of_atMost rfl hzero
  have hsub : (Number.int m).sub (.int n) = .ok (.int (m - n)) := rfl
  simp only [farApart, hsub, Number.abs, bind, Except.bind, Value.ofNumber, Value.greater]
  rw [Value.less_of_number? ht rfl]
  congr 1
  -- the tolerance is not below zero, which settles equal integers, and below one, which settles others
  rw [Value.less_of_number? ht rfl] at hone
  rw [Value.atMost_of_number? rfl ht, Number.compare?_swap] at hzero
  by_cases heq : m = n
  · have hsame : (((m - n).natAbs : Nat) : Int) = 0 := by omega
    have hnot : t.compare? (.int 0) ≠ some .lt := by
      intro hlt
      rw [hlt] at hzero
      simp at hzero
    rw [hsame, decide_eq_false (not_not.2 heq)]
    exact beq_eq_false_iff_ne.2 hnot
  · have hlt : t.compare? (.int 1) = some .lt := beq_iff_eq.1 (Except.ok.inj hone)
    have hfar : t.compare? (.int (m - n).natAbs) = some .lt :=
      Number.compare?_int_lt_of_le hlt (by omega)
    rw [hfar, decide_eq_true heq]
    rfl

end Values

section States

variable {tolerance : Value} {left right : Fields}

private theorem fieldContrast_cons_eq_none_iff {key : String} {x : Value} {rest : Fields} :
    fieldContrast tolerance right ((key, x) :: rest) = .ok none ↔
      (∃ y, Fields.get? key right = some y ∧ valueContrast tolerance key x y = .ok none) ∧
        fieldContrast tolerance right rest = .ok none := by
  rw [fieldContrast]
  cases hget : Fields.get? key right with
  | none => simp [Value.field, hget, bind, Except.bind]
  | some y =>
      simp only [Value.field, hget, bind, Except.bind, Option.some_inj, exists_eq_left']
      cases hvalue : valueContrast tolerance key x y with
      | error fault => simp
      | ok found => cases found <;> simp [pure, Except.pure]

private theorem fieldContrast_eq_none_iff : fieldContrast tolerance right left = .ok none ↔
    ∀ key x, (key, x) ∈ left → ∃ y, Fields.get? key right = some y ∧
      valueContrast tolerance key x y = .ok none := by
  induction left with
  | nil => simp [fieldContrast]
  | cons entry rest ih =>
      obtain ⟨key, x⟩ := entry
      rw [fieldContrast_cons_eq_none_iff, ih]
      constructor
      · rintro ⟨hfirst, hrest⟩ other a hmem
        rcases List.mem_cons.1 hmem with heq | hmem
        · cases heq
          exact hfirst
        · exact hrest other a hmem
      · intro h
        exact ⟨h key x List.mem_cons_self,
          fun other a hmem => h other a (List.mem_cons_of_mem _ hmem)⟩

private theorem exists_fieldContrast
    (h : ∀ key x, (key, x) ∈ left → ∃ y found, Fields.get? key right = some y ∧
      valueContrast tolerance key x y = .ok found) :
    ∃ found, fieldContrast tolerance right left = .ok found := by
  induction left with
  | nil => exact ⟨none, rfl⟩
  | cons entry rest ih =>
      obtain ⟨key, x⟩ := entry
      obtain ⟨y, found, hget, hvalue⟩ := h key x List.mem_cons_self
      have hrest := ih fun key x hmem => h key x (List.mem_cons_of_mem _ hmem)
      rw [fieldContrast]
      simp only [Value.field, hget, hvalue, bind, Except.bind]
      cases found with
      | some contrast => exact ⟨_, rfl⟩
      | none => exact hrest

theorem contrast_record (left right : Fields) (tolerance : Value) :
    contrast (.record left) (.record right) tolerance =
      if sameMembers (keys left) (keys right) then fieldContrast tolerance right left
      else .ok (some (.keys (keys left) (keys right))) := by
  simp only [contrast, Value.fields, bind, Except.bind]
  rfl

theorem contrast_eq_none_iff (hleft : (keys left).Nodup) :
    contrast (.record left) (.record right) tolerance = .ok none ↔
      (∀ key, (Fields.get? key left).isSome ↔ (Fields.get? key right).isSome) ∧
      ∀ key x y, Fields.get? key left = some x → Fields.get? key right = some y →
        valueContrast tolerance key x y = .ok none := by
  have hkeys : sameMembers (keys left) (keys right) = true ↔
      ∀ key, (Fields.get? key left).isSome ↔ (Fields.get? key right).isSome := by
    simp only [sameMembers_iff, Fields.isSome_get?_iff, keys]
  rw [contrast_record, ← hkeys]
  split <;> rename_i hsame
  · rw [fieldContrast_eq_none_iff]
    refine ⟨fun h => ⟨hsame, ?_⟩, fun h key x hmem => ?_⟩
    · intro key x y hx hy
      obtain ⟨y', hy', hvalue⟩ := h key x (Fields.mem_of_get? hx)
      rw [hy] at hy'
      cases hy'
      exact hvalue
    · have hx : Fields.get? key left = some x := Fields.get?_of_mem hleft hmem
      have hsome : (Fields.get? key right).isSome := (hkeys.1 hsame key).1 (by simp [hx])
      obtain ⟨y, hy⟩ := Option.isSome_iff_exists.1 hsome
      exact ⟨y, hy, h.2 key x y hx hy⟩
  · simp [hsame]

private theorem exists_contrast (hleft : (keys left).Nodup)
    (h : ∀ key x y, Fields.get? key left = some x → Fields.get? key right = some y →
      ∃ found, valueContrast tolerance key x y = .ok found) :
    ∃ found, contrast (.record left) (.record right) tolerance = .ok found := by
  rw [contrast_record]
  split <;> rename_i hsame
  · apply exists_fieldContrast
    intro key x hmem
    have hkey : key ∈ keys right :=
      (sameMembers_iff.1 hsame key).1 (List.mem_map_of_mem hmem)
    obtain ⟨y, hy⟩ := Option.isSome_iff_exists.1 (Fields.isSome_get?_iff.2 hkey)
    obtain ⟨found, hfound⟩ := h key x y (Fields.get?_of_mem hleft hmem) hy
    exact ⟨y, found, hy, hfound⟩
  · exact ⟨_, rfl⟩

end States

namespace Contrast

/-- The values that the message about a contrast shows. -/
def shown : Contrast → List Value
  | .number _ left right | .item _ _ left right | .value _ left right => [left, right]
  | .keys _ _ | .length _ _ _ => []

theorem append_ne_empty {s : String} (t : String) (h : s ≠ "") : s ++ t ≠ "" :=
  fun heq => h (String.append_eq_empty_iff.1 heq).1

theorem unequal_eq (lead : String) (left right : Value) : unequal lead left right =
    if left.isWritable && right.isWritable then
      .ok (lead ++ left.display ++ " != " ++ right.display)
    else .error (.tooManyDigits none) := by
  unfold unequal Value.render
  cases left.isWritable <;> cases right.isWritable <;> rfl

private theorem message_cases (contrast : Contrast) :
    (∃ text, contrast.message = .ok text ∧ text ≠ "" ∧ ∀ v ∈ contrast.shown, v.isWritable = true) ∨
      contrast.message = .error (.tooManyDigits none) ∧ ∃ v ∈ contrast.shown, v.isWritable = false := by
  have hunequal {lead : String} (hlead : lead ≠ "") (left right : Value) :
      (∃ text, unequal lead left right = .ok text ∧ text ≠ "" ∧
        ∀ v ∈ [left, right], v.isWritable = true) ∨
      unequal lead left right = .error (.tooManyDigits none) ∧
        ∃ v ∈ [left, right], v.isWritable = false := by
    rw [unequal_eq]
    split <;> rename_i hboth
    · refine .inl ⟨_, rfl, ?_, ?_⟩
      · exact append_ne_empty _ (append_ne_empty _ (append_ne_empty _ hlead))
      · simpa using hboth
    · refine .inr ⟨rfl, ?_⟩
      simpa [Decidable.imp_iff_not_or] using hboth
  cases contrast with
  | keys left right =>
      refine .inl ⟨_, rfl, ?_, by simp [shown]⟩
      repeat apply append_ne_empty
      decide
  | length key left right =>
      refine .inl ⟨_, rfl, ?_, by simp [shown]⟩
      repeat apply append_ne_empty
      decide
  | number key left right =>
      exact hunequal (append_ne_empty _ (append_ne_empty _ (by decide))) left right
  | item key position left right =>
      refine hunequal ?_ left right
      repeat apply append_ne_empty
      decide
  | value key left right =>
      exact hunequal (append_ne_empty _ (append_ne_empty _ (by decide))) left right

end Contrast

section Told

variable {left right tolerance : Value}

theorem difference_of_contrast_none (h : contrast left right tolerance = .ok none) :
    difference left right tolerance = .ok none := by
  simp only [difference, h, bind, Except.bind]
  rfl

theorem difference_of_contrast_some {found : Contrast}
    (h : contrast left right tolerance = .ok (some found)) :
    difference left right tolerance =
      found.message.map fun message => some ⟨found, message⟩ := by
  simp only [difference, h, bind, Except.bind]
  cases found.message <;> rfl

theorem difference_of_contrast_error {fault : Fault}
    (h : contrast left right tolerance = .error fault) :
    difference left right tolerance = .error fault := by
  simp only [difference, h, bind, Except.bind]

theorem difference_eq_none_iff :
    difference left right tolerance = .ok none ↔ contrast left right tolerance = .ok none := by
  refine ⟨fun h => ?_, difference_of_contrast_none⟩
  cases hcontrast : contrast left right tolerance with
  | error fault =>
      rw [difference_of_contrast_error hcontrast] at h
      cases h
  | ok found =>
      cases found with
      | none => rfl
      | some found =>
          rw [difference_of_contrast_some hcontrast] at h
          cases hmessage : found.message <;> rw [hmessage] at h <;> cases h

end Told

section Plain

variable {tolerance : Value} {v w : Value}

theorem whole?_or_number?_eq_none (h : v.IsPlain) : (∃ n, v.whole? = some n) ∨ v.number? = none := by
  cases h with
  | bool b => exact .inl ⟨_, rfl⟩
  | int n => exact .inl ⟨_, rfl⟩
  | null | text | list | record => exact .inr rfl

private theorem exists_valueContrast_of_isPlain (hzero : (Value.int 0).atMost tolerance = .ok true)
    (hone : tolerance.less (.int 1) = .ok true) (key : String) (hv : v.IsPlain) (hw : w.IsPlain) :
    ∃ found, valueContrast tolerance key v w = .ok found ∧ (found = none ↔ v.Equal w) := by
  rw [← Value.same_iff_equal hv hw]
  rcases whole?_or_number?_eq_none hv with ⟨m, hm⟩ | hnone
  · rcases whole?_or_number?_eq_none hw with ⟨n, hn⟩ | hnone
    · have hvalue := valueContrast_of_numbers key (Value.number?_of_whole? hm)
        (Value.number?_of_whole? hn) (farApart_int hzero hone m n)
      refine ⟨_, hvalue, ?_⟩
      rw [Value.same_of_whole? hm hn]
      by_cases heq : m = n <;> simp [heq]
    · exact exists_valueContrast_of_not_numbers tolerance key (.inr hnone)
  · exact exists_valueContrast_of_not_numbers tolerance key (.inl hnone)

private theorem mem_of_itemContrast {key : String} {xs ys : List Value} {position : Nat} {found : Contrast}
    (h : itemContrast key position xs ys = some found) : ∀ v ∈ found.shown, v ∈ xs ∨ v ∈ ys := by
  fun_induction itemContrast key position xs ys with
  | case1 position x xs y ys hsame ih =>
      intro v hv
      exact (ih h v hv).imp (List.mem_cons_of_mem x) (List.mem_cons_of_mem y)
  | case2 position x xs y ys hsame =>
      cases h
      simp [Contrast.shown]
  | case3 => cases h

private theorem isWritable_of_valueContrast {key : String} {found : Contrast} (hv : v.isWritable = true)
    (hw : w.isWritable = true) (h : valueContrast tolerance key v w = .ok (some found)) :
    ∀ x ∈ found.shown, x.isWritable = true := by
  unfold valueContrast at h
  split at h
  · rename_i a b _ _
    cases hfar : farApart tolerance a b with
    | error fault => simp [hfar, bind, Except.bind] at h
    | ok apart =>
        cases apart <;> simp [hfar, bind, Except.bind, pure, Except.pure] at h
        subst h
        simp [Contrast.shown, hv, hw]
  · split at h
    · rename_i xs ys _
      split at h
      · have hfound := mem_of_itemContrast (Except.ok.inj h)
        intro x hx
        exact (hfound x hx).elim (Value.isWritable_list_iff.1 hv x) (Value.isWritable_list_iff.1 hw x)
      · cases h
        simp [Contrast.shown]
    · split at h <;> cases h
      simp [Contrast.shown, hv, hw]

private theorem isWritable_of_fieldContrast {left right : Fields} {found : Contrast}
    (hleft : (Value.record left).isWritable = true) (hright : (Value.record right).isWritable = true)
    (h : fieldContrast tolerance right left = .ok (some found)) :
    ∀ x ∈ found.shown, x.isWritable = true := by
  induction left with
  | nil => cases h
  | cons entry rest ih =>
      obtain ⟨key, x⟩ := entry
      rw [Value.isWritable_record_iff, List.forall_mem_cons] at hleft
      rw [fieldContrast] at h
      cases hget : Fields.get? key right with
      | none => simp [Value.field, hget, bind, Except.bind] at h
      | some y =>
          have hy := Value.isWritable_record_iff.1 hright (key, y) (Fields.mem_of_get? hget)
          simp only [Value.field, hget, bind, Except.bind] at h
          cases hvalue : valueContrast tolerance key x y with
          | error fault => simp [hvalue] at h
          | ok contrast =>
              cases contrast with
              | none =>
                  rw [hvalue] at h
                  exact ih (Value.isWritable_record_iff.2 hleft.2) h
              | some contrast =>
                  rw [hvalue] at h
                  cases h
                  exact isWritable_of_valueContrast hleft.1 hy hvalue

private theorem isWritable_of_contrast {left right : Fields} {found : Contrast}
    (hleft : (Value.record left).isWritable = true) (hright : (Value.record right).isWritable = true)
    (h : contrast (.record left) (.record right) tolerance = .ok (some found)) :
    ∀ x ∈ found.shown, x.isWritable = true := by
  rw [contrast_record] at h
  split at h
  · exact isWritable_of_fieldContrast hleft hright h
  · cases h
    simp [Contrast.shown]

/-- States without doubles have no contrast exactly when they are equal, and the search for one does not fail. -/
theorem exists_contrast_of_isPlain {left right : Fields} (hleft : (Value.record left).IsPlain)
    (hright : (Value.record right).IsPlain) (hzero : (Value.int 0).atMost tolerance = .ok true)
    (hone : tolerance.less (.int 1) = .ok true) :
    ∃ found, contrast (.record left) (.record right) tolerance = .ok found ∧
      (found = none ↔ Value.Equal (.record left) (.record right)) := by
  obtain ⟨hkeys, hvalues⟩ := Value.isPlain_record_iff.1 hleft
  obtain ⟨-, hvalues'⟩ := Value.isPlain_record_iff.1 hright
  have hplain (key : String) (x y : Value) (hx : Fields.get? key left = some x)
      (hy : Fields.get? key right = some y) := exists_valueContrast_of_isPlain hzero hone key
    (hvalues (key, x) (Fields.mem_of_get? hx)) (hvalues' (key, y) (Fields.mem_of_get? hy))
  have hagree (key : String) (x y : Value) (hx : Fields.get? key left = some x)
      (hy : Fields.get? key right = some y) :
      valueContrast tolerance key x y = .ok none ↔ x.Equal y := by
    obtain ⟨found, hfound, hiff⟩ := hplain key x y hx hy
    rw [hfound, Except.ok.injEq, hiff]
  obtain ⟨found, hfound⟩ : ∃ found,
      contrast (.record left) (.record right) tolerance = .ok found := by
    apply exists_contrast hkeys
    intro key x y hx hy
    obtain ⟨found, hfound, -⟩ := hplain key x y hx hy
    exact ⟨found, hfound⟩
  have hnone : found = none ↔
      contrast (.record left) (.record right) tolerance = .ok none := by
    rw [hfound, Except.ok.injEq]
  refine ⟨found, hfound, ?_⟩
  rw [hnone, contrast_eq_none_iff hkeys, Value.equal_record_iff]
  refine and_congr_right fun _ => ⟨fun h key x y hx hy => ?_, fun h key x y hx hy => ?_⟩
  · exact (hagree key x y hx hy).1 (h key x y hx hy)
  · exact (hagree key x y hx hy).2 (h key x y hx hy)

/-- On states without doubles no difference is found exactly when they are equal, and any that is found is told. The
only fault is that a value which the message would show has an integer of too many digits in it, so states
without such integers are compared without a fault. -/
theorem difference_eq_none_iff_equal {left right : Fields} (hleft : (Value.record left).IsPlain)
    (hright : (Value.record right).IsPlain) (hzero : (Value.int 0).atMost tolerance = .ok true)
    (hone : tolerance.less (.int 1) = .ok true) :
    (difference (.record left) (.record right) tolerance = .ok none ↔
      Value.Equal (.record left) (.record right)) ∧
    (∀ found, difference (.record left) (.record right) tolerance = .ok (some found) →
      found.message ≠ "") ∧
    (∀ fault, difference (.record left) (.record right) tolerance = .error fault ↔
      fault = .tooManyDigits none ∧
        ∃ found, contrast (.record left) (.record right) tolerance = .ok (some found) ∧
          ∃ v ∈ found.shown, v.isWritable = false) ∧
    ((Value.record left).isWritable = true → (Value.record right).isWritable = true →
      ∃ found, difference (.record left) (.record right) tolerance = .ok found) := by
  obtain ⟨found, hfound, hiff⟩ := exists_contrast_of_isPlain hleft hright hzero hone
  rw [difference_eq_none_iff, hfound, Except.ok.injEq, hiff]
  refine ⟨Iff.rfl, ?_⟩
  cases found with
  | none =>
      rw [difference_of_contrast_none hfound]
      exact ⟨nofun, by simp, fun _ _ => ⟨none, rfl⟩⟩
  | some found =>
      rw [difference_of_contrast_some hfound]
      obtain ⟨text, htext, hne, hshown⟩ | ⟨hfault, v, hv, hlong⟩ := found.message_cases
      · rw [htext]
        refine ⟨?_, ?_, fun _ _ => ⟨_, rfl⟩⟩
        · rintro difference ⟨⟩
          exact hne
        · simpa [Except.map] using hshown
      · rw [hfault]
        refine ⟨nofun, ?_, ?_⟩
        · intro fault
          simp only [Except.map, Except.error.injEq, Except.ok.injEq, Option.some.injEq, exists_eq_left',
            eq_comm (a := Fault.tooManyDigits none)]
          exact ⟨fun h => ⟨h, v, hv, hlong⟩, fun h => h.1⟩
        · intro hwritable hwritable'
          rw [isWritable_of_contrast hwritable hwritable' hfound v hv] at hlong
          cases hlong

end Plain

/-- An integer that is too long is found to differ from zero, but the difference cannot be told. -/
theorem difference_of_not_isWritable {tolerance : Value} {n : Int}
    (hzero : (Value.int 0).atMost tolerance = .ok true) (hone : tolerance.less (.int 1) = .ok true)
    (hlong : (Value.int n).isWritable = false) (hne : n ≠ 0) :
    difference (.record [("x", .int n)]) (.record [("x", .int 0)]) tolerance =
      .error (.tooManyDigits none) := by
  have hkeys : sameMembers (keys [("x", .int n)]) (keys [("x", .int 0)]) = true := rfl
  have hfar := farApart_int hzero hone n 0
  rw [decide_eq_true hne] at hfar
  have hvalue : valueContrast tolerance "x" (.int n) (.int 0) =
      .ok (some (.number "x" (.int n) (.int 0))) := valueContrast_of_numbers "x" rfl rfl hfar
  have hcontrast : contrast (.record [("x", .int n)]) (.record [("x", .int 0)]) tolerance =
      .ok (some (.number "x" (.int n) (.int 0))) := by
    rw [contrast_record, if_pos hkeys, fieldContrast]
    simp only [Value.field, Fields.get?, if_true, bind, Except.bind, hvalue]
    rfl
  rw [difference_of_contrast_some hcontrast, Contrast.message, Contrast.unequal_eq, hlong]
  rfl

theorem difference_leastUnwritable :
    (Value.record [("x", .int Value.leastUnwritable)]).IsPlain ∧ (Value.record [("x", .int 0)]).IsPlain ∧
    (Value.int 0).atMost (.float 0.5) = .ok true ∧ (Value.float 0.5).less (.int 1) = .ok true ∧
    difference (.record [("x", .int Value.leastUnwritable)]) (.record [("x", .int 0)]) (.float 0.5) =
      .error (.tooManyDigits none) := by
  have hne : (Value.leastUnwritable : Int) ≠ 0 :=
    Int.natCast_ne_zero.2 (Nat.ne_of_gt Value.leastUnwritable_pos)
  refine ⟨by simp, by simp, rfl, rfl, ?_⟩
  exact difference_of_not_isWritable rfl rfl Value.isWritable_leastUnwritable hne

def draft : Fields := [
  ("tags", .list [.int 1, .record [("seen", .null), ("rank", .bool true)]]), ("total", .int 3)]

/-- The same state with its fields in another order, and with one and true for each other. -/
def redraft : Fields := [
  ("total", .int 3), ("tags", .list [.bool true, .record [("rank", .int 1), ("seen", .null)]])]

theorem isPlain_draft : (Value.record draft).IsPlain := by
  simp [draft]

theorem isPlain_redraft : (Value.record redraft).IsPlain := by
  simp [redraft]

theorem difference_draft_redraft :
    difference (.record draft) (.record redraft) standardTolerance = .ok none := by
  obtain ⟨hiff, -⟩ :=
    difference_eq_none_iff_equal isPlain_draft isPlain_redraft
      (show (Value.int 0).atMost standardTolerance = .ok true from rfl) rfl
  exact hiff.2 ((Value.same_iff_equal isPlain_draft isPlain_redraft).1 rfl)

section Tolerance

variable {tolerance : Value}

private theorem less_eq_false_iff (hzero : (Value.int 0).atMost tolerance = .ok true) (d : Number) :
    tolerance.less (.ofNumber d) = .ok false ↔
      (Value.ofNumber d).atMost tolerance = .ok true ∨ d.reading = .nan := by
  obtain ⟨t, ht⟩ := Value.exists_number?_of_atMost rfl hzero
  have hd : (Value.ofNumber d).number? = some d := by cases d <;> rfl
  have hproper : t.reading ≠ .nan := by
    intro hnan
    rw [Value.atMost_of_number? rfl ht, Number.compare?, hnan] at hzero
    simp at hzero
  rw [Value.less_of_number? ht hd, Value.atMost_of_number? hd ht, Number.compare?_swap t d]
  by_cases hnan : d.reading = .nan
  · simp [Number.compare?, hnan]
  · obtain ⟨order, horder⟩ := Option.isSome_iff_exists.1 (Reading.compare?_isSome hproper hnan)
    have hcompare : t.compare? d = some order := horder
    rw [hcompare]
    cases order <;> simp [hnan]

private theorem farApart_eq_false_iff (hzero : (Value.int 0).atMost tolerance = .ok true) (a b : Number) :
    farApart tolerance a b = .ok false ↔ ∃ d, a.sub b = .ok d ∧
      ((Value.ofNumber d.abs).atMost tolerance = .ok true ∨ a.reading = .nan ∨ b.reading = .nan ∨
        ∃ s, a.reading = .infinite s ∧ b.reading = .infinite s) := by
  unfold farApart
  cases hsub : a.sub b with
  | error fault => simp [bind, Except.bind]
  | ok d =>
      simp only [bind, Except.bind, Value.greater, Except.ok.injEq, exists_eq_left']
      rw [less_eq_false_iff hzero, Number.reading_abs_eq_nan_iff,
        Number.reading_sub_eq_nan_iff hsub]

theorem sameNumber_iff_of_infinite {a : Number} {s : Bool} (h : a.reading = .infinite s)
    (b : Number) : Value.sameNumber a b = true ↔ b.reading = .infinite s := by
  unfold Value.sameNumber Number.compare?
  rw [h]
  cases b.reading with
  | nan => simp
  | infinite t => cases s <;> cases t <;> simp [Reading.compare?]
  | finite t n q => cases s <;> simp [Reading.compare?]

private theorem exists_infinite_iff (a b : Number) :
    (∃ s, a.reading = .infinite s ∧ b.reading = .infinite s) ↔
      (∃ s, a.reading = .infinite s) ∧ Value.sameNumber a b = true := by
  constructor
  · rintro ⟨s, ha, hb⟩
    exact ⟨⟨s, ha⟩, (sameNumber_iff_of_infinite ha b).2 hb⟩
  · rintro ⟨⟨s, ha⟩, hsame⟩
    exact ⟨s, ha, (sameNumber_iff_of_infinite ha b).1 hsame⟩

private theorem valueContrast_eq_none_iff_of_numbers {key : String} {v w : Value} {a b : Number}
    (hv : v.number? = some a) (hw : w.number? = some b) :
    valueContrast tolerance key v w = .ok none ↔ farApart tolerance a b = .ok false := by
  cases hfar : farApart tolerance a b with
  | error fault => simp [valueContrast, hv, hw, hfar, bind, Except.bind]
  | ok apart =>
      rw [valueContrast_of_numbers key hv hw hfar]
      cases apart <;> simp

private theorem valueContrast_eq_none_iff_of_not_numbers {key : String} {v w : Value}
    (h : v.number? = none ∨ w.number? = none) :
    valueContrast tolerance key v w = .ok none ↔ v.same w = true := by
  obtain ⟨found, hfound, hiff⟩ := exists_valueContrast_of_not_numbers tolerance key h
  rw [hfound, Except.ok.injEq, hiff]

theorem valueContrast_eq_none_iff {key : String} {v w : Value} :
    valueContrast tolerance key v w = .ok none ↔
      (v.number? = none ∨ w.number? = none → v.same w = true) ∧
      ∀ a b, v.number? = some a → w.number? = some b → farApart tolerance a b = .ok false := by
  by_cases hnumbers : v.number? = none ∨ w.number? = none
  · rw [valueContrast_eq_none_iff_of_not_numbers hnumbers]
    refine ⟨fun hsame => ⟨fun _ => hsame, ?_⟩, fun h => h.1 hnumbers⟩
    intro a b hv hw
    rcases hnumbers with hnone | hnone
    · rw [hv] at hnone
      cases hnone
    · rw [hw] at hnone
      cases hnone
  · rw [not_or] at hnumbers
    obtain ⟨a, hv⟩ := Option.ne_none_iff_exists'.1 hnumbers.1
    obtain ⟨b, hw⟩ := Option.ne_none_iff_exists'.1 hnumbers.2
    rw [valueContrast_eq_none_iff_of_numbers hv hw]
    simp [hv, hw]

/-- The states that are accepted. They have the same fields; values that are not both numbers are equal; and
two numbers are within the tolerance of each other, or are the same infinity, or one of them is no
number. -/
theorem difference_eq_none_iff_tolerated {left right : Fields} (hleft : (keys left).Nodup)
    (hzero : (Value.int 0).atMost tolerance = .ok true) :
    difference (.record left) (.record right) tolerance = .ok none ↔
      (∀ key, (Fields.get? key left).isSome ↔ (Fields.get? key right).isSome) ∧
      ∀ key v w, Fields.get? key left = some v → Fields.get? key right = some w →
        (v.number? = none ∨ w.number? = none → v.same w = true) ∧
        ∀ a b, v.number? = some a → w.number? = some b →
          ∃ d, a.sub b = .ok d ∧ ((Value.ofNumber d.abs).atMost tolerance = .ok true ∨
            a.reading = .nan ∨ b.reading = .nan ∨
            (∃ s, a.reading = .infinite s) ∧ Value.sameNumber a b = true) := by
  simp only [← exists_infinite_iff, ← farApart_eq_false_iff hzero]
  rw [difference_eq_none_iff, contrast_eq_none_iff hleft]
  refine and_congr_right fun _ => ⟨fun h key v w hv hw => ?_, fun h key v w hv hw => ?_⟩
  · exact valueContrast_eq_none_iff.1 (h key v w hv hw)
  · exact valueContrast_eq_none_iff.2 (h key v w hv hw)

end Tolerance

def measured : Fields := [("share", .float 0.5), ("peak", .float (1 / 0))]

def reported : Fields := [("peak", .float (1 / 0)), ("share", .float 0.50000025)]

theorem difference_measured_reported :
    ∃ d, (Number.float 0.5).sub (.float 0.50000025) = .ok d ∧
      ((Value.ofNumber d.abs).atMost standardTolerance = .ok true ∨
        (Number.float 0.5).reading = .nan ∨ (Number.float 0.50000025).reading = .nan ∨
        (∃ s, (Number.float 0.5).reading = .infinite s) ∧
          Value.sameNumber (.float 0.5) (.float 0.50000025) = true) := by
  have hkeys : (keys measured).Nodup := by decide
  have haccepted : difference (.record measured) (.record reported) standardTolerance = .ok none :=
    rfl
  have htolerated := ((difference_eq_none_iff_tolerated hkeys rfl).1 haccepted).2
  exact (htolerated "share" _ _ rfl rfl).2 _ _ rfl rfl

/-- What is no number is accepted in the place of a one. -/
theorem difference_nan_one :
    difference (.record [("x", .float (0 / 0))]) (.record [("x", .float 1)]) standardTolerance =
      .ok none ∧
    Value.sameNumber (.float (0 / 0)) (.float 1) = false ∧
    (∀ d, (Number.float (0 / 0)).sub (.float 1) = .ok d →
      (Value.ofNumber d.abs).atMost standardTolerance = .ok false) ∧
    (Number.float 1).reading ≠ .nan := by
  refine ⟨rfl, rfl, ?_, ?_⟩
  · rintro d ⟨⟩
    rfl
  · nofun

end Comparison

end Workgraph
