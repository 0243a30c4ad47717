import Workgraph.Proofs.Comparison

/-!
# Numbers inside lists and records

The tolerance of a comparison is applied where a field itself is a number. Numbers that stand inside lists or
records, at whatever depth, have to be equal. So the depth makes no difference exactly for numbers that are
equal and not farther apart than the tolerance, or unequal and farther apart.
-/

namespace Workgraph.Comparison

/-- What may stand around a value: a list with this one item, or a record with this one field. -/
inductive Level where
  | item
  | entry (name : String)

def Level.around : Level → Value → Value
  | .item, v => .list [v]
  | .entry name, v => .record [(name, v)]

/-- A value inside some levels, the first of which is the outermost. -/
def nested (levels : List Level) (v : Value) : Value := levels.foldr Level.around v

def verdict (left right tolerance : Value) : Except Fault Bool :=
  (difference left right tolerance).map Option.isNone

/-- Whether two states agree that have one field, with a value inside some levels. -/
def verdictInside (levels : List Level) (key : String) (v w tolerance : Value) : Except Fault Bool :=
  verdict (.record [(key, nested levels v)]) (.record [(key, nested levels w)]) tolerance

theorem same_nested (levels : List Level) (v w : Value) :
    (nested levels v).same (nested levels w) = v.same w := by
  induction levels with
  | nil => rfl
  | cons level levels ih =>
      rw [← ih]
      cases level with
      | item => simp [nested, Level.around, Value.same, Value.sameItems]
      | entry name => simp [nested, Level.around, Value.same, Value.sameFields, Fields.get?]

theorem isWritable_nested (levels : List Level) (v : Value) :
    (nested levels v).isWritable = v.isWritable := by
  induction levels with
  | nil => rfl
  | cons level levels ih =>
      rw [← ih]
      cases level with
      | item => simp [nested, Level.around, Value.isWritable, Value.areWritable]
      | entry name => simp [nested, Level.around, Value.isWritable, Value.haveWritable]

/-- The answer when two values are found to differ: that they do, if they can be shown. -/
def refusal (v w : Value) : Except Fault Bool :=
  if v.isWritable && w.isWritable then .ok false else .error (.tooManyDigits none)

theorem refusal_nested (levels : List Level) (v w : Value) :
    refusal (nested levels v) (nested levels w) = refusal v w := by
  rw [refusal, isWritable_nested, isWritable_nested, refusal]

def answer : Option Contrast → Except Fault Bool
  | none => .ok true
  | some contrast => contrast.message.map fun _ => false

theorem answer_of_shown {contrast : Contrast} {v w : Value} (h : contrast.shown = [v, w]) :
    answer (some contrast) = refusal v w := by
  have hunequal (lead : String) : (Contrast.unequal lead v w).map (fun _ => false) = refusal v w := by
    rw [Contrast.unequal_eq, refusal]
    split <;> rfl
  cases contrast with
  | keys | length => cases h
  | number | item | value =>
      cases h
      exact hunequal _

private theorem verdict_eq (left right tolerance : Value) :
    verdict left right tolerance = contrast left right tolerance >>= answer := by
  rw [verdict]
  cases hcontrast : contrast left right tolerance with
  | error fault =>
      rw [difference_of_contrast_error hcontrast]
      rfl
  | ok found =>
      cases found with
      | none =>
          rw [difference_of_contrast_none hcontrast]
          rfl
      | some found =>
          rw [difference_of_contrast_some hcontrast]
          change _ = found.message.map fun _ => false
          cases found.message <;> rfl

theorem verdict_field (key : String) (v w tolerance : Value) :
    verdict (.record [(key, v)]) (.record [(key, w)]) tolerance =
      valueContrast tolerance key v w >>= answer := by
  have hkeys : sameMembers (keys [(key, v)]) (keys [(key, w)]) = true := by
    simp [sameMembers, keys]
  rw [verdict_eq, contrast_record, if_pos hkeys, fieldContrast]
  cases hvalue : valueContrast tolerance key v w with
  | error fault => simp [Value.field, Fields.get?, hvalue, bind, Except.bind]
  | ok found =>
      cases found <;>
        simp [Value.field, Fields.get?, hvalue, bind, Except.bind, fieldContrast, pure, Except.pure]

section Numbers

variable {v w : Value} {a b : Number}

/-- What stands inside a level is compared as a whole, and told to differ unless it is equal. -/
theorem answer_around (level : Level) (tolerance : Value) (key : String) :
    valueContrast tolerance key (level.around v) (level.around w) >>= answer =
      if v.same w then .ok true else refusal v w := by
  cases level with
  | item =>
      have hitems : itemContrast key 0 [v] [w] = if v.same w then none else some (.item key 0 v w) := by
        rw [itemContrast]
        rfl
      change answer (itemContrast key 0 [v] [w]) = _
      rw [hitems]
      split
      · rfl
      · exact answer_of_shown rfl
  | entry name =>
      have hsame : (Value.record [(name, v)]).same (.record [(name, w)]) = v.same w :=
        same_nested [.entry name] v w
      change answer (if (Value.record [(name, v)]).same (.record [(name, w)]) then none
        else some (.value key (.record [(name, v)]) (.record [(name, w)]))) = _
      rw [hsame]
      split
      · rfl
      · rw [answer_of_shown rfl]
        exact refusal_nested [.entry name] v w

private theorem verdictInside_cons (level : Level) (levels : List Level) (key : String) (tolerance : Value)
    (hv : v.number? = some a) (hw : w.number? = some b) :
    verdictInside (level :: levels) key v w tolerance =
      if Value.sameNumber a b then .ok true else refusal v w := by
  have haround (x : Value) : nested (level :: levels) x = level.around (nested levels x) := rfl
  rw [verdictInside, verdict_field, haround, haround, answer_around, same_nested, refusal_nested,
    Value.same_of_number? hv hw]

private theorem verdictInside_nil (key : String) (tolerance : Value) (hv : v.number? = some a)
    (hw : w.number? = some b) :
    verdictInside [] key v w tolerance =
      farApart tolerance a b >>= fun apart => if apart then refusal v w else .ok true := by
  rw [verdictInside, verdict_field]
  cases hfar : farApart tolerance a b with
  | error fault => simp [nested, valueContrast, hv, hw, hfar, bind, Except.bind]
  | ok apart =>
      rw [nested, nested, List.foldr_nil, List.foldr_nil, valueContrast_of_numbers key hv hw hfar]
      cases apart with
      | true => exact answer_of_shown rfl
      | false => rfl

private theorem sub_ne_tooManyDigits (count : Option Nat) : a.sub b ≠ .error (.tooManyDigits count) := by
  have hfloat (c : Number) : c.toFloat ≠ .error (.tooManyDigits count) := by
    unfold Number.toFloat
    split
    · split <;> simp
    · simp
  unfold Number.sub Number.combine
  split
  · simp
  · have ha := hfloat a
    have hb := hfloat b
    cases hleft : a.toFloat with
    | error fault => simpa [hleft, bind, Except.bind] using ha
    | ok x =>
        cases hright : b.toFloat with
        | error fault => simpa [hleft, hright, bind, Except.bind] using hb
        | ok y => simp [bind, Except.bind, pure, Except.pure]

private theorem greater_ne_tooManyDigits (d : Number) (tolerance : Value) (count : Option Nat) :
    (Value.ofNumber d).greater tolerance ≠ .error (.tooManyDigits count) := by
  have horder : tolerance.order (.ofNumber d) ≠ .error (.tooManyDigits count) := by
    cases tolerance <;> cases d <;> simp [Value.order, Value.orderNumber, Value.ofNumber, Value.number?]
  unfold Value.greater Value.less
  cases h : tolerance.order (.ofNumber d) with
  | error fault => simpa [h, bind, Except.bind] using horder
  | ok found => simp [bind, Except.bind, pure, Except.pure]

/-- A number inside lists and records is compared as one in a field exactly if the two numbers have a
difference and it is above the tolerance just when they are unequal. -/
theorem verdictInside_cons_eq_iff (level : Level) (levels : List Level) (key : String)
    (tolerance : Value) (hv : v.number? = some a) (hw : w.number? = some b) :
    verdictInside (level :: levels) key v w tolerance = verdictInside [] key v w tolerance ↔
      ∃ d, a.sub b = .ok d ∧
        (Value.ofNumber d.abs).greater tolerance = .ok (!Value.sameNumber a b) := by
  rw [verdictInside_cons level levels key tolerance hv hw, verdictInside_nil key tolerance hv hw, farApart]
  -- a difference without a value is a fault of its own, which no refusal is
  have hfault {fault : Fault} (hdigits : fault ≠ .tooManyDigits none) :
      (if Value.sameNumber a b then .ok true else refusal v w) ≠ .error fault := by
    unfold refusal
    split
    · simp
    · split <;> simp [hdigits.symm]
  cases hsub : a.sub b with
  | error fault =>
      have hdigits : fault ≠ .tooManyDigits none := by
        rintro rfl
        exact sub_ne_tooManyDigits none hsub
      simpa [bind, Except.bind] using hfault hdigits
  | ok d =>
      simp only [bind, Except.bind, Except.ok.injEq, exists_eq_left']
      cases hgreater : (Value.ofNumber d.abs).greater tolerance with
      | error fault =>
          have hdigits : fault ≠ .tooManyDigits none := by
            rintro rfl
            exact greater_ne_tooManyDigits d.abs tolerance none hgreater
          simpa using hfault hdigits
      | ok apart =>
          have hrefusal : refusal v w ≠ .ok true := by
            unfold refusal
            split <;> simp
          cases apart <;> cases Value.sameNumber a b <;> simp [hrefusal, hrefusal.symm]

end Numbers

theorem verdictInside_truth :
    verdictInside [.item, .entry "x"] "total" (.bool true) (.float 1.5) standardTolerance =
      verdictInside [] "total" (.bool true) (.float 1.5) standardTolerance :=
  (verdictInside_cons_eq_iff .item [.entry "x"] "total" standardTolerance rfl rfl).2
    ⟨.float (1 - 1.5), rfl, rfl⟩

/-- Two sums that differ by a rounding agree in a field, but neither in a list nor in a record. -/
theorem verdictInside_rounded_sums :
    verdictInside [] "total" (.float 0.3) (.float (0.1 + 0.2)) standardTolerance = .ok true ∧
    verdictInside [.item] "total" (.float 0.3) (.float (0.1 + 0.2)) standardTolerance = .ok false ∧
    verdictInside [.entry "x"] "total" (.float 0.3) (.float (0.1 + 0.2)) standardTolerance = .ok false :=
  ⟨rfl, rfl, rfl⟩

end Workgraph.Comparison
