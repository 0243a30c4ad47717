import Mathlib.Data.List.Perm.Subperm
import Workgraph.Proofs.Numbers
import Workgraph.Proofs.Steps

/-!
# Equality of values without doubles

For values without doubles equality can be said without an order of the fields: lists are equal position by
position, and records are equal when they have the same fields with equal values. The check of
equality, which goes through the fields of one record and counts those of the other, decides this relation.
-/

namespace Workgraph

namespace Fields

variable {fields : Fields} {key : String} {x : Value}

theorem mem_of_get? (h : get? key fields = some x) : (key, x) ∈ fields := by
  induction fields with
  | nil => cases h
  | cons entry rest ih =>
      rw [get?_cons] at h
      split at h <;> rename_i hkey
      · cases h
        rw [← hkey]
        exact List.mem_cons_self
      · exact List.mem_cons_of_mem _ (ih h)

theorem get?_of_mem (hkeys : (fields.map Prod.fst).Nodup) (h : (key, x) ∈ fields) :
    get? key fields = some x := by
  induction fields with
  | nil => cases h
  | cons entry rest ih =>
      rw [List.map_cons, List.nodup_cons] at hkeys
      rw [get?_cons]
      rcases List.mem_cons.1 h with rfl | hrest
      · rw [if_pos rfl]
      · have hne : entry.1 ≠ key := by
          intro heq
          exact hkeys.1 (heq ▸ List.mem_map_of_mem hrest)
        rw [if_neg hne, ih hkeys.2 hrest]

theorem isSome_get?_iff : (get? key fields).isSome ↔ key ∈ fields.map Prod.fst := by
  induction fields with
  | nil => simp
  | cons entry rest ih =>
      rw [get?_cons, List.map_cons, List.mem_cons]
      split <;> rename_i hkey
      · simp [hkey]
      · rw [ih]
        simp [Ne.symm hkey]

end Fields

namespace Value

/-- A value without doubles whose records have no field twice. -/
inductive IsPlain : Value → Prop
  | null : IsPlain .null
  | bool (b : Bool) : IsPlain (.bool b)
  | int (n : Int) : IsPlain (.int n)
  | text (s : String) : IsPlain (.text s)
  | list {items : List Value} (h : ∀ x ∈ items, IsPlain x) : IsPlain (.list items)
  | record {fields : Fields} (hkeys : (fields.map Prod.fst).Nodup)
      (h : ∀ entry ∈ fields, IsPlain entry.2) : IsPlain (.record fields)

attribute [simp] IsPlain.null IsPlain.bool IsPlain.int IsPlain.text

@[simp]
theorem isPlain_list_iff {items : List Value} :
    IsPlain (.list items) ↔ ∀ x ∈ items, IsPlain x := by
  constructor
  · rintro ⟨⟩
    assumption
  · exact .list

@[simp]
theorem isPlain_record_iff {fields : Fields} : IsPlain (.record fields) ↔
    (fields.map Prod.fst).Nodup ∧ ∀ entry ∈ fields, IsPlain entry.2 := by
  constructor
  · rintro ⟨⟩
    constructor <;> assumption
  · rintro ⟨hkeys, h⟩
    exact .record hkeys h

/-- Equality, with truth values counted as integers and without regard to the order of fields. -/
inductive Equal : Value → Value → Prop
  | null : Equal .null .null
  | whole {v w : Value} {n : Int} (hv : v.whole? = some n) (hw : w.whole? = some n) : Equal v w
  | text (s : String) : Equal (.text s) (.text s)
  | list {xs ys : List Value} (hlength : xs.length = ys.length)
      (h : ∀ (position : Nat) x y, xs[position]? = some x → ys[position]? = some y → Equal x y) :
      Equal (.list xs) (.list ys)
  | record {xs ys : Fields}
      (hkeys : ∀ key, (Fields.get? key xs).isSome ↔ (Fields.get? key ys).isSome)
      (h : ∀ key x y, Fields.get? key xs = some x → Fields.get? key ys = some y → Equal x y) :
      Equal (.record xs) (.record ys)

private theorem equal_list_iff {xs ys : List Value} : Equal (.list xs) (.list ys) ↔
    xs.length = ys.length ∧
      ∀ (position : Nat) x y, xs[position]? = some x → ys[position]? = some y → Equal x y := by
  constructor
  · intro h
    cases h with
    | whole hv => cases hv
    | list hlength hitems => exact ⟨hlength, hitems⟩
  · rintro ⟨hlength, hitems⟩
    exact .list hlength hitems

theorem equal_record_iff {xs ys : Fields} : Equal (.record xs) (.record ys) ↔
    (∀ key, (Fields.get? key xs).isSome ↔ (Fields.get? key ys).isSome) ∧
      ∀ key x y, Fields.get? key xs = some x → Fields.get? key ys = some y → Equal x y := by
  constructor
  · intro h
    cases h with
    | whole hv => cases hv
    | record hkeys hvalues => exact ⟨hkeys, hvalues⟩
  · rintro ⟨hkeys, hvalues⟩
    exact .record hkeys hvalues

private theorem equal_iff_of_whole? {v w : Value} {n : Int} (hv : v.whole? = some n) :
    Equal v w ↔ w.whole? = some n := by
  constructor
  · intro h
    cases h with
    | whole hv' hw =>
        rw [hv] at hv'
        exact hv' ▸ hw
    | _ => cases hv
  · exact .whole hv

theorem sameItems_iff {xs ys : List Value} : sameItems xs ys = true ↔
    xs.length = ys.length ∧
      ∀ (position : Nat) x y, xs[position]? = some x → ys[position]? = some y → same x y = true := by
  induction xs generalizing ys with
  | nil => cases ys <;> simp [sameItems]
  | cons x xs ih =>
      cases ys with
      | nil => simp [sameItems]
      | cons y ys =>
          rw [sameItems, Bool.and_eq_true, ih]
          constructor
          · rintro ⟨hfirst, hlength, hrest⟩
            refine ⟨by simpa using hlength, ?_⟩
            intro position a b ha hb
            cases position with
            | zero =>
                cases ha
                cases hb
                exact hfirst
            | succ position => exact hrest position a b (by simpa using ha) (by simpa using hb)
          · rintro ⟨hlength, hall⟩
            refine ⟨hall 0 x y rfl rfl, by simpa using hlength, ?_⟩
            intro position a b ha hb
            exact hall (position + 1) a b (by simpa using ha) (by simpa using hb)

private theorem sameFields_iff {xs ys : Fields} : sameFields xs ys = true ↔
    ∀ key x, (key, x) ∈ xs → ∃ y, Fields.get? key ys = some y ∧ same x y = true := by
  induction xs with
  | nil => simp [sameFields]
  | cons entry rest ih =>
      obtain ⟨key, x⟩ := entry
      rw [sameFields, Bool.and_eq_true, ih]
      constructor
      · rintro ⟨hfirst, hrest⟩ other a hmem
        rcases List.mem_cons.1 hmem with heq | hmem
        · cases heq
          cases hget : Fields.get? key ys with
          | none => simp [hget] at hfirst
          | some y => exact ⟨y, rfl, by simpa [hget] using hfirst⟩
        · exact hrest other a hmem
      · intro hall
        obtain ⟨y, hget, hsame⟩ := hall key x List.mem_cons_self
        refine ⟨by simpa [hget] using hsame, ?_⟩
        intro other a hmem
        exact hall other a (List.mem_cons_of_mem _ hmem)

private theorem mem_keys_iff_of_subset {xs ys : Fields} (hxs : (xs.map Prod.fst).Nodup)
    (hlength : xs.length = ys.length) (hsub : xs.map Prod.fst ⊆ ys.map Prod.fst) (key : String) :
    key ∈ xs.map Prod.fst ↔ key ∈ ys.map Prod.fst := by
  have hperm : (xs.map Prod.fst).Perm (ys.map Prod.fst) :=
    (List.subperm_of_subset hxs hsub).perm_of_length_le (by simp [hlength])
  exact hperm.mem_iff

private theorem length_eq_of_mem_keys_iff {xs ys : Fields} (hxs : (xs.map Prod.fst).Nodup)
    (hys : (ys.map Prod.fst).Nodup)
    (h : ∀ key, key ∈ xs.map Prod.fst ↔ key ∈ ys.map Prod.fst) : xs.length = ys.length := by
  have hperm : (xs.map Prod.fst).Perm (ys.map Prod.fst) :=
    (List.perm_ext_iff_of_nodup hxs hys).2 h
  simpa using hperm.length_eq

private theorem same_record_iff {xs ys : Fields} (hxs : (xs.map Prod.fst).Nodup)
    (hys : (ys.map Prod.fst).Nodup)
    (hvalues : ∀ key x y, (key, x) ∈ xs → (key, y) ∈ ys → (same x y = true ↔ Equal x y)) :
    same (.record xs) (.record ys) = true ↔ Equal (.record xs) (.record ys) := by
  rw [same, Bool.and_eq_true, beq_iff_eq, sameFields_iff, equal_record_iff]
  simp only [Fields.isSome_get?_iff]
  constructor
  · rintro ⟨hlength, hfields⟩
    have hsub : xs.map Prod.fst ⊆ ys.map Prod.fst := by
      intro key hkey
      obtain ⟨⟨_, x⟩, hmem, rfl⟩ := List.mem_map.1 hkey
      obtain ⟨y, hget, -⟩ := hfields _ x hmem
      exact Fields.isSome_get?_iff.1 (by simp [hget])
    refine ⟨mem_keys_iff_of_subset hxs hlength hsub, ?_⟩
    intro key x y hx hy
    have hmem := Fields.mem_of_get? hx
    obtain ⟨y', hget, hsame⟩ := hfields key x hmem
    rw [hy] at hget
    cases hget
    exact (hvalues key x y hmem (Fields.mem_of_get? hy)).1 hsame
  · rintro ⟨hkeys, hequal⟩
    refine ⟨length_eq_of_mem_keys_iff hxs hys hkeys, ?_⟩
    intro key x hmem
    have hkey : key ∈ ys.map Prod.fst := (hkeys key).1 (List.mem_map_of_mem hmem)
    obtain ⟨y, hy⟩ := Option.isSome_iff_exists.1 (Fields.isSome_get?_iff.2 hkey)
    refine ⟨y, hy, (hvalues key x y hmem (Fields.mem_of_get? hy)).2 ?_⟩
    exact hequal key x y (Fields.get?_of_mem hxs hmem) hy

theorem same_iff_equal_of_whole? {v w : Value} {n : Int} (hv : v.whole? = some n)
    (hw : w.IsPlain) : same v w = true ↔ Equal v w := by
  have hnumber := number?_of_whole? hv
  rw [equal_iff_of_whole? hv]
  cases hw with
  | bool b =>
      rw [same_of_whole? hv (w := .bool b) rfl]
      simp [whole?, eq_comm]
  | int m =>
      rw [same_of_whole? hv (w := .int m) rfl]
      simp [whole?, eq_comm]
  | null | text | list | record =>
      cases v <;> simp_all [whole?, same, sameAsNumber, number?]

/-- Equality of plain values is decided, by induction on how the first one is built. -/
theorem same_iff_equal {v w : Value} (hv : v.IsPlain) (hw : w.IsPlain) :
    same v w = true ↔ Equal v w := by
  induction hv generalizing w with
  | bool b => exact same_iff_equal_of_whole? rfl hw
  | int n => exact same_iff_equal_of_whole? rfl hw
  | null =>
      cases hw with
      | null => exact iff_of_true rfl .null
      | bool | int | text | list | record =>
          refine iff_of_false (by simp [same]) ?_
          intro h
          cases h with
          | whole hnull => cases hnull
  | text s =>
      cases hw with
      | text t =>
          rw [same_text, beq_iff_eq]
          constructor
          · rintro rfl
            exact .text s
          · intro h
            cases h with
            | text => rfl
            | whole htext => cases htext
      | null | bool | int | list | record =>
          refine iff_of_false (by simp [same]) ?_
          intro h
          cases h with
          | whole htext => cases htext
  | list hitems ih =>
      cases hw with
      | list hothers =>
          rw [same, sameItems_iff, equal_list_iff]
          have hiff (x y : Value) (position : Nat) (hx : _[position]? = some x)
              (hy : _[position]? = some y) : same x y = true ↔ Equal x y :=
            ih x (List.mem_of_getElem? hx) (hothers y (List.mem_of_getElem? hy))
          constructor
          · rintro ⟨hlength, h⟩
            exact ⟨hlength, fun i x y hx hy => (hiff x y i hx hy).1 (h i x y hx hy)⟩
          · rintro ⟨hlength, h⟩
            exact ⟨hlength, fun i x y hx hy => (hiff x y i hx hy).2 (h i x y hx hy)⟩
      | null | bool | int | text | record =>
          refine iff_of_false (by simp [same]) ?_
          intro h
          cases h with
          | whole hlist => cases hlist
  | record hkeys hfields ih =>
      cases hw with
      | record hkeys' hothers =>
          apply same_record_iff hkeys hkeys'
          intro key x y hx hy
          exact ih (key, x) hx (hothers (key, y) hy)
      | null | bool | int | text | list =>
          refine iff_of_false (by simp [same]) ?_
          intro h
          cases h with
          | whole hrecord => cases hrecord

end Value

end Workgraph
