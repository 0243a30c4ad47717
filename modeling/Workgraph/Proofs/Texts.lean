import Workgraph.Proofs.Steps
import Workgraph.Workflows.Pipeline

/-!
# Records of texts

How the fields of a record of texts are found and read, also when other fields have been set since. A
numeral that cannot be read is always reported as unreadable, which is what the checks of such
records rely on.
-/

namespace Workgraph

theorem ok_bind (a : α) (next : α → Except Fault β) : (Except.ok a >>= next) = next a := rfl

theorem mapM_map_of_ok {f : β → Except Fault γ} {g : α → β} {h : α → γ}
    (hf : ∀ x, f (g x) = .ok (h x)) (xs : List α) : (xs.map g).mapM f = .ok (xs.map h) := by
  have hpure : f ∘ g = fun x => pure (h x) := funext hf
  rw [List.mapM_map, hpure, List.mapM_pure]
  rfl

namespace Text

theorem occurs_singleton_iff (c : Char) (s : List Char) : occurs [c] s = true ↔ c ∈ s := by
  induction s with
  | nil => simp [occurs]
  | cons first rest ih => simp [occurs, ih, List.isPrefixOf]

end Text

namespace Numeral

theorem isUnreadable_of_readInt {s : String} {fault : Fault} (h : readInt s = .error fault) :
    fault.isUnreadable = true := by
  unfold readInt at h
  dsimp only at h
  split at h
  · cases h
    rfl
  · split at h
    · cases h
      rfl
    · split at h
      · cases h
        rfl
      · cases h

theorem eq_notADecimal_of_readFloat {s : String} {fault : Fault} (h : readFloat s = .error fault) :
    fault = .notADecimal s := by
  unfold readFloat at h
  dsimp only at h
  split at h
  · cases h
    rfl
  · split at h
    · cases h
    · split at h
      · cases h
      · split at h
        · cases h
        · cases h
          rfl

/-- What is wrong with a text that has to be a numeral of a number that is not negative. -/
def decimalComplaint (negative unreadable s : String) : Option String :=
  match readFloat s with
  | .ok x => if x < 0 then some negative else none
  | .error _ => some unreadable

/-- A check that reads a text and keeps back the fault of an unreadable one has a complaint instead. -/
theorem decimal_check_eq (negative unreadable s : String) :
    (match (Value.text s).toFloat with
      | .ok x => .ok (if x < 0 then [negative] else [])
      | .error fault => if fault.isUnreadable then .ok [unreadable] else .error fault) =
      (.ok (decimalComplaint negative unreadable s).toList : Except Fault (List String)) := by
  simp only [decimalComplaint, Value.toFloat]
  cases hread : readFloat s with
  | error fault =>
      have hfault := eq_notADecimal_of_readFloat hread
      simp [hfault, Fault.isUnreadable]
  | ok x =>
      dsimp only
      split <;> rfl

theorem exists_readFloat_of_decimalComplaint {negative unreadable s : String}
    (h : decimalComplaint negative unreadable s = none) : ∃ x, readFloat s = .ok x := by
  unfold decimalComplaint at h
  cases hread : readFloat s with
  | ok x => exact ⟨x, rfl⟩
  | error fault =>
      rw [hread] at h
      cases h

end Numeral

namespace Pipeline

abbrev Texts := List (String × String)

def textFields (entries : Texts) : Fields := entries.map fun entry => (entry.1, .text entry.2)

variable {entries : Texts} {key s : String}

theorem textRecord_eq (entries : Texts) : textRecord entries = .record (textFields entries) := rfl

theorem get?_textFields (entries : Texts) (key : String) :
    Fields.get? key (textFields entries) = (entries.lookup key).map .text := by
  induction entries with
  | nil => rfl
  | cons entry rest ih =>
      have hcons : textFields (entry :: rest) = (entry.1, .text entry.2) :: textFields rest := rfl
      rw [hcons, Fields.get?_cons, List.lookup_cons, ih]
      by_cases hkey : entry.1 = key
      · simp [hkey]
      · have hbeq : (key == entry.1) = false := beq_eq_false_iff_ne.2 (Ne.symm hkey)
        simp [hkey, hbeq]

theorem isIn_record (key : String) (fields : Fields) :
    (Value.text key).isIn (.record fields) = .ok (Fields.get? key fields).isSome := rfl

theorem isIn_textRecord (key : String) (entries : Texts) :
    (Value.text key).isIn (textRecord entries) = .ok (entries.lookup key).isSome := by
  rw [textRecord_eq, isIn_record, get?_textFields, Option.isSome_map]

theorem field_textRecord (h : entries.lookup key = some s) :
    (textRecord entries).field key = .ok (.text s) := by
  simp only [textRecord_eq, Value.field, get?_textFields, h, Option.map_some]

/-- Under some names the fields still are the texts of a record. -/
def Holds (entries : Texts) (names : List String) (fields : Fields) : Prop :=
  ∀ key ∈ names, Fields.get? key fields = (entries.lookup key).map .text

theorem holds_textFields (entries : Texts) (names : List String) :
    Holds entries names (textFields entries) :=
  fun key _ => get?_textFields entries key

namespace Holds

variable {names : List String} {fields : Fields}

theorem set (h : Holds entries names fields) (hkey : key ∉ names) (value : Value) :
    Holds entries names (Fields.set key value fields) := by
  intro name hname
  rw [Fields.get?_set_of_mem hkey hname]
  exact h name hname

theorem tail (h : Holds entries (key :: names) fields) : Holds entries names fields :=
  fun name hname => h name (List.mem_cons_of_mem _ hname)

theorem isIn (h : Holds entries (key :: names) fields) :
    (Value.text key).isIn (.record fields) = .ok (entries.lookup key).isSome := by
  rw [isIn_record, h key List.mem_cons_self, Option.isSome_map]

theorem field (h : Holds entries (key :: names) fields) (hkey : entries.lookup key = some s) :
    (Value.record fields).field key = .ok (.text s) := by
  simp only [Value.field, h key List.mem_cons_self, hkey, Option.map_some]

end Holds

end Pipeline

end Workgraph
