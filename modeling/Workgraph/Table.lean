/-!
# Tables

A table gives names a meaning. Each name stands in it once. The entries have an order, in which they are gone
through, but any order will do: the same entries in another order give the names the same meaning. In the same
way a set of names is gone through in some order.
-/

namespace Workgraph

/-- Names, each with what it stands for, in the order in which they are gone through. -/
structure Table (α : Type) where
  entries : List (String × α)
  nodup : (entries.map Prod.fst).Nodup

namespace Table

/-- Puts an entry before the first one whose name is greater. -/
def place (entry : String × α) : List (String × α) → List (String × α)
  | [] => [entry]
  | first :: rest =>
    if entry.1 < first.1 then entry :: first :: rest else first :: place entry rest

theorem place_perm (entry : String × α) (entries : List (String × α)) :
    (place entry entries).Perm (entry :: entries) := by
  induction entries with
  | nil => exact .refl _
  | cons first rest ih =>
      unfold place
      split
      · exact .refl _
      · exact (ih.cons first).trans (.swap entry first rest)

theorem nodup_place (key : String) (v : α) {entries : List (String × α)}
    (h : (entries.map Prod.fst).Nodup) :
    ((place (key, v) (entries.filter (·.1 ≠ key))).map Prod.fst).Nodup := by
  rw [((place_perm _ _).map Prod.fst).nodup_iff, List.map_cons, List.nodup_cons]
  refine ⟨?_, h.sublist (List.filter_sublist.map Prod.fst)⟩
  intro hmem
  obtain ⟨entry, hentry, hname⟩ := List.mem_map.1 hmem
  have hne := (List.mem_filter.1 hentry).2
  exact of_decide_eq_true hne hname

def empty : Table α := ⟨[], .nil⟩

/-- The table with one entry set, at the place of its name among those of a sorted table. -/
def insert (table : Table α) (key : String) (v : α) : Table α :=
  ⟨place (key, v) (table.entries.filter (·.1 ≠ key)), nodup_place key v table.nodup⟩

/-- The table of some entries, sorted by name; of those with one name the last counts. -/
def ofList (entries : List (String × α)) : Table α :=
  entries.foldl (fun table entry => table.insert entry.1 entry.2) empty

/-- What a name stands for. -/
def get? (table : Table α) (key : String) : Option α := table.entries.lookup key

def keys (table : Table α) : List String := table.entries.map Prod.fst

theorem mem_keys_insert {table : Table α} {key name : String} {v : α} :
    name ∈ (table.insert key v).keys ↔ name = key ∨ name ∈ table.keys := by
  rw [keys, insert, ((place_perm _ _).map Prod.fst).mem_iff, List.map_cons, List.mem_cons]
  by_cases hname : name = key
  · simp [hname]
  · simp only [hname, false_or, keys, List.mem_map, List.mem_filter]
    constructor
    · rintro ⟨entry, ⟨hentry, -⟩, rfl⟩
      exact ⟨entry, hentry, rfl⟩
    · rintro ⟨entry, hentry, rfl⟩
      exact ⟨entry, ⟨hentry, decide_eq_true hname⟩, rfl⟩

theorem mem_keys_ofList {entries : List (String × α)} {name : String} :
    name ∈ (ofList entries).keys ↔ name ∈ entries.map Prod.fst := by
  have hfold (table : Table α) :
      name ∈ (entries.foldl (fun table entry => table.insert entry.1 entry.2) table).keys ↔
        name ∈ table.keys ∨ name ∈ entries.map Prod.fst := by
    induction entries generalizing table with
    | nil => simp
    | cons entry entries ih =>
        rw [List.foldl_cons, ih, mem_keys_insert, List.map_cons, List.mem_cons, or_assoc,
          or_left_comm]
  rw [ofList, hfold]
  simp [keys, empty]

/-- The different names of a list, sorted. -/
def sortedNames (names : List String) : List String :=
  (ofList (names.map fun name => (name, ()))).keys

theorem mem_sortedNames {names : List String} {name : String} :
    name ∈ sortedNames names ↔ name ∈ names := by
  rw [sortedNames, mem_keys_ofList, List.map_map]
  simp

end Table

/-- An order in which a set of names is gone through: each of them once, and no others. -/
structure NameOrder where
  list : List String → List String
  nodup_list : ∀ names, (list names).Nodup
  mem_list : ∀ names name, name ∈ list names ↔ name ∈ names

def NameOrder.byName : NameOrder where
  list := Table.sortedNames
  nodup_list _ := (Table.ofList _).nodup
  mem_list _ _ := Table.mem_sortedNames

end Workgraph
