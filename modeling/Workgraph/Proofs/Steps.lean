import Workgraph.Walk

/-!
# Steps on records

How the basic steps act on a session whose state is a record, and what one node adds to a walk. The laws of
records come first: a field that is set where it stands keeps its place, so writing a field commutes with
writing the others.
-/

namespace Workgraph

namespace Fields

theorem get?_cons (entry : String × Value) (rest : Fields) (key : String) :
    get? key (entry :: rest) = if entry.1 = key then some entry.2 else get? key rest := rfl

theorem set_cons (entry : String × Value) (rest : Fields) (key : String) (value : Value) :
    set key value (entry :: rest) =
      if entry.1 = key then (entry.1, value) :: rest else entry :: set key value rest := rfl

theorem get?_set_of_mem {names : List String} {key name : String} (hkey : key ∉ names)
    (hname : name ∈ names) (fields : Fields) (value : Value) :
    get? name (set key value fields) = get? name fields :=
  get?_set_of_ne fields (fun heq : key = name => hkey (heq ▸ hname)) value

/-- Two records agree on the fields outside a list of names. -/
def EqOutside (names : List String) (old new : Fields) : Prop :=
  ∀ key ∉ names, get? key new = get? key old

namespace EqOutside

variable {names : List String} {first second third : Fields}

theorem refl (names : List String) (fields : Fields) : EqOutside names fields fields :=
  fun _ _ => rfl

theorem trans (h : EqOutside names first second) (h' : EqOutside names second third) :
    EqOutside names first third :=
  fun key hkey => (h' key hkey).trans (h key hkey)

theorem set (h : EqOutside names first second) {key : String} (hkey : key ∈ names) (value : Value) :
    EqOutside names first (Fields.set key value second) := by
  intro name hname
  rw [get?_set_of_ne]
  · exact h name hname
  · rintro rfl
    exact hname hkey

theorem mono (h : EqOutside names first second) {more : List String} (hnames : names ⊆ more) :
    EqOutside more first second :=
  fun key hkey => h key fun hmem => hkey (hnames hmem)

end EqOutside

theorem set_set (fields : Fields) (key : String) (first second : Value) :
    set key second (set key first fields) = set key second fields := by
  induction fields with
  | nil => simp [set]
  | cons entry rest ih =>
      by_cases h : entry.1 = key
      · simp [set_cons, h]
      · simp [set_cons, h, ih]

theorem set_of_get? {fields : Fields} {key : String} {v : Value}
    (h : get? key fields = some v) : set key v fields = fields := by
  induction fields with
  | nil => cases h
  | cons entry rest ih =>
      rw [get?_cons] at h
      rw [set_cons]
      split <;> rename_i hkey
      · rw [if_pos hkey] at h
        cases h
        rfl
      · rw [if_neg hkey] at h
        rw [ih h]

theorem length_set (fields : Fields) (key : String) (value : Value) :
    (set key value fields).length = if has key fields then fields.length else fields.length + 1 := by
  induction fields with
  | nil => simp [set, has]
  | cons entry rest ih =>
      by_cases h : entry.1 = key
      · simp [set_cons, has, get?_cons, h]
      · have hhas : has key (entry :: rest) = has key rest := by
          simp [has, get?_cons, h]
        rw [set_cons, if_neg h, List.length_cons, ih, hhas, List.length_cons]
        split <;> rfl

/-- A field that is there is set in place, so another field may be set before or after it. -/
theorem set_comm {fields : Fields} {key other : String} (hne : key ≠ other)
    (hkey : has key fields = true) (v w : Value) :
    set key v (set other w fields) = set other w (set key v fields) := by
  induction fields with
  | nil => simp [has] at hkey
  | cons entry rest ih =>
      by_cases ho : entry.1 = other
      · simp [set_cons, ho, Ne.symm hne]
      · by_cases hk : entry.1 = key
        · simp [set_cons, hk, hne]
        · have hrest : has key rest = true := by
            simpa [has, get?_cons, hk] using hkey
          simp [set_cons, hk, ho, ih hrest]

private theorem has_set_of_has {fields : Fields} {key : String} (h : has key fields = true)
    (other : String) (value : Value) : has key (set other value fields) = true := by
  unfold has
  rw [get?_set]
  split
  · rfl
  · exact h

theorem has_set_of_ne {key other : String} (hne : other ≠ key) (fields : Fields) (value : Value) :
    has key (set other value fields) = has key fields := by
  rw [has, get?_set_of_ne fields hne, has]

@[simp]
theorem has_set_self (fields : Fields) (key : String) (value : Value) :
    has key (set key value fields) = true := by
  simp [has]

theorem update_cons (fields : Fields) (entry : String × Value) (rest : Fields) :
    update fields (entry :: rest) = update (set entry.1 entry.2 fields) rest := rfl

private theorem get?_eq_none_of_not_mem {fields : Fields} {key : String}
    (h : key ∉ fields.map Prod.fst) : get? key fields = none := by
  induction fields with
  | nil => rfl
  | cons entry rest ih =>
      simp only [List.map_cons, List.mem_cons, not_or] at h
      rw [get?_cons, if_neg (Ne.symm h.1), ih h.2]

theorem get?_update {new : Fields} (hnew : (new.map Prod.fst).Nodup) (fields : Fields)
    (key : String) : get? key (update fields new) = (get? key new).or (get? key fields) := by
  induction new generalizing fields with
  | nil => simp [update]
  | cons entry rest ih =>
      rw [List.map_cons, List.nodup_cons] at hnew
      rw [update_cons, ih hnew.2, get?_set, get?_cons]
      by_cases h : entry.1 = key
      · have hrest : get? key rest = none := get?_eq_none_of_not_mem (h ▸ hnew.1)
        simp [h, hrest]
      · simp [h]

private theorem set_update_of_not_mem {fields new : Fields} {key : String}
    (hkey : key ∉ new.map Prod.fst) (hold : has key fields = true) (value : Value) :
    set key value (update fields new) = update (set key value fields) new := by
  induction new generalizing fields with
  | nil => rfl
  | cons entry rest ih =>
      simp only [List.map_cons, List.mem_cons, not_or] at hkey
      rw [update_cons, update_cons, ih hkey.2 (has_set_of_has hold _ _), set_comm hkey.1 hold]

/-- Setting a field that an update has written is a change of the update. -/
theorem set_update {new : Fields} (hnew : (new.map Prod.fst).Nodup) {key : String}
    (hkey : has key new = true) (fields : Fields) (value : Value) :
    set key value (update fields new) = update fields (set key value new) := by
  induction new generalizing fields with
  | nil => simp [has] at hkey
  | cons entry rest ih =>
      rw [List.map_cons, List.nodup_cons] at hnew
      by_cases h : entry.1 = key
      · subst h
        rw [update_cons, set_update_of_not_mem hnew.1 (has_set_self _ _ _), set_set, set_cons,
          if_pos rfl, update_cons]
      · have hrest : has key rest = true := by
          simpa [has, get?_cons, h] using hkey
        rw [update_cons, ih hnew.2 hrest, set_cons, if_neg h, update_cons]

end Fields

def Session.holding (session : Session) (fields : Fields) : Session :=
  { session with state := .record fields }

namespace Value

@[simp]
theorem same_text (s t : String) : same (.text s) (.text t) = (s == t) := by
  simp [same]

theorem same_text_iff {v : Value} {s : String} : v.same (.text s) = true ↔ v = .text s := by
  cases v <;> simp [same, sameAsNumber, number?]

theorem isAmong_texts (s : String) (texts : List String) :
    isAmong (.text s) (texts.map .text) = texts.any (s == ·) := by
  simp [isAmong, List.any_map, Function.comp_def]

theorem isIn_texts (s : String) (texts : List String) :
    isIn (.text s) (.list (texts.map .text)) = .ok (decide (s ∈ texts)) := by
  rw [isIn, isAmong_texts, Except.ok.injEq, Bool.eq_iff_iff]
  simp

end Value

namespace Step

theorem bind_apply (first : Step α) (next : α → Step β) (session : Session) :
    (first >>= next) session =
      match first session with
      | .ok a after => next a after
      | .error fault after => .error fault after := by
  cases h : first session <;> simp [bind, EStateM.bind, h]

theorem pure_apply (a : α) (session : Session) : (pure a : Step α) session = .ok a session := rfl

theorem liftM_ok (a : α) : (liftM (Except.ok a : Except Fault α) : Step α) = pure a := rfl

theorem liftM_error (fault : Fault) (session : Session) :
    (liftM (Except.error fault : Except Fault α) : Step α) session = .error fault session := rfl

theorem read_holding {fields : Fields} {key : String} {v : Value}
    (h : Fields.get? key fields = some v) (session : Session) :
    read key (session.holding fields) = .ok v (session.holding fields) := by
  simp [read, Session.holding, Value.field, h]

theorem write_holding (session : Session) (fields : Fields) (key : String) (v : Value) :
    write key v (session.holding fields) = .ok () (session.holding (Fields.set key v fields)) :=
  rfl

theorem writeIn_holding {fields inside : Fields} {key : String}
    (h : Fields.get? key fields = some (.record inside)) (inner : String) (v : Value) (session : Session) :
    writeIn key inner v (session.holding fields) =
      .ok () (session.holding (Fields.set key (.record (Fields.set inner v inside)) fields)) := by
  simp only [writeIn, bind_apply, read_holding h, Value.setField, liftM_ok, pure_apply, write_holding]

theorem addTo_holding {fields : Fields} {key : String} {v a sum : Value} {amount : Step Value}
    {session : Session} (h : Fields.get? key fields = some v)
    (hamount : amount (session.holding fields) = .ok a (session.holding fields))
    (hadd : v.add a = .ok sum) : addTo key amount (session.holding fields) =
      .ok () (session.holding (Fields.set key sum fields)) := by
  simp only [addTo, bind_apply, read_holding h, hamount, hadd, liftM_ok, pure_apply, write_holding]

theorem now_holding (session : Session) (fields : Fields) :
    now (session.holding fields) = .ok session.supply.now (session.holding fields) := rfl

section Lists

variable {fields : Fields} {key : String} {items : List Value}

theorem append_of_ok (h : Fields.get? key fields = some (.list items)) {entry : Step Value} {v : Value}
    {session : Session} (hentry : entry (session.holding fields) = .ok v (session.holding fields)) :
    append key entry (session.holding fields) =
      .ok () (session.holding (Fields.set key (.list (items ++ [v])) fields)) := by
  simp only [append, bind_apply, read_holding h, Value.items, liftM_ok, pure_apply, hentry, write_holding]

theorem append_holding (h : Fields.get? key fields = some (.list items)) (entry : Value)
    (session : Session) : append key (pure entry) (session.holding fields) =
      .ok () (session.holding (Fields.set key (.list (items ++ [entry])) fields)) :=
  append_of_ok h (pure_apply entry _)

theorem extend_holding (h : Fields.get? key fields = some (.list items)) (entries : List Value)
    (session : Session) : extend key entries (session.holding fields) =
      .ok () (session.holding (Fields.set key (.list (items ++ entries)) fields)) := by
  simp only [extend, bind_apply, read_holding h, Value.items, liftM_ok, pure_apply, write_holding]

end Lists

theorem write_text_ite (c : Prop) [Decidable c] (key s t : String) (next : Unit → Step α) :
    (if c then write key (.text s) >>= next else write key (.text t) >>= next) =
      (write key (.text (if c then s else t)) >>= next) := by
  split <;> rfl

section Conditions

variable {session : Session} {key s : String}

theorem holds_of_read (h : read key session = .ok (.text s) session) (text : String) :
    holds key text session = .ok (s == text) session := by
  simp [holds, bind_apply, h, pure_apply]

theorem holdsOneOf_of_read (h : read key session = .ok (.text s) session) (texts : List String) :
    holdsOneOf key texts session = .ok (texts.any (s == ·)) session := by
  simp only [holdsOneOf, bind_apply, h, pure_apply, Value.isAmong_texts]

theorem isSet_of_read {v : Value} (h : read key session = .ok v session) :
    isSet key session = .ok v.truthy session := by
  simp only [isSet, bind_apply, h, pure_apply]

theorem both_of_ok {first second : Step Bool} {a b : Bool} (hfirst : first session = .ok a session)
    (hsecond : second session = .ok b session) :
    both first second session = .ok (a && b) session := by
  cases a <;> simp [both, bind_apply, hfirst, hsecond, pure_apply]

theorem either_of_ok {first second : Step Bool} {a b : Bool}
    (hfirst : first session = .ok a session) (hsecond : second session = .ok b session) :
    either first second session = .ok (a || b) session := by
  cases a <;> simp [either, bind_apply, hfirst, hsecond, pure_apply]

end Conditions

section Reads

variable {session done : Session} {fields : Fields} {key : String}

theorem read_eq_ok {v : Value} (h : read key (session.holding fields) = .ok v done) :
    Fields.get? key fields = some v ∧ done = session.holding fields := by
  unfold read Value.field at h
  cases hget : Fields.get? key fields <;> simp_all [Session.holding]

theorem holds_eq_ok {text : String} {b : Bool}
    (h : holds key text (session.holding fields) = .ok b done) :
    (b = true ↔ Fields.get? key fields = some (.text text)) ∧ done = session.holding fields := by
  rw [holds, bind_apply] at h
  split at h <;> rename_i hread
  · obtain ⟨hget, rfl⟩ := read_eq_ok hread
    cases h
    exact ⟨by rw [hget, Value.same_text_iff, Option.some_inj], rfl⟩
  · cases h

end Reads

theorem exists_read_whole {fields : Fields} {key : String} {n : Int}
    (h : (Fields.get? key fields).bind Value.whole? = some n) (session : Session) :
    ∃ v, v.whole? = some n ∧
      read key (session.holding fields) = .ok v (session.holding fields) := by
  obtain ⟨v, hget, hwhole⟩ := Option.bind_eq_some_iff.1 h
  exact ⟨v, hwhole, read_holding hget session⟩

theorem mapM_of_ok {f : α → Step β} {g : α → β} {session : Session} {xs : List α}
    (h : ∀ x ∈ xs, f x session = .ok (g x) session) :
    xs.mapM f session = .ok (xs.map g) session := by
  induction xs with
  | nil => rfl
  | cons x rest ih =>
      rw [List.forall_mem_cons] at h
      simp only [List.mapM_cons, bind_apply, h.1, ih h.2, pure_apply, List.map_cons]

end Step

instance Ending.decidableEqFinished : (ending : Ending) → Decidable (ending = .finished)
  | .finished => .isTrue rfl
  | .failed _ => .isFalse Ending.noConfusion
  | .limitReached => .isFalse Ending.noConfusion
  | .noNode _ => .isFalse Ending.noConfusion
  | .noTarget _ => .isFalse Ending.noConfusion

namespace Walk

/-- The walk gets to the end and leaves this session. -/
def FinishesIn (walk : Walk) (session : Session) : Prop :=
  walk.ending = .finished ∧ walk.session = session

theorem FinishesIn.after {walk : Walk} {session : Session} (h : walk.FinishesIn session)
    (event : Event) : (walk.after event).FinishesIn session := h

theorem visited_after_node (walk : Walk) (name : String) (answer : Option Value)
    (fault : Option Fault) (state : Value) :
    (walk.after ⟨.node name, answer, fault, state⟩).visited = name :: walk.visited := rfl

theorem visited_after_router (walk : Walk) (name : String) (answer : Option Value)
    (fault : Option Fault) (state : Value) :
    (walk.after ⟨.router name, answer, fault, state⟩).visited = walk.visited := rfl

theorem mem_visited_after (walk : Walk) (event : Event) {name : String} :
    name ∈ (walk.after event).visited ↔ event.place = .node name ∨ name ∈ walk.visited := by
  obtain ⟨place, answer, fault, state⟩ := event
  cases place <;> simp [visited, after, eq_comm]

end Walk

namespace Workflow

variable {w : Workflow} {name target : String} {node : Node} {session done decided : Session}

theorem walkFrom_terminal (w : Workflow) (limit : Nat) (session : Session) :
    w.walkFrom limit terminal session = ⟨[], .finished, session⟩ := by
  unfold walkFrom
  simp

theorem walkFrom_zero (hname : name ≠ terminal) (hnode : w.node? name = some node)
    (session : Session) : w.walkFrom 0 name session = ⟨[], .limitReached, session⟩ := by
  rw [walkFrom, if_neg hname]
  simp only [hnode]

theorem walkFrom_node_fault {fault : Fault} (hname : name ≠ terminal)
    (hnode : w.node? name = some node) (hrun : node.run session = .error fault done) (limit : Nat) :
    w.walkFrom (limit + 1) name session =
      ⟨[⟨.node name, none, some fault, done.state⟩], .failed fault, done⟩ := by
  rw [walkFrom, if_neg hname]
  simp only [hnode, hrun]

theorem walkFrom_router_fault {branching : Branching} {fault : Fault} (hname : name ≠ terminal)
    (hnode : w.node? name = some node) (hrun : node.run session = .ok () done)
    (hbranching : w.branching? name = some branching)
    (hanswer : branching.router.decide done = .error fault decided) (limit : Nat) :
    w.walkFrom (limit + 1) name session =
      Walk.after ⟨.node name, none, none, done.state⟩
        ⟨[⟨.router branching.router.name, none, some fault, decided.state⟩], .failed fault,
          decided⟩ := by
  rw [walkFrom, if_neg hname]
  simp only [hnode, hrun, hbranching, hanswer]

theorem run_of_finished {limit : Nat} (hname : name ≠ terminal) (hnode : w.node? name = some node)
    (h : (w.walkFrom limit name session).ending = .finished) :
    ∃ rest done, limit = rest + 1 ∧ node.run session = .ok () done := by
  cases limit with
  | zero =>
      rw [walkFrom_zero hname hnode] at h
      cases h
  | succ rest =>
      cases hrun : node.run session with
      | ok _ done => exact ⟨rest, done, rfl, rfl⟩
      | error fault done =>
          rw [walkFrom_node_fault hname hnode hrun] at h
          cases h

theorem walkFrom_edge (hname : name ≠ terminal) (hnode : w.node? name = some node)
    (hrun : node.run session = .ok () done) (hbranching : w.branching? name = none)
    (hnext : w.next? name = some target) (limit : Nat) :
    w.walkFrom (limit + 1) name session =
      (w.walkFrom limit target done).after ⟨.node name, none, none, done.state⟩ := by
  rw [walkFrom, if_neg hname]
  simp only [hnode, hrun, hbranching, hnext]

theorem walkFrom_branching {branching : Branching} {answer : Value} (hname : name ≠ terminal)
    (hnode : w.node? name = some node) (hrun : node.run session = .ok () done)
    (hbranching : w.branching? name = some branching)
    (hanswer : branching.router.decide done = .ok answer decided)
    (htarget : branching.target? answer = some target) (limit : Nat) :
    w.walkFrom (limit + 1) name session =
      ((w.walkFrom limit target decided).after
        ⟨.router branching.router.name, some answer, none, decided.state⟩).after
          ⟨.node name, none, none, done.state⟩ := by
  rw [walkFrom, if_neg hname]
  simp only [hnode, hrun, hbranching, hanswer, htarget]

theorem finishesIn_of_edge {last : Session} (hname : name ≠ terminal)
    (hnode : w.node? name = some node) (hrun : node.run session = .ok () done)
    (hbranching : w.branching? name = none) (hnext : w.next? name = some target) {limit : Nat}
    (h : (w.walkFrom limit target done).FinishesIn last) :
    (w.walkFrom (limit + 1) name session).FinishesIn last := by
  rw [walkFrom_edge hname hnode hrun hbranching hnext]
  exact h.after _

theorem finishesIn_of_branching {branching : Branching} {answer : Value} {last : Session}
    (hname : name ≠ terminal) (hnode : w.node? name = some node)
    (hrun : node.run session = .ok () done) (hbranching : w.branching? name = some branching)
    (hanswer : branching.router.decide done = .ok answer decided)
    (htarget : branching.target? answer = some target) {limit : Nat}
    (h : (w.walkFrom limit target decided).FinishesIn last) :
    (w.walkFrom (limit + 1) name session).FinishesIn last := by
  rw [walkFrom_branching hname hnode hrun hbranching hanswer htarget]
  exact (h.after _).after _

end Workflow

end Workgraph
