import Mathlib.Data.List.Infix
import Workgraph.Proofs.Recipients
import Workgraph.Proofs.Replacement

/-!
# Placeholders of a template

A template has placeholders for the name of the addressee, for the address and for the last purchase. They are
filled in one after the other, so a value that was put in is searched for the placeholders that come next. The
text is that of the template with all values in place if this finds no more placeholders than the template
has, and else there is a purchase for which it is not.
-/

namespace Workgraph.Campaign

open Step

/-- What a template has placeholders for. -/
inductive Slot
  | name
  | email
  | purchase
  deriving DecidableEq

namespace Slot

def all : List Slot := [name, email, purchase]

private theorem mem_all (slot : Slot) : slot ∈ all := by
  cases slot <;> decide

def mark : Slot → List Char
  | name => "\x7b\x7bname\x7d\x7d".toList
  | email => "\x7b\x7bemail\x7d\x7d".toList
  | purchase => "\x7b\x7blast_purchase\x7d\x7d".toList

theorem mark_ne_nil (slot : Slot) : slot.mark ≠ [] := by
  cases slot <;> decide

theorem apart_mark {slot other : Slot} (h : slot ≠ other) : Text.Apart slot.mark other.mark := by
  revert h
  cases slot <;> cases other <;> decide

theorem apart_of_suffix {slot : Slot} {tail : List Char} (hne : tail ≠ []) (htail : tail <:+ slot.mark.tail)
    (other : Slot) : Text.Apart tail other.mark := by
  have hall : ∀ tail ∈ slot.mark.tail.tails, tail ≠ [] → Text.Apart tail other.mark := by
    cases slot <;> cases other <;> decide +kernel
  exact hall tail ((List.mem_tails _ _).2 htail) hne

end Slot

/-- A piece of a template: a plain character or a placeholder. -/
inductive Token
  | char (c : Char)
  | slot (slot : Slot)
  deriving DecidableEq

/-- The pieces with the first `skip` characters left out: they belong to a placeholder that is already read. -/
def tokensFrom : Nat → List Char → List Token
  | _, [] => []
  | skip + 1, _ :: rest => tokensFrom skip rest
  | 0, c :: rest =>
    match Slot.all.find? (·.mark.isPrefixOf (c :: rest)) with
    | some slot => .slot slot :: tokensFrom (slot.mark.length - 1) rest
    | none => .char c :: tokensFrom 0 rest

def tokens (template : List Char) : List Token := tokensFrom 0 template

/-- The text of some pieces, with values for the placeholders. -/
def spell (value : Slot → List Char) (pieces : List Token) : List Char :=
  pieces.flatMap fun
    | .char c => [c]
    | .slot slot => value slot

section Spelling

variable (value : Slot → List Char) (rest : List Token)

theorem spell_char (c : Char) : spell value (.char c :: rest) = c :: spell value rest := rfl

theorem spell_slot (slot : Slot) : spell value (.slot slot :: rest) = value slot ++ spell value rest := rfl

theorem spell_chars (s : List Char) : spell value (s.map .char ++ rest) = s ++ spell value rest := by
  induction s with
  | nil => rfl
  | cons c s ih => rw [List.map_cons, List.cons_append, spell_char, ih, List.cons_append]

end Spelling

private theorem tokensFrom_eq (skip : Nat) (s : List Char) : tokensFrom skip s = tokens (s.drop skip) := by
  induction s generalizing skip with
  | nil => simp [tokens, tokensFrom]
  | cons c rest ih =>
      cases skip with
      | zero => rfl
      | succ skip => rw [tokensFrom, ih, List.drop_succ_cons]

theorem tokens_append (slot : Slot) (rest : List Char) :
    tokens (slot.mark ++ rest) = .slot slot :: tokens rest := by
  obtain ⟨c, tail, hmark⟩ := List.exists_cons_of_ne_nil slot.mark_ne_nil
  have hfind : Slot.all.find? (·.mark.isPrefixOf (c :: (tail ++ rest))) = some slot := by
    rw [← List.cons_append, ← hmark]
    cases hfound : Slot.all.find? (·.mark.isPrefixOf (slot.mark ++ rest)) with
    | none =>
        have hnone := List.find?_eq_none.1 hfound slot slot.mem_all
        exact absurd (List.isPrefixOf_iff_prefix.2 (List.prefix_append slot.mark rest)) hnone
    | some found =>
        have hbegins := List.find?_some hfound
        rw [Option.some_inj]
        by_contra hother
        exact (Slot.apart_mark hother).not_begins rest (List.isPrefixOf_iff_prefix.1 hbegins)
  rw [hmark, List.cons_append, tokens, tokensFrom, hfind]
  simp [hmark, tokensFrom_eq]

theorem tokens_cons {c : Char} {rest : List Char} (h : ∀ slot : Slot, ¬slot.mark <+: c :: rest) :
    tokens (c :: rest) = .char c :: tokens rest := by
  have hfind : Slot.all.find? (·.mark.isPrefixOf (c :: rest)) = none := by
    rw [List.find?_eq_none]
    intro slot _ hbegins
    exact h slot (List.isPrefixOf_iff_prefix.1 hbegins)
  rw [tokens, tokensFrom, hfind]
  rfl

theorem template_induction {motive : List Char → Prop} (nil : motive [])
    (slot : ∀ slot rest, motive rest → motive (Slot.mark slot ++ rest))
    (char : ∀ c rest, (∀ slot : Slot, ¬slot.mark <+: c :: rest) → motive rest → motive (c :: rest))
    (template : List Char) : motive template := by
  induction hlength : template.length using Nat.strongRecOn generalizing template with
  | ind n ih =>
      subst hlength
      by_cases hfound : ∃ slot : Slot, slot.mark <+: template
      · obtain ⟨found, rest, rfl⟩ := hfound
        have hpos := List.length_pos_iff.2 found.mark_ne_nil
        exact slot found rest (ih rest.length (by rw [List.length_append]; omega) rest rfl)
      · cases template with
        | nil => exact nil
        | cons c rest =>
            exact char c rest (not_exists.1 hfound) (ih rest.length (Nat.lt_succ_self _) rest rfl)

private theorem spell_tokens (template : List Char) : spell Slot.mark (tokens template) = template := by
  induction template using template_induction with
  | nil => rfl
  | slot slot rest ih => rw [tokens_append, spell_slot, ih]
  | char c rest hc ih => rw [tokens_cons hc, spell_char, ih]

theorem not_begins_inside {slot other : Slot} (h : other ≠ slot) (rest : List Char) :
    ∀ tail, tail ≠ [] → tail <:+ other.mark → ¬slot.mark <+: tail ++ rest := by
  intro tail hne htail
  obtain ⟨c, inner, hmark⟩ := List.exists_cons_of_ne_nil other.mark_ne_nil
  have hcases : tail = other.mark ∨ tail <:+ other.mark.tail := by
    rw [hmark, List.tail_cons, ← List.suffix_cons_iff, ← hmark]
    exact htail
  rcases hcases with rfl | hinner
  · exact (Slot.apart_mark h.symm).not_begins rest
  · have hapart : Text.Apart slot.mark tail := (Slot.apart_of_suffix hne hinner slot).symm
    exact hapart.not_begins rest

theorem count_tokens (slot : Slot) (template : List Char) :
    (tokens template).count (.slot slot) = Text.count slot.mark template := by
  induction template using template_induction with
  | nil => rfl
  | slot other rest ih =>
      rw [tokens_append]
      by_cases hslot : other = slot
      · subst hslot
        rw [List.count_cons_self, Text.count_append other.mark_ne_nil, ih]
      · rw [List.count_cons_of_ne (by simpa using hslot),
          Text.count_append_of_passed (not_begins_inside hslot rest), ih]
  | char c rest hc ih =>
      rw [tokens_cons hc, List.count_cons_of_ne (by simp), Text.count_cons (hc slot), ih]

/-- The pieces with a value in the place of a slot. What was put in is plain text. -/
def fillSlot (slot : Slot) (new : List Char) (pieces : List Token) : List Token :=
  pieces.flatMap fun
    | .char c => [.char c]
    | .slot other => if other = slot then new.map .char else [.slot other]

section Filling

variable (slot : Slot) (new : List Char)

theorem fillSlot_char (c : Char) (rest : List Token) :
    fillSlot slot new (.char c :: rest) = .char c :: fillSlot slot new rest := rfl

theorem fillSlot_slot_self (rest : List Token) :
    fillSlot slot new (.slot slot :: rest) = new.map .char ++ fillSlot slot new rest := by
  simp [fillSlot]

theorem fillSlot_slot_of_ne {other : Slot} (h : other ≠ slot) (rest : List Token) :
    fillSlot slot new (.slot other :: rest) = .slot other :: fillSlot slot new rest := by
  simp [fillSlot, h]

theorem spell_fillSlot (value : Slot → List Char) (pieces : List Token) :
    spell value (fillSlot slot new pieces) = spell (Function.update value slot new) pieces := by
  induction pieces with
  | nil => rfl
  | cons piece rest ih =>
      cases piece with
      | char c => rw [fillSlot_char, spell_char, spell_char, ih]
      | slot other =>
          by_cases hother : other = slot
          · subst hother
            rw [fillSlot_slot_self, spell_chars, spell_slot, Function.update_self, ih]
          · rw [fillSlot_slot_of_ne slot new hother, spell_slot, spell_slot, Function.update_of_ne hother, ih]

theorem count_chars (s : List Char) : (s.map Token.char).count (.slot slot) = 0 := by
  rw [List.count_eq_zero]
  simp

theorem count_fillSlot {other : Slot} (h : other ≠ slot) (pieces : List Token) :
    (fillSlot slot new pieces).count (.slot other) = pieces.count (.slot other) := by
  induction pieces with
  | nil => rfl
  | cons piece rest ih =>
      cases piece with
      | char c => rw [fillSlot_char, List.count_cons, List.count_cons, ih]
      | slot found =>
          by_cases hfound : found = slot
          · subst hfound
            rw [fillSlot_slot_self, List.count_append, count_chars, ih,
              List.count_cons_of_ne (by simpa using h.symm), Nat.zero_add]
          · rw [fillSlot_slot_of_ne slot new hfound, List.count_cons, List.count_cons, ih]

end Filling

private theorem exists_chars_of_begins {slot : Slot} {tail : List Char} (htail : tail <:+ slot.mark.tail)
    {pieces : List Token} (h : tail <+: spell Slot.mark pieces) :
    ∃ rest, pieces = tail.map .char ++ rest := by
  induction tail generalizing pieces with
  | nil => exact ⟨pieces, rfl⟩
  | cons c tail ih =>
      cases pieces with
      | nil => simp [spell] at h
      | cons piece rest =>
          cases piece with
          | char d =>
              rw [spell_char, List.cons_prefix_cons] at h
              obtain ⟨rfl, hrest⟩ := h
              obtain ⟨after, rfl⟩ := ih ((List.suffix_cons c tail).trans htail) hrest
              exact ⟨after, rfl⟩
          | slot other =>
              have hapart := Slot.apart_of_suffix (List.cons_ne_nil c tail) htail other
              exact absurd h (hapart.not_begins _)

/-- Induction along the search for a placeholder: it is found as a piece or as a stray one among the plain
characters, or one piece is passed. -/
theorem search_induction (slot : Slot) {motive : List Token → Prop} (nil : motive [])
    (found : ∀ rest, motive rest → motive (.slot slot :: rest))
    (other : ∀ other rest, other ≠ slot → motive rest → motive (.slot other :: rest))
    (stray : ∀ rest, motive rest → motive (slot.mark.map .char ++ rest))
    (passed : ∀ c rest, ¬slot.mark <+: c :: spell Slot.mark rest → motive rest → motive (.char c :: rest))
    (pieces : List Token) : motive pieces := by
  induction hlength : pieces.length using Nat.strongRecOn generalizing pieces with
  | ind n ih =>
      subst hlength
      cases pieces with
      | nil => exact nil
      | cons piece rest =>
          have hrest := ih rest.length (Nat.lt_succ_self _) rest rfl
          cases piece with
          | slot next =>
              by_cases hnext : next = slot
              · subst hnext
                exact found rest hrest
              · exact other next rest hnext hrest
          | char c =>
              by_cases hbegins : slot.mark <+: c :: spell Slot.mark rest
              · obtain ⟨d, tail, hmark⟩ := List.exists_cons_of_ne_nil slot.mark_ne_nil
                have htail : tail <:+ slot.mark.tail := by
                  rw [hmark, List.tail_cons]
                rw [hmark, List.cons_prefix_cons] at hbegins
                obtain ⟨rfl, hinner⟩ := hbegins
                obtain ⟨after, rfl⟩ := exists_chars_of_begins htail hinner
                have hshorter : after.length < (Token.char d :: (tail.map .char ++ after)).length := by
                  rw [List.length_cons, List.length_append]
                  omega
                have hstray := stray after (ih after.length hshorter after rfl)
                rwa [hmark] at hstray
              · exact passed c rest hbegins hrest

section Search

variable (slot : Slot) (pieces : List Token)

theorem count_le_count_spell :
    pieces.count (.slot slot) ≤ Text.count slot.mark (spell Slot.mark pieces) := by
  induction pieces using search_induction slot with
  | nil => exact Nat.le_refl 0
  | found rest ih =>
      rw [List.count_cons_self, spell_slot, Text.count_append slot.mark_ne_nil]
      exact Nat.succ_le_succ ih
  | other other rest hother ih =>
      rw [List.count_cons_of_ne (by simpa using hother), spell_slot,
        Text.count_append_of_passed (not_begins_inside hother _)]
      exact ih
  | stray rest ih =>
      rw [List.count_append, count_chars, Nat.zero_add, spell_chars, Text.count_append slot.mark_ne_nil]
      exact Nat.le_succ_of_le ih
  | passed c rest hc ih =>
      rw [List.count_cons_of_ne (by simp), spell_char, Text.count_cons hc]
      exact ih

private theorem length_spell_update (new : List Char) :
    (spell (Function.update Slot.mark slot new) pieces).length + pieces.count (.slot slot) * slot.mark.length =
      (spell Slot.mark pieces).length + pieces.count (.slot slot) * new.length := by
  induction pieces with
  | nil => simp [spell]
  | cons piece rest ih =>
      cases piece with
      | char c =>
          rw [spell_char, spell_char, List.count_cons_of_ne (by simp), List.length_cons, List.length_cons]
          omega
      | slot other =>
          rw [spell_slot, spell_slot, List.length_append, List.length_append]
          by_cases hother : other = slot
          · subst hother
            rw [List.count_cons_self, Function.update_self, Nat.add_one_mul, Nat.add_one_mul]
            omega
          · rw [List.count_cons_of_ne (by simpa using hother), Function.update_of_ne hother]
            omega

private theorem append_replace_ne {new : List Char} (hnew : new ≠ slot.mark) :
    new ++ Text.replace slot.mark new (spell Slot.mark pieces) ≠
      slot.mark ++ spell (Function.update Slot.mark slot new) pieces := by
  intro heq
  have hlength := congrArg List.length heq
  have hreplaced := Text.length_replace slot.mark_ne_nil new (spell Slot.mark pieces)
  have hspelled := length_spell_update slot pieces new
  -- both sides change in length by the same amount for each slot, and the left one again for each stray
  obtain ⟨strays, hstrays⟩ := Nat.exists_eq_add_of_le (count_le_count_spell slot pieces)
  rw [hstrays, Nat.add_mul, Nat.add_mul] at hreplaced
  rw [List.length_append, List.length_append] at hlength
  have hmul : (strays + 1) * new.length = (strays + 1) * slot.mark.length := by
    rw [Nat.add_one_mul, Nat.add_one_mul]
    omega
  have hsame : new.length = slot.mark.length := Nat.eq_of_mul_eq_mul_left (Nat.succ_pos strays) hmul
  exact hnew (List.append_inj heq hsame).1

/-- A search and replacement fills in the slots alone exactly if there are no stray placeholders, or if nothing
is replaced by anything else. -/
theorem replace_spell_eq_iff (new : List Char) :
    Text.replace slot.mark new (spell Slot.mark pieces) = spell Slot.mark (fillSlot slot new pieces) ↔
      new = slot.mark ∨ Text.count slot.mark (spell Slot.mark pieces) = pieces.count (.slot slot) := by
  rw [spell_fillSlot]
  by_cases hnew : new = slot.mark
  · subst hnew
    simp [Text.replace_self slot.mark_ne_nil]
  · rw [or_iff_right hnew]
    induction pieces using search_induction slot with
    | nil => simp [spell, Text.replace_nil, Text.count_nil]
    | found rest ih =>
        rw [spell_slot, spell_slot, Text.replace_append slot.mark_ne_nil, Text.count_append slot.mark_ne_nil,
          Function.update_self, List.count_cons_self, List.append_right_inj, Nat.add_right_cancel_iff, ih]
    | other other rest hother ih =>
        rw [spell_slot, spell_slot, Text.replace_append_of_passed (not_begins_inside hother _),
          Text.count_append_of_passed (not_begins_inside hother _), Function.update_of_ne hother,
          List.count_cons_of_ne (by simpa using hother), List.append_right_inj, ih]
    | stray rest ih =>
        rw [spell_chars, spell_chars, Text.replace_append slot.mark_ne_nil, Text.count_append slot.mark_ne_nil,
          List.count_append, count_chars, Nat.zero_add]
        have hcount := count_le_count_spell slot rest
        exact iff_of_false (append_replace_ne slot rest hnew) (by omega)
    | passed c rest hc ih =>
        rw [spell_char, spell_char, Text.replace_cons hc, Text.count_cons hc, List.count_cons_of_ne (by simp),
          List.cons_inj_right, ih]

end Search

structure Details where
  name : String
  email : String
  purchase : String

namespace Details

variable (template : String) (details : Details)

def value : Slot → List Char
  | .name => details.name.toList
  | .email => details.email.toList
  | .purchase => details.purchase.toList

/-- The template with all values in place of their placeholders at once. -/
def insertedInto : String := String.ofList (spell details.value (tokens template.toList))

def named : List Char := Text.replace Slot.name.mark details.name.toList template.toList

def addressed : List Char := Text.replace Slot.email.mark details.email.toList (details.named template)

/-- The template with the values filled in one after the other. -/
def filledInto : String :=
  String.ofList (Text.replace Slot.purchase.mark details.purchase.toList (details.addressed template))

/-- Neither the name nor the address brings about a placeholder that comes next, by itself or with the text
around it. An address that is its own placeholder may stand in for any number of them. -/
structure AddNoMarks : Prop where
  email : details.email.toList = Slot.email.mark ∨
    Text.count Slot.email.mark (details.named template) = Text.count Slot.email.mark template.toList
  purchase : Text.count Slot.purchase.mark (details.addressed template) =
    Text.count Slot.purchase.mark template.toList

def namedPieces : List Token := fillSlot .name details.name.toList (tokens template.toList)

def addressedPieces : List Token := fillSlot .email details.email.toList (details.namedPieces template)

private theorem named_eq : details.named template = spell Slot.mark (details.namedPieces template) := by
  have hiff := replace_spell_eq_iff .name (tokens template.toList) details.name.toList
  rw [spell_tokens, count_tokens] at hiff
  exact hiff.2 (.inr rfl)

theorem addressed_eq_iff :
    details.addressed template = spell Slot.mark (details.addressedPieces template) ↔
      details.email.toList = Slot.email.mark ∨
        Text.count Slot.email.mark (details.named template) = Text.count Slot.email.mark template.toList := by
  have hslots : (details.namedPieces template).count (.slot .email) =
      Text.count Slot.email.mark template.toList := by
    rw [namedPieces, count_fillSlot _ _ (by decide), count_tokens]
  rw [addressed, named_eq, addressedPieces, replace_spell_eq_iff, hslots]

theorem insertedInto_eq : details.insertedInto template = String.ofList
    (spell Slot.mark (fillSlot .purchase details.purchase.toList (details.addressedPieces template))) := by
  rw [addressedPieces, namedPieces, spell_fillSlot, spell_fillSlot, spell_fillSlot, insertedInto]
  congr 2
  funext slot
  cases slot <;> rfl

theorem filledInto_eq_iff
    (h : details.addressed template = spell Slot.mark (details.addressedPieces template)) :
    details.filledInto template = details.insertedInto template ↔
      details.purchase.toList = Slot.purchase.mark ∨
        Text.count Slot.purchase.mark (details.addressed template) =
          Text.count Slot.purchase.mark template.toList := by
  have hslots : (details.addressedPieces template).count (.slot .purchase) =
      Text.count Slot.purchase.mark template.toList := by
    rw [addressedPieces, namedPieces, count_fillSlot _ _ (by decide), count_fillSlot _ _ (by decide),
      count_tokens]
  rw [filledInto, insertedInto_eq, String.ofList_inj, h, replace_spell_eq_iff, hslots]

/-- Filling in one after the other is filling in at once, whatever was bought last, exactly if no placeholders
are brought about. -/
theorem forall_filledInto_eq_iff :
    (∀ purchase, filledInto template { details with purchase } =
        insertedInto template { details with purchase }) ↔ details.AddNoMarks template := by
  constructor
  · intro hall
    -- a purchase that is its own placeholder shows the text before the last step
    have haddressed : details.addressed template = spell Slot.mark (details.addressedPieces template) := by
      have hself := hall (String.ofList Slot.purchase.mark)
      rw [insertedInto_eq, filledInto, String.ofList_inj, String.toList_ofList,
        Text.replace_self (Slot.mark_ne_nil _), spell_fillSlot, Function.update_eq_self] at hself
      exact hself
    have hlast := (filledInto_eq_iff template { details with purchase := "" } haddressed).1 (hall "")
    have hempty : "".toList ≠ Slot.purchase.mark := by decide
    exact ⟨(addressed_eq_iff template details).1 haddressed, hlast.resolve_left hempty⟩
  · intro hmarks purchase
    have haddressed := (addressed_eq_iff template details).2 hmarks.email
    exact (filledInto_eq_iff template { details with purchase } haddressed).2 (.inr hmarks.purchase)

end Details

/-- A recipient with a name, an address and a last purchase. -/
structure Addressee extends Details where
  record : Fields
  name_eq : Fields.get? "name" record = some (.text name)
  email_eq : Fields.get? "email" record = some (.text email)
  purchase_eq : Fields.get? "last_purchase" record = some (.text purchase)

namespace Addressee

def value (addressee : Addressee) : Value := .record addressee.record

def withContent (content : String) (addressee : Addressee) : Value :=
  .record (Fields.set "personalized_content" (.text content) addressee.record)

private theorem contentFor_value (template : String) (addressee : Addressee) :
    contentFor (.text template) addressee.value = .ok (.text (addressee.filledInto template)) := by
  have hname : addressee.value.fieldOr "name" "Valued Customer" = .ok (.text addressee.name) := by
    rw [value, Value.fieldOr, addressee.name_eq, Option.getD_some]
  have hemail : addressee.value.fieldOr "email" "" = .ok (.text addressee.email) := by
    rw [value, Value.fieldOr, addressee.email_eq, Option.getD_some]
  have hbought : (Value.text "last_purchase").isIn addressee.value = .ok true := by
    simp [value, Value.isIn, Value.isAtom, Fields.has, addressee.purchase_eq]
  have hpurchase : addressee.value.field "last_purchase" = .ok (.text addressee.purchase) := by
    rw [value, Value.field, addressee.purchase_eq]
  simp only [contentFor, Value.chars, hname, hemail, hbought, hpurchase, fill, ok_bind, if_true]
  rfl

end Addressee

theorem personalize_holding {fields : Fields} {template : String} {addressees : List Addressee}
    (htemplate : Fields.get? "email_content" fields = some (.text template))
    (hlist : Fields.get? "recipients" fields = some (.list (addressees.map Addressee.value)))
    (session : Session) :
    personalize (session.holding fields) = .ok () (session.holding (Fields.set "recipients"
      (.list (addressees.map fun addressee => addressee.withContent (addressee.filledInto template)))
        fields)) := by
  have hchange (position : Nat) (addressee : Addressee) :
      (do addressee.value.setField "personalized_content" (← contentFor (.text template) addressee.value)) =
        .ok (addressee.withContent (addressee.filledInto template)) := by
    rw [Addressee.contentFor_value, ok_bind]
    rfl
  simp only [personalize, bind_apply, read_holding htemplate]
  rw [changeRecipients_holding hchange session hlist]
  have hplace : addressees.mapIdx (fun _ addressee => addressee.withContent (addressee.filledInto template)) =
      addressees.map fun addressee => addressee.withContent (addressee.filledInto template) :=
    List.ext_getElem (by simp) (by simp)
  rw [hplace]

/-- A campaign always gets its texts. They have what is known of an addressee verbatim in place of the
placeholders, whatever was bought last, exactly if the name and the address bring about no placeholders. -/
theorem personalize_verbatim_iff_addNoMarks (session : Session) {fields : Fields} {template : String}
    {addressees : List Addressee}
    (htemplate : Fields.get? "email_content" fields = some (.text template))
    (hlist : Fields.get? "recipients" fields = some (.list (addressees.map Addressee.value))) :
    personalize (session.holding fields) = .ok () (session.holding (Fields.set "recipients"
      (.list (addressees.map fun addressee => addressee.withContent (addressee.filledInto template)))
        fields)) ∧
    ∀ addressee ∈ addressees,
      ((∀ purchase, Details.filledInto template { addressee.toDetails with purchase } =
          Details.insertedInto template { addressee.toDetails with purchase }) ↔
        addressee.AddNoMarks template) :=
  ⟨personalize_holding htemplate hlist session, fun addressee _ =>
    Details.forall_filledInto_eq_iff template addressee.toDetails⟩

def circular (template : String) (addressees : List Addressee) : Fields := [
  ("email_content", .text template), ("recipients", .list (addressees.map Addressee.value))]

theorem get?_template_circular (template : String) (addressees : List Addressee) :
    Fields.get? "email_content" (circular template addressees) = some (.text template) := rfl

theorem get?_recipients_circular (template : String) (addressees : List Addressee) :
    Fields.get? "recipients" (circular template addressees) =
      some (.list (addressees.map Addressee.value)) := rfl

def Details.addressee (details : Details) : Addressee where
  toDetails := details
  record := [("email", .text details.email), ("name", .text details.name),
    ("last_purchase", .text details.purchase)]
  name_eq := rfl
  email_eq := rfl
  purchase_eq := rfl

def riddler : Details where
  name := "\x7b\x7bname\x7d\x7d"
  email := "\x7b\x7bemail"
  purchase := "\x7b\x7bemail\x7d\x7d for \x7b\x7bname\x7d\x7d"

def riddle : String :=
  "\x7b\x7b\x7b\x7bname\x7d\x7d\x7d\x7d at \x7b\x7bemail\x7d\x7d: \x7b\x7blast_purchase\x7d\x7d"

theorem personalize_riddle :
    personalize (Session.holding { state := .null } (circular riddle [riddler.addressee])) =
      .ok () (Session.holding { state := .null } (Fields.set "recipients"
        (.list [riddler.addressee.withContent (riddler.insertedInto riddle)])
        (circular riddle [riddler.addressee]))) ∧
    riddler.insertedInto riddle =
      "\x7b\x7b\x7b\x7bname\x7d\x7d\x7d\x7d at \x7b\x7bemail: \x7b\x7bemail\x7d\x7d for \x7b\x7bname\x7d\x7d" := by
  obtain ⟨hrun, hiff⟩ := personalize_verbatim_iff_addNoMarks { state := .null }
    (get?_template_circular riddle [riddler.addressee]) (get?_recipients_circular riddle [riddler.addressee])
  have hmarks : riddler.AddNoMarks riddle := ⟨.inr (by decide +kernel), by decide +kernel⟩
  have hsame : riddler.addressee.filledInto riddle = riddler.insertedInto riddle :=
    (hiff riddler.addressee List.mem_cons_self).2 hmarks riddler.purchase
  rw [List.map_cons, List.map_nil, hsame] at hrun
  exact ⟨hrun, by decide +kernel⟩

def impostor : Details where
  name := "\x7b\x7bemail\x7d\x7d"
  email := "eve@example.com"
  purchase := "lamp"

def greeting : String := "Hi \x7b\x7bname\x7d\x7d,\n\nHere's what's new this week..."

/-- The name is read as a placeholder. -/
theorem personalize_greeting :
    personalize (Session.holding { state := .null } (circular greeting [impostor.addressee])) =
      .ok () (Session.holding { state := .null } (Fields.set "recipients"
        (.list [impostor.addressee.withContent "Hi eve@example.com,\n\nHere's what's new this week..."])
        (circular greeting [impostor.addressee]))) ∧
    impostor.insertedInto greeting = "Hi \x7b\x7bemail\x7d\x7d,\n\nHere's what's new this week..." := by
  have hrun := personalize_holding (get?_template_circular greeting [impostor.addressee])
    (get?_recipients_circular greeting [impostor.addressee]) { state := .null }
  have hfilled : impostor.addressee.filledInto greeting =
      "Hi eve@example.com,\n\nHere's what's new this week..." := by
    decide +kernel
  rw [List.map_cons, List.map_nil, hfilled] at hrun
  exact ⟨hrun, by decide +kernel⟩

end Workgraph.Campaign
