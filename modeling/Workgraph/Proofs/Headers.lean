import Mathlib.Data.List.Induction
import Workgraph.Proofs.Documents
import Workgraph.Proofs.Moderation
import Workgraph.Proofs.Replacement

/-!
# Headers of a message

What is read from a text of four headers. A line tells its header by how it begins, but then the name of the header
is taken out wherever it stands, and of a date only what follows the last colon is kept. So the headers are
read back if no value holds the name of its own header and the date holds no colon, and else they are not.
-/

namespace Workgraph

namespace Text

theorem countP_dropWhile (blank : Char → Bool) (s : List Char) :
    (s.dropWhile blank).countP (!blank ·) = s.countP (!blank ·) := by
  induction s with
  | nil => rfl
  | cons c rest ih =>
      rw [List.dropWhile_cons]
      split
      · rename_i hblank
        rw [ih, List.countP_cons_of_neg (by simp [hblank])]
      · rfl

theorem countP_trim (blank : Char → Bool) (s : List Char) :
    (trim blank s).countP (!blank ·) = s.countP (!blank ·) := by
  rw [trim, List.countP_reverse, countP_dropWhile, List.countP_reverse, countP_dropWhile]

theorem mem_trim_iff {blank : Char → Bool} {c : Char} (hc : blank c = false) (s : List Char) :
    c ∈ trim blank s ↔ c ∈ s := by
  have hdrop (s : List Char) : c ∈ s.dropWhile blank ↔ c ∈ s := by
    induction s with
    | nil => rfl
    | cons d rest ih =>
        rw [List.dropWhile_cons]
        split
        · rename_i hblank
          rw [ih, List.mem_cons, or_iff_right]
          rintro rfl
          rw [hc] at hblank
          cases hblank
        · rfl
  rw [trim, List.mem_reverse, hdrop, List.mem_reverse, hdrop]

theorem trim_cons {blank : Char → Bool} {c : Char} (hc : blank c = true) (s : List Char) :
    trim blank (c :: s) = trim blank s := by
  rw [trim, List.dropWhile_cons_of_pos hc, trim]

private theorem trim_replace_eq_iff {blank : Char → Bool} {name : List Char} (hne : name ≠ [])
    (hname : name.all (!blank ·) = true) (s : List Char) :
    trim blank (replace name [] s) = trim blank s ↔ ¬name <:+: s := by
  constructor
  · intro heq
    have hcount := countP_replace hne (!blank ·) [] s
    have hsame : (replace name [] s).countP (!blank ·) = s.countP (!blank ·) := by
      rw [← countP_trim, heq, countP_trim]
    have hlength : name.countP (!blank ·) = name.length :=
      List.countP_eq_length.2 (List.all_eq_true.1 hname)
    have hpos := List.length_pos_iff.2 hne
    rw [hsame, hlength, List.countP_nil, Nat.mul_zero] at hcount
    rw [← count_eq_zero_iff hne]
    have hzero : count name s * name.length = 0 := by omega
    exact (Nat.mul_eq_zero.1 hzero).resolve_right (by omega)
  · intro hfree
    rw [replace_of_absent hne hfree]

theorem splitAt_ne_nil (mark : Char) (s : List Char) : splitAt mark s ≠ [] := splitWhere_ne_nil _ s

private theorem lastPiece_append (mark : Char) (s rest : List Char) :
    lastPiece mark (s ++ mark :: rest) = lastPiece mark rest := by
  rw [lastPiece, splitAt_append, lastPiece, List.getLastD_eq_getLast?, List.getLastD_eq_getLast?,
    List.getLast?_append_of_ne_nil _ (splitAt_ne_nil mark rest)]

private theorem not_mem_lastPiece (mark : Char) (s : List Char) : mark ∉ lastPiece mark s := by
  intro hmem
  have hpiece : lastPiece mark s ∈ splitAt mark s := by
    rw [lastPiece, List.getLastD_eq_getLast?, List.getLast?_eq_some_getLast (splitAt_ne_nil mark s)]
    exact List.getLast_mem _
  have hfree := free_of_mem_splitWhere hpiece mark hmem
  simp at hfree

private theorem trim_lastPiece_eq_iff {blank : Char → Bool} {mark : Char} (hmark : blank mark = false)
    (s : List Char) : trim blank (lastPiece mark s) = trim blank s ↔ mark ∉ s := by
  constructor
  · intro heq hmem
    rw [← mem_trim_iff hmark, ← heq, mem_trim_iff hmark] at hmem
    exact not_mem_lastPiece mark s hmem
  · intro hfree
    rw [lastPiece, splitAt_of_not_mem hfree]
    rfl

end Text

namespace Documents

open Step

def headerLine (name value : String) : String := name ++ " " ++ value

theorem toList_headerLine (name value : String) :
    (headerLine name value).toList = name.toList ++ ' ' :: value.toList := by
  simp [headerLine]

theorem startsWith_headerLine (name value : String) :
    startsWith name (headerLine name value).toList = true := by
  rw [startsWith_iff, toList_headerLine]
  exact List.prefix_append _ _

theorem not_startsWith_headerLine {name other : String} (h : Text.Apart other.toList name.toList)
    (value : String) : startsWith other (headerLine name value).toList = false := by
  rw [Bool.eq_false_iff, ne_eq, startsWith_iff, toList_headerLine]
  exact h.not_begins _

def trimmed (s : String) : Value := Value.ofChars (Text.trim Text.isGap s.toList)

theorem ofChars_inj {s t : List Char} : Value.ofChars s = Value.ofChars t ↔ s = t := by
  rw [Value.ofChars, Value.ofChars, Value.text.injEq, String.ofList_inj]

theorem headerValue_eq_iff (name : String) (hne : name.toList ≠ [])
    (hname : name.toList.all (!Text.isGap ·) = true) (value : String) :
    headerValue name (headerLine name value).toList = trimmed value ↔
      ¬name.toList <:+: value.toList := by
  have hspace : ¬name.toList <+: ' ' :: value.toList := by
    intro hprefix
    obtain ⟨c, rest, hcons⟩ := List.exists_cons_of_ne_nil hne
    rw [hcons] at hprefix hname
    obtain rfl : c = ' ' := (List.cons_prefix_cons.1 hprefix).1
    simp [Text.isGap, Text.isWhite] at hname
  rw [headerValue, toList_headerLine, Text.replace_append hne, List.nil_append, Text.replace_cons hspace,
    Text.trim_cons (by decide), trimmed, ofChars_inj, Text.trim_replace_eq_iff hne hname]

/-- What a line says about the date, if it speaks of it. -/
def dateValue (line : List Char) : Value := Value.ofChars (Text.trim Text.isGap (Text.lastPiece ':' line))

private theorem dateValue_eq_iff (value : String) :
    dateValue (headerLine "Date:" value).toList = trimmed value ↔ ':' ∉ value.toList := by
  have hline : (headerLine "Date:" value).toList = "Date".toList ++ ':' :: ' ' :: value.toList := by
    rw [toList_headerLine]
    rfl
  have hspace : Text.trim Text.isGap value.toList = Text.trim Text.isGap (' ' :: value.toList) :=
    (Text.trim_cons (by decide) _).symm
  rw [dateValue, hline, Text.lastPiece_append, trimmed, ofChars_inj, hspace,
    Text.trim_lastPiece_eq_iff (by decide), List.mem_cons, or_iff_right (by decide)]

theorem mentionsDate_of_suffix {value : String} {content : List Char}
    (h : (headerLine "Date:" value).toList <:+ content) : mentionsDate content = true := by
  obtain ⟨before, rfl⟩ := h
  have hlower : "date:".toList <:+: Text.lower "Date:".toList := by decide +kernel
  rw [mentionsDate, Text.occurs_iff_infix, toList_headerLine, ← List.append_assoc]
  exact Text.infix_lower_append (by decide) hlower before _

private theorem foldl_noteDate (lines : List (List Char)) :
    lines.foldl noteDate [] = [] ∨ ∃ v, lines.foldl noteDate [] = [("date", v)] := by
  induction lines using List.reverseRecOn with
  | nil => exact .inl rfl
  | append_singleton lines line ih =>
      rw [List.foldl_append, List.foldl_cons, List.foldl_nil, noteDate]
      split
      · rcases ih with hnone | ⟨v, hsome⟩
        · rw [hnone]
          exact .inr ⟨_, rfl⟩
        · rw [hsome]
          exact .inr ⟨_, rfl⟩
      · exact ih

private theorem foldl_noteDate_append {line : List Char} (h : mentionsDate line = true)
    (lines : List (List Char)) :
    (lines ++ [line]).foldl noteDate [] = [("date", dateValue line)] := by
  rw [List.foldl_append, List.foldl_cons, List.foldl_nil, noteDate, if_pos h, dateValue]
  rcases foldl_noteDate lines with hnone | ⟨v, hsome⟩
  · rw [hnone]
    rfl
  · rw [hsome]
    rfl

section Notes

variable (found : Fields) (value : String)

private theorem noteHeader_sender : noteHeader found (headerLine "From:" value).toList =
    found.set "from" (headerValue "From:" (headerLine "From:" value).toList) := by
  rw [noteHeader, if_pos (startsWith_headerLine "From:" value)]

private theorem noteHeader_receiver : noteHeader found (headerLine "To:" value).toList =
    found.set "to" (headerValue "To:" (headerLine "To:" value).toList) := by
  rw [noteHeader, not_startsWith_headerLine (by decide), if_neg Bool.false_ne_true,
    if_pos (startsWith_headerLine "To:" value)]

private theorem noteHeader_subject : noteHeader found (headerLine "Subject:" value).toList =
    found.set "subject" (headerValue "Subject:" (headerLine "Subject:" value).toList) := by
  rw [noteHeader, not_startsWith_headerLine (by decide), if_neg Bool.false_ne_true,
    not_startsWith_headerLine (by decide), if_neg Bool.false_ne_true,
    if_pos (startsWith_headerLine "Subject:" value)]

private theorem noteHeader_date : noteHeader found (headerLine "Date:" value).toList = found := by
  rw [noteHeader, not_startsWith_headerLine (by decide), if_neg Bool.false_ne_true,
    not_startsWith_headerLine (by decide), if_neg Bool.false_ne_true,
    not_startsWith_headerLine (by decide), if_neg Bool.false_ne_true]

end Notes

/-- The values of the four headers of a message. -/
structure Headers where
  sender : String
  receiver : String
  subject : String
  date : String

namespace Headers

variable {headers : Headers}

def lines (headers : Headers) : List String := [
  headerLine "From:" headers.sender, headerLine "To:" headers.receiver,
  headerLine "Subject:" headers.subject, headerLine "Date:" headers.date]

def text (headers : Headers) : String := Text.join "\n" headers.lines

def fields (headers : Headers) : Fields := [
  ("date", trimmed headers.date), ("from", trimmed headers.sender), ("to", trimmed headers.receiver),
  ("subject", trimmed headers.subject)]

/-- None of the values goes over several lines. -/
structure AreOneLine (headers : Headers) : Prop where
  sender : '\n' ∉ headers.sender.toList
  receiver : '\n' ∉ headers.receiver.toList
  subject : '\n' ∉ headers.subject.toList
  date : '\n' ∉ headers.date.toList

/-- No value holds the name of its own header, and there is no colon in the date. -/
structure ArePlain (headers : Headers) : Prop where
  sender : ¬"From:".toList <:+: headers.sender.toList
  receiver : ¬"To:".toList <:+: headers.receiver.toList
  subject : ¬"Subject:".toList <:+: headers.subject.toList
  date : ':' ∉ headers.date.toList

theorem splitAt_text (h : headers.AreOneLine) :
    Text.splitAt '\n' headers.text.toList = headers.lines.map String.toList := by
  have hline (name : String) {value : String} (hname : '\n' ∉ name.toList) (hvalue : '\n' ∉ value.toList) :
      Text.splitAt '\n' (headerLine name value).toList = [(headerLine name value).toList] := by
    apply Text.splitAt_of_not_mem
    rw [toList_headerLine, List.mem_append, List.mem_cons]
    simp [hname, hvalue]
  have hjoin : Text.splitAt '\n' headers.text.toList = _ := Text.splitAt_join (List.cons_ne_nil _ _)
  simp only [hjoin, lines, List.flatMap_cons, List.flatMap_nil, hline "From:" (by decide) h.sender,
    hline "To:" (by decide) h.receiver, hline "Subject:" (by decide) h.subject,
    hline "Date:" (by decide) h.date]
  rfl

theorem metadata_text (h : headers.AreOneLine) : metadata headers.text = [
    ("date", dateValue (headerLine "Date:" headers.date).toList),
    ("from", headerValue "From:" (headerLine "From:" headers.sender).toList),
    ("to", headerValue "To:" (headerLine "To:" headers.receiver).toList),
    ("subject", headerValue "Subject:" (headerLine "Subject:" headers.subject).toList)] := by
  have htext : headers.text.toList = (headerLine "From:" headers.sender).toList ++
      '\n' :: ((headerLine "To:" headers.receiver).toList ++
      '\n' :: ((headerLine "Subject:" headers.subject).toList ++
      '\n' :: (headerLine "Date:" headers.date).toList)) := by
    simp [text, lines, Text.join]
  have hemail : typeOf headers.text.toList = "email" := by
    rw [typeOf_eq_email_iff]
    left
    rw [htext, toList_headerLine, List.append_assoc]
    exact List.prefix_append _ _
  have hdated : mentionsDate (headerLine "Date:" headers.date).toList = true :=
    mentionsDate_of_suffix (List.suffix_refl _)
  have hmentions : mentionsDate headers.text.toList = true := by
    have hlast : (headerLine "Date:" headers.date).toList <:+ headers.text.toList :=
      ⟨(headerLine "From:" headers.sender).toList ++ '\n' :: ((headerLine "To:" headers.receiver).toList ++
        '\n' :: ((headerLine "Subject:" headers.subject).toList ++ ['\n'])), by simp [htext]⟩
    exact mentionsDate_of_suffix hlast
  have hlines : headers.lines.map String.toList =
      [(headerLine "From:" headers.sender).toList, (headerLine "To:" headers.receiver).toList,
        (headerLine "Subject:" headers.subject).toList] ++
        [(headerLine "Date:" headers.date).toList] := rfl
  simp only [metadata, hemail, beq_self_eq_true, metadataOf, hmentions, if_true, splitAt_text h, hlines,
    foldl_noteDate_append hdated]
  simp only [List.cons_append, List.nil_append, List.foldl_cons, List.foldl_nil, noteHeader_sender,
    noteHeader_receiver, noteHeader_subject, noteHeader_date]
  rfl

private theorem metadata_text_eq_iff (h : headers.AreOneLine) :
    metadata headers.text = headers.fields ↔ headers.ArePlain := by
  have hsender := headerValue_eq_iff "From:" (by decide) (by decide) headers.sender
  have hreceiver := headerValue_eq_iff "To:" (by decide) (by decide) headers.receiver
  have hsubject := headerValue_eq_iff "Subject:" (by decide) (by decide) headers.subject
  have hdate := dateValue_eq_iff headers.date
  simp only [metadata_text h, fields, List.cons.injEq, Prod.mk.injEq, true_and, and_true, hsender, hreceiver,
    hsubject, hdate]
  constructor
  · rintro ⟨hcolon, hfrom, hto, habout⟩
    exact ⟨hfrom, hto, habout, hcolon⟩
  · intro hplain
    exact ⟨hplain.date, hplain.sender, hplain.receiver, hplain.subject⟩

end Headers

theorem exists_read_message {fields : Fields} {text : String}
    (hraw : Fields.get? "raw_content" fields = some (.text text)) (session : Session) :
    ∃ final, (do detectType; extractText; extractMetadata : Step Unit) (session.holding fields) =
        .ok () (session.holding final) ∧
      Fields.get? "metadata" final = some (.record (metadata text)) := by
  have htyped := detectType_holding hraw session
  generalize hfirst : Fields.set "document_type" (.text (typeOf text.toList)) fields = typed at htyped
  have hkept : Fields.get? "raw_content" typed = some (.text text) := by
    rw [← hfirst, Fields.get?_set_of_ne _ (by decide), hraw]
  have htype : Fields.get? "document_type" (texted text typed) = some (.text (typeOf text.toList)) := by
    rw [texted, Fields.get?_set_of_ne _ (by decide), ← hfirst, Fields.get?_set_self]
  have hmetadata := extractMetadata_holding (Fields.get?_set_self _ _ _) htype session
  refine ⟨_, Eq.trans ?_ hmetadata, Fields.get?_set_self _ _ _⟩
  simp only [bind_apply, htyped, extractText_holding hkept]

/-- A message of four headers always gives four values, and these are the values of its headers exactly if
the headers are plain. -/
theorem extractMetadata_eq_iff_arePlain (session : Session) {fields : Fields} {headers : Headers}
    (hlines : headers.AreOneLine)
    (hraw : Fields.get? "raw_content" fields = some (.text headers.text)) :
    ∃ final found,
      (do detectType; extractText; extractMetadata : Step Unit) (session.holding fields) =
        .ok () (session.holding final) ∧
      Fields.get? "metadata" final = some (.record found) ∧
      found.map Prod.fst = ["date", "from", "to", "subject"] ∧
      (found = headers.fields ↔ headers.ArePlain) := by
  obtain ⟨final, hrun, hfound⟩ := exists_read_message hraw session
  refine ⟨final, metadata headers.text, hrun, hfound, ?_, Headers.metadata_text_eq_iff hlines⟩
  rw [Headers.metadata_text hlines]
  rfl

def incoming (content : String) : Fields := [
  ("raw_content", .text content), ("document_type", ""), ("extracted_text", ""), ("metadata", .record [])]

theorem get?_incoming (content : String) :
    Fields.get? "raw_content" (incoming content) = some (.text content) := rfl

/-- A message whose values speak of the other headers and of dates. -/
def thread : Headers where
  sender := "  To: all, date: unknown\r"
  receiver := "Subject: From: me"
  subject := "Re: Date: 10:30"
  date := "\t2024-01-15 "

theorem extractMetadata_thread : ∃ final,
    (do detectType; extractText; extractMetadata : Step Unit)
        (Session.holding { state := .null } (incoming thread.text)) =
      .ok () (Session.holding { state := .null } final) ∧
    Fields.get? "metadata" final = some (.record thread.fields) := by
  have hlines : thread.AreOneLine := by
    constructor <;> decide
  have hplain : thread.ArePlain := by
    constructor <;> simp only [thread, String.reduceToList] <;> decide
  obtain ⟨final, found, hrun, hfound, -, hiff⟩ :=
    extractMetadata_eq_iff_arePlain { state := .null } hlines (get?_incoming thread.text)
  rw [hiff.2 hplain] at hfound
  exact ⟨final, hrun, hfound⟩

def appointment : Headers where
  sender := "john@example.com"
  receiver := "jane@example.com"
  subject := "Meeting"
  date := "2024-01-15 10:30"

/-- Of the date and the time only the minutes are left. -/
theorem extractMetadata_appointment : ∃ final found,
    (do detectType; extractText; extractMetadata : Step Unit)
        (Session.holding { state := .null } (incoming appointment.text)) =
      .ok () (Session.holding { state := .null } final) ∧
    Fields.get? "metadata" final = some (.record found) ∧
    Fields.get? "date" found = some (.text "30") ∧
    Fields.get? "date" appointment.fields = some (.text "2024-01-15 10:30") := by
  have hlines : appointment.AreOneLine := by
    constructor <;> decide
  have hcut : dateValue (headerLine "Date:" appointment.date).toList = .text "30" := by
    simp only [headerLine, dateValue, appointment, String.toList_append, String.reduceToList]
    rfl
  have hwhole : trimmed appointment.date = .text "2024-01-15 10:30" := by
    simp only [trimmed, appointment, String.reduceToList]
    rfl
  obtain ⟨final, hrun, hfound⟩ := exists_read_message (get?_incoming appointment.text) { state := .null }
  refine ⟨final, metadata appointment.text, hrun, hfound, ?_, ?_⟩
  · rw [Headers.metadata_text hlines, hcut]
    rfl
  · rw [Headers.fields, hwhole]
    rfl

end Documents

end Workgraph
