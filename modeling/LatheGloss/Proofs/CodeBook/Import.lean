import Mathlib
import LatheGloss.Proofs.CodeBook.DocumentShape
import LatheGloss.Proofs.CodeBook.History
import LatheGloss.Proofs.Disk.TextFile
import LatheGloss.Proofs.Json.Limits

/-! How an import ends. It merges all that a document describes, or it is refused and nothing of the
document is merged. A text that does not nest too deep is refused as a document, or else it holds an
integer of more digits than are read.
-/

namespace LatheGloss.CodeBook

namespace Call

/-- The text of a document. -/
def IsDocument (text : Text) : Prop :=
  ∃ document, Json.read text = .ok document ∧ Document.WellShaped document

/-- What a call has to merge can be read, and is a document. -/
def Sound : Call → Prop
  | merge _ => True
  | importDocument document _ => Document.WellShaped document
  | importJson text _ => IsDocument text
  | load disk path => ∃ text, disk.readText path = .ok text ∧ IsDocument text

end Call

-----------------------------------------------------------------------------------------
-- All or nothing
-----------------------------------------------------------------------------------------

theorem exists_toOption_iff {ε α : Type} {value : Except ε α}
    : (∃ found, value.toOption = some found) ↔ ∃ found, value = .ok found := by
  cases value <;> simp [Except.toOption]

theorem exists_supplementOfText_iff {text : Text}
    : (∃ supplement, Call.supplementOfText text = some supplement) ↔ Call.IsDocument text := by
  unfold Call.supplementOfText Call.IsDocument
  cases Json.read text with
  | error fault => simp [Except.toOption]
  | ok document =>
      simp only [Except.ok.injEq, exists_eq_left']
      exact exists_toOption_iff.trans Document.exists_supplement_iff

/-- A call has something to merge just when it is sound, by cases of the call. -/
theorem exists_supplement?_iff {call : Call}
    : (∃ supplement, call.supplement? = some supplement) ↔ call.Sound := by
  cases call with
  | merge supplement => simp [Call.supplement?, Call.Sound]
  | importDocument document source =>
      exact exists_toOption_iff.trans Document.exists_supplement_iff
  | importJson text source => exact exists_supplementOfText_iff
  | load disk path =>
      dsimp only [Call.supplement?, Call.Sound]
      cases disk.readText path with
      | error fault => simp [Except.toOption]
      | ok text =>
          simp only [Except.ok.injEq, exists_eq_left']
          exact exists_supplementOfText_iff

/-- A call fails just when it is not sound, whatever the code book. -/
theorem exists_error_iff (book : CodeBook) {call : Call}
    : (∃ fault, call.perform book = .error fault) ↔ ¬call.Sound := by
  have merged := book?_perform book call
  rw [← exists_supplement?_iff]
  cases performed : call.perform book with
  | error fault =>
      have none : call.supplement? = none := by
        simpa [performed, Change.book?, Except.toOption] using merged.symm
      simp [none]
  | ok changed =>
      obtain ⟨supplement, some, -⟩ : ∃ supplement, call.supplement? = some supplement ∧ _ := by
        simpa [performed, Change.book?, Except.toOption] using merged.symm
      simp [some]

theorem after_of_error {book : CodeBook} {call : Call} {fault : Fault}
    (failed : call.perform book = .error fault)
    : book.after call = book := by
  rw [after, failed]
  rfl

-----------------------------------------------------------------------------------------
-- Faults that are not reported
-----------------------------------------------------------------------------------------

/-- A change fails with a fault that is not reported as one of a dictionary. -/
def Change.Escapes (change : Change) : Prop :=
  ∃ fault, change = .error fault ∧ fault.concernsDictionary = false

theorem not_escapes_ok {changed : CodeBook × List Notice}
    : ¬Change.Escapes (.ok changed) := by
  rintro ⟨fault, failed, -⟩
  cases failed

theorem escapes_error_iff {fault : Fault}
    : Change.Escapes (.error fault) ↔ fault.concernsDictionary = false := by
  simp [Change.Escapes]

theorem escapes_map_iff {change : Change}
    {f : CodeBook × List Notice → CodeBook × List Notice}
    : Change.Escapes (change.map f) ↔ change.Escapes := by
  cases change with
  | error fault => exact Iff.rfl
  | ok changed => exact iff_of_false not_escapes_ok not_escapes_ok

theorem not_escapes_importDocument (book : CodeBook) (document : Json) (source : Option Text)
    : ¬(book.importDocument document source).Escapes := by
  unfold importDocument
  split
  · exact fun escapes => nomatch escapes_error_iff.mp escapes
  · exact not_escapes_ok

/-- Of the faults of reading a text, only mistakes are reported. -/
theorem escapes_importJson_iff {book : CodeBook} {text : Text} {source : Option Text}
    : (book.importJson text source).Escapes ↔ ¬Json.WithinLimits text := by
  unfold importJson Json.WithinLimits
  cases Json.read text with
  | ok document => simpa using not_escapes_importDocument book document source
  | error reason =>
      cases reason <;>
        simp [escapes_error_iff, Fault.concernsDictionary, Json.ReadFault.IsMistake]

/-- Nor is it reported that a path is none. -/
theorem escapes_importFrom_iff {book : CodeBook} {file : Except FileFault Text} {source : Text}
    : (book.importFrom file source).Escapes
      ↔ (∃ fault, file = .error (.disk fault) ∧ fault.isRefusal = false)
        ∨ ∃ text, file = .ok text ∧ ¬Json.WithinLimits text := by
  match file with
  | .error (.disk fault) =>
      cases refusal : fault.isRefusal <;>
        simp [importFrom, refusal, escapes_error_iff, Fault.concernsDictionary]
  | .error (.openFile _) | .error (.encoding _) =>
      simp [importFrom, escapes_error_iff, Fault.concernsDictionary]
  | .ok text => simp [importFrom, escapes_map_iff, escapes_importJson_iff]

theorem escapes_load_iff {book : CodeBook} {disk : Disk} {path : Text}
    : (book.load disk path).Escapes
      ↔ ¬Disk.IsPath path ∨ ∃ text, disk.readText path = .ok text ∧ ¬Json.WithinLimits text := by
  rw [← disk.exists_readText_eq_noPath_iff]
  exact escapes_importFrom_iff

-----------------------------------------------------------------------------------------
-- The ways in which an import ends
-----------------------------------------------------------------------------------------

/-- Reading stopped at an integer of the text, if there is a text, that has more digits than are
read.
-/
def StopsAtInteger (text? : Option Text) (fault : Fault) : Prop :=
  ∃ text ∈ text?, ∃ count,
    fault = .digitLimit count ∧ Json.digitLimit < count ∧ Json.HasDigits count text

theorem StopsAtInteger.concernsDictionary {text? : Option Text} {fault : Fault}
    (stops : StopsAtInteger text? fault)
    : fault.concernsDictionary = false := by
  obtain ⟨text, -, count, rfl, -⟩ := stops
  rfl

/-- How the import of a text from a source ends, if there is a text: its document is merged, it is
refused, or reading stops at an integer that is too long.
-/
inductive ImportEnd (book : CodeBook) (text? : Option Text) (source : Option Text)
    : Change → Prop
  | merged {text document supplement notices} (given : text? = some text)
    (spelled : Json.read text = .ok document)
    (held : Document.supplement document = .ok supplement)
    : ImportEnd book text? source (.ok (book.merge supplement, notices))
  | refused (cause : ImportCause)
    : ImportEnd book text? source (.error (.importRefused cause source))
  | stopped {fault} (stops : StopsAtInteger text? fault)
    : ImportEnd book text? source (.error fault)

theorem importEnd_importJson (book : CodeBook) {text : Text} (source : Option Text)
    (shallow : Json.nesting text ≤ Json.depthLimit)
    : ImportEnd book (some text) source (book.importJson text source) := by
  unfold importJson
  cases spelled : Json.read text with
  | ok document =>
      dsimp only [importDocument]
      cases held : Document.supplement document with
      | ok supplement => exact .merged rfl spelled held
      | error offence => exact .refused _
  | error fault =>
      rcases Json.fault_of_read spelled with ⟨what, place, rfl⟩ | ⟨container, rfl, deep⟩ |
        ⟨count, rfl, long, digits⟩
      · exact .refused _
      · exact absurd shallow (Nat.not_le_of_lt deep)
      · exact .stopped ⟨text, rfl, count, rfl, long, digits⟩

/-- A file that holds no text is refused like one that cannot be read. -/
theorem importEnd_importFrom (book : CodeBook) {file : Except FileFault Text} (source : Text)
    (found : ∀ fault, file = .error (.disk fault) → fault.isRefusal = true)
    (shallow : ∀ text, file = .ok text → Json.nesting text ≤ Json.depthLimit)
    : ImportEnd book file.toOption (some source) (book.importFrom file source) := by
  match file with
  | .error (.disk fault) =>
      rw [importFrom, if_pos (found fault rfl)]
      exact .refused _
  | .error (.openFile _) | .error (.encoding _) => exact .refused _
  | .ok text =>
      have ends := importEnd_importJson book (some source) (shallow text rfl)
      rw [importFrom]
      generalize book.importJson text (some source) = change at ends ⊢
      cases ends with
      | merged given spelled held => exact .merged given spelled held
      | refused cause => exact .refused cause
      | stopped stops => exact .stopped stops

theorem importEnd_load (book : CodeBook) {disk : Disk} {path : Text} {bytes : List UInt8}
    (readable : disk.readBytes path = .ok bytes)
    (shallow : ∀ text, disk.readText path = .ok text → Json.nesting text ≤ Json.depthLimit)
    : ImportEnd book (disk.readText path).toOption (some path) (book.load disk path) := by
  refine importEnd_importFrom book path (fun fault failed => ?_) shallow
  rw [Disk.readText, readable] at failed
  exact absurd failed (Disk.textOf_ne_disk _ fault)

end LatheGloss.CodeBook
