import Mathlib
import LatheGloss.Proofs.Annotator.History
import LatheGloss.Proofs.Startup
import LatheGloss.Proofs.Workbench.Freshness

/-! Imports as the user meets them. An import that cannot be merged in full changes nothing, in the
code book, in the annotator or at the workbench, and runs go on as if it had not been tried. What
is said of it is a warning, unless reading stopped at an integer that is too long, which start-up
does not survive either.
-/

namespace LatheGloss

-----------------------------------------------------------------------------------------
-- Calls that change nothing
-----------------------------------------------------------------------------------------

/-- A step that changes nothing where it is taken can be left out of a run. -/
theorem foldl_skip {σ α : Type} {step : σ → α → σ} {start : σ} {earlier : List α} {item : α}
    (same : step (earlier.foldl step start) item = earlier.foldl step start) (later : List α)
    : (earlier ++ item :: later).foldl step start = (earlier ++ later).foldl step start := by
  rw [List.foldl_append, List.foldl_append, List.foldl_cons, same]

theorem CodeBook.run_skip (book : CodeBook) (earlier : List CodeBook.Call) {call : CodeBook.Call}
    (unsound : ¬call.Sound) (later : List CodeBook.Call)
    : book.run (earlier ++ call :: later) = book.run (earlier ++ later) := by
  obtain ⟨fault, failed⟩ := (CodeBook.exists_error_iff (book.run earlier)).mpr unsound
  exact foldl_skip (CodeBook.after_of_error failed) later

namespace Annotator

/-- What an import asks of the code book. -/
def Call.import? : Call → Option CodeBook.Call
  | .importFile disk path => some (.load disk path)
  | .importText text => some (.importJson text none)
  | .annotate _ _ | .exportFile _ _ | .reset => none

/-- An import fails just when the code book fails, by the cases of imports. -/
theorem exists_error_iff (annotator : Annotator) {call : Call} {imported : CodeBook.Call}
    (asked : imported ∈ call.import?)
    : (∃ fault, annotator.perform call = .error fault) ↔ ¬imported.Sound := by
  have same
      : ∀ change : CodeBook.Change,
          (∃ fault, (change.map annotator.withBook).map Prod.fst = .error fault)
          ↔ ∃ fault, change = .error fault := by
    intro change
    cases change <;> simp [Except.map]
  rw [← CodeBook.exists_error_iff annotator.book]
  cases call with
  | importFile disk path =>
      obtain rfl := Option.some.inj asked
      exact same (annotator.book.load disk path)
  | importText text =>
      obtain rfl := Option.some.inj asked
      exact same (annotator.book.importJson text none)
  | annotate _ _ | exportFile _ _ | reset => cases asked

theorem after_of_error {annotator : Annotator} {call : Call} {fault : Fault}
    (failed : annotator.perform call = .error fault)
    : annotator.after call = annotator := by
  rw [after, failed]
  rfl

theorem run_skip (annotator : Annotator) (earlier : List Call) {call : Call}
    {imported : CodeBook.Call} (asked : imported ∈ call.import?) (unsound : ¬imported.Sound)
    (later : List Call)
    : annotator.run (earlier ++ call :: later) = annotator.run (earlier ++ later) := by
  obtain ⟨fault, failed⟩ := (exists_error_iff (annotator.run earlier) asked).mpr unsound
  exact foldl_skip (after_of_error failed) later

end Annotator

namespace Workbench

/-- All that an import brings about that comes to nothing: the file dialog and, unless that was
cancelled, a warning with a notice, or the fault itself if it is none to be reported.
-/
inductive ComesToNothing (bench : Workbench) (disk : Disk) (path : Text) : Reply → Prop
  | cancelled (asked : path = [])
    : ComesToNothing bench disk path
        { bench, disk, notices := [], dialogs := [.openBook bench.exportDirectory], fault := none }
  | reported {fault} (given : path ≠ [])
    (failed : bench.annotator.importFile disk path = .error fault)
    (concerns : fault.concernsDictionary = true)
    : ComesToNothing bench disk path
        { bench, disk, notices := [.importFailed fault],
          dialogs := [.openBook bench.exportDirectory, .warning fault.message], fault := none }
  | escaped {fault} (given : path ≠ [])
    (failed : bench.annotator.importFile disk path = .error fault)
    (other : fault.concernsDictionary = false)
    : ComesToNothing bench disk path
        { bench, disk, notices := [], dialogs := [.openBook bench.exportDirectory],
          fault := some fault }

theorem ComesToNothing.bench_eq {bench : Workbench} {disk : Disk} {path : Text} {reply : Reply}
    (nothing : ComesToNothing bench disk path reply)
    : reply.bench = bench := by
  cases nothing <;> rfl

theorem comesToNothing_of_error {bench : Workbench} {disk : Disk} {path : Text} {fault : Fault}
    (given : path ≠ []) (failed : bench.annotator.importFile disk path = .error fault)
    : ComesToNothing bench disk path (bench.importBook disk path) := by
  have named : path.isEmpty = false := by simpa using given
  unfold importBook
  simp only [named, failed, Bool.false_eq_true, if_false]
  split
  · next concerns => exact .reported given failed concerns
  · next other => exact .escaped given failed (Bool.eq_false_iff.mpr other)

/-- An import is cancelled, or what it has to merge is sound, or it comes to nothing. -/
theorem comesToNothing_importBook (bench : Workbench) {disk : Disk} {path : Text}
    (vain : path = [] ∨ ¬(CodeBook.Call.load disk path).Sound)
    : ComesToNothing bench disk path (bench.importBook disk path) := by
  by_cases given : path = []
  · subst given
    exact .cancelled rfl
  · obtain ⟨fault, failed⟩ :=
      (CodeBook.exists_error_iff bench.annotator.book).mpr (vain.resolve_left given)
    have load : bench.annotator.book.load disk path = .error fault := failed
    have file : bench.annotator.importFile disk path = .error fault := by
      rw [Annotator.importFile, load]
      rfl
    exact comesToNothing_of_error given file

theorem run_skip (bench : Workbench) (earlier : List Moment) {moment : Moment}
    (same : ((bench.run earlier).reply moment).bench = bench.run earlier) (later : List Moment)
    : bench.run (earlier ++ moment :: later) = bench.run (earlier ++ later) :=
  foldl_skip same later

/-- What cannot be merged in full is not merged at all, wherever it has its first mistake. A call
of a code book fails just when what it has to merge is not a document, and an import of an
annotator just when that call does; then neither the code book nor anything that the annotator has
of the last program changes. At the workbench an import that is cancelled or fails changes nothing
whatsoever, and all that is seen of it are the dialogs and the notice. All runs go on as if it had
not been tried.
-/
theorem run_ignores_failedImports
    : (∀ (book : CodeBook) (earlier : List CodeBook.Call) (call : CodeBook.Call)
          (later : List CodeBook.Call),
        ((∃ fault, call.perform (book.run earlier) = .error fault) ↔ ¬call.Sound)
        ∧ (¬call.Sound → book.run (earlier ++ call :: later) = book.run (earlier ++ later)))
      ∧ (∀ (annotator : Annotator) (earlier : List Annotator.Call) (call : Annotator.Call)
            (later : List Annotator.Call),
          ∀ imported ∈ call.import?,
            ((∃ fault, (annotator.run earlier).perform call = .error fault) ↔ ¬imported.Sound)
            ∧ (¬imported.Sound
              → annotator.run (earlier ++ call :: later) = annotator.run (earlier ++ later)))
      ∧ ∀ (bench : Workbench) (earlier : List Moment) (surroundings : Surroundings) (disk : Disk)
            (path : Text) (later : List Moment),
          path = [] ∨ ¬(CodeBook.Call.load disk path).Sound
          → let moment : Moment := ⟨surroundings, disk, .importBook path⟩
            let reached := bench.run earlier
            ComesToNothing reached disk path (reached.reply moment)
            ∧ bench.run (earlier ++ moment :: later) = bench.run (earlier ++ later) := by
  refine ⟨?_, ?_, ?_⟩
  · intro book earlier call later
    exact ⟨CodeBook.exists_error_iff _, fun unsound => book.run_skip earlier unsound later⟩
  · intro annotator earlier call later imported asked
    exact ⟨Annotator.exists_error_iff _ asked,
      fun unsound => annotator.run_skip earlier asked unsound later⟩
  · intro bench earlier surroundings disk path later vain moment reached
    have nothing : ComesToNothing reached disk path (reached.reply moment) :=
      comesToNothing_importBook reached vain
    exact ⟨nothing, bench.run_skip earlier nothing.bench_eq later⟩

/-- The only mistake is the last description of the last model. -/
theorem run_ignores_failedImports_lastDescription
    : let text : Text :=
        "\x7b\"baseDict\": \x7b\"G7\": \"a\"\x7d, "
          ++ "\"modelDicts\": \x7b\"M\": \x7b\"G1\": \"b\", \"G2\": 2\x7d\x7d\x7d"
      let disk : Disk := ⟨[([Text.Utf8.bytes "d"], .file (Text.Utf8.bytes text))]⟩
      let file : CodeBook.Call := .load disk "d"
      let program : Annotator.Call := .annotate "G7" none
      let moment : Moment := ⟨⟨"h", "t", none⟩, disk, .importBook "d"⟩
      ¬file.Sound ∧ ¬(CodeBook.Call.importJson text none).Sound
      ∧ (∃ fault, file.perform .empty = .error fault)
      ∧ CodeBook.empty.run [file] = .empty
      ∧ (Annotator.ofCodeBook .empty).run [program, .importText text]
        = (Annotator.ofCodeBook .empty).run [program]
      ∧ ∃ bench notices,
          start (.ofCodeBook .empty) .default = .ok (bench, notices)
          ∧ ComesToNothing bench disk "d" (bench.reply moment)
          ∧ bench.run [moment] = bench := by
  intro text disk file program moment
  have unsound : ∀ call : CodeBook.Call, call.supplement?.isNone = true → ¬call.Sound := by
    intro call nothing
    rw [← CodeBook.exists_supplement?_iff, Option.isNone_iff_eq_none.mp nothing]
    simp
  have fileUnsound : ¬file.Sound := unsound file (by decide +kernel)
  have textUnsound : ¬(CodeBook.Call.importJson text none).Sound :=
    unsound (.importJson text none) (by decide +kernel)
  obtain ⟨ofBook, ofAnnotator, ofBench⟩ := run_ignores_failedImports
  obtain ⟨bookFails, bookRuns⟩ := ofBook .empty [] file []
  obtain ⟨-, annotatorRuns⟩ :=
    ofAnnotator (.ofCodeBook .empty) [program] (.importText text) [] _ rfl
  have valid : Settings.validGeometry Settings.default.windowGeometry = true := rfl
  obtain ⟨before, started⟩ := start_eq_refresh (.ofCodeBook .empty) valid
  obtain ⟨nothing, benchRuns⟩ :=
    ofBench before.refresh.1 [] ⟨"h", "t", none⟩ disk "d" [] (.inr fileUnsound)
  exact ⟨fileUnsound, textUnsound, bookFails.mpr fileUnsound, bookRuns fileUnsound,
    annotatorRuns textUnsound, _, _, started, nothing, benchRuns⟩

-----------------------------------------------------------------------------------------
-- The ways in which an import ends for the user
-----------------------------------------------------------------------------------------

/-- After the file dialog, a message box tells whether the document was merged. -/
def EndsInMessage (bench : Workbench) (path : Text) (reply : Reply) : Prop :=
  reply.fault = none
  ∧ (reply.dialogs
      = [.openBook bench.exportDirectory, .information "辞書を読み込みました"]
    ∨ ∃ cause,
        reply.dialogs
        = [.openBook bench.exportDirectory,
          .warning (Fault.importRefused cause (some path)).message])

/-- The workbench tells how the import ended in its code book. -/
theorem endsInMessage_importBook (bench : Workbench) {disk : Disk} {path : Text}
    {text? : Option Text} (given : path ≠ [])
    (ends : CodeBook.ImportEnd bench.annotator.book text? (some path)
      (bench.annotator.book.load disk path))
    : EndsInMessage bench path (bench.importBook disk path)
      ∨ ∃ fault,
          (bench.importBook disk path).fault = some fault
          ∧ CodeBook.StopsAtInteger text? fault := by
  have named : path.isEmpty = false := by simpa using given
  unfold importBook Annotator.importFile
  simp only [named, Bool.false_eq_true, if_false]
  generalize bench.annotator.book.load disk path = change at ends
  cases ends with
  | merged _ _ _ => exact .inl ⟨rfl, .inl rfl⟩
  | refused cause => exact .inl ⟨rfl, .inr ⟨cause, rfl⟩⟩
  | stopped stops =>
      refine .inr ⟨_, ?_, stops⟩
      simp only [Except.map, stops.concernsDictionary, Bool.false_eq_true, if_false]

theorem ne_nil_of_readBytes {disk : Disk} {path : Text} {bytes : List UInt8}
    (readable : disk.readBytes path = .ok bytes)
    : path ≠ [] := by
  rintro rfl
  cases readable

/-- Every import of a text, and of a file whatever its bytes are, merges a document or is refused,
unless reading stops at an integer that is too long. Nothing else keeps start-up with such a file
from an annotator, or an import at the workbench from its message.
-/
theorem import_ends {text : Text} (shallow : Json.nesting text ≤ Json.depthLimit) {disk : Disk}
    {path : Text} {bytes : List UInt8} (readable : disk.readBytes path = .ok bytes)
    (shallowFile
      : ∀ text, disk.readText path = .ok text → Json.nesting text ≤ Json.depthLimit)
    : let held := (disk.readText path).toOption
      (∀ book source,
        CodeBook.ImportEnd book (some text) source (book.importJson text source))
      ∧ (∀ book, CodeBook.ImportEnd book held (some path) (book.load disk path))
      ∧ (∀ annotator : Annotator,
          ∃ change,
            CodeBook.ImportEnd annotator.book held (some path) change
            ∧ annotator.importFile disk path = change.map annotator.withBook)
      ∧ (∀ (settings : Settings) (files : OpenFiles),
          settings.dictionaryPath = .str path
          → (∃ result, Startup.annotator settings disk files = .ok result)
            ∨ ∃ fault,
                Startup.annotator settings disk files = .error fault
                ∧ CodeBook.StopsAtInteger held fault)
      ∧ ∀ bench : Workbench,
          EndsInMessage bench path (bench.importBook disk path)
          ∨ ∃ fault,
              (bench.importBook disk path).fault = some fault
              ∧ CodeBook.StopsAtInteger held fault := by
  intro held
  have loads : ∀ book, CodeBook.ImportEnd book held (some path) (book.load disk path) :=
    fun book => CodeBook.importEnd_load book readable shallowFile
  have given := ne_nil_of_readBytes readable
  refine ⟨?_, loads, ?_, ?_, ?_⟩
  · intro book source
    exact CodeBook.importEnd_importJson book source shallow
  · intro annotator
    exact ⟨_, loads annotator.book, rfl⟩
  · intro settings files named
    exact Startup.annotator_of_importEnd named given (loads Dialect.codeBook)
  · intro bench
    exact endsInMessage_importBook bench given (loads bench.annotator.book)

/-- A file that holds no text is refused. -/
theorem import_ends_noText
    : let text : Text := "[1, 2"
      let disk : Disk := ⟨[([Text.Utf8.bytes "d"], .file [0x5B, 0xC3])]⟩
      let path : Text := "d"
      let settings : Settings := { Settings.default with dictionaryPath := .str path }
      Json.nesting text ≤ Json.depthLimit
      ∧ disk.readBytes path = .ok [0x5B, 0xC3]
      ∧ (disk.readText path).toOption = none
      ∧ CodeBook.ImportEnd .empty (some text) none (CodeBook.empty.importJson text none)
      ∧ (∃ cause, CodeBook.empty.load disk path = .error (.importRefused cause (some path)))
      ∧ (∃ result, Startup.annotator settings disk (fun _ => none) = .ok result)
      ∧ ∃ bench notices,
          start (.ofCodeBook .empty) settings = .ok (bench, notices)
          ∧ EndsInMessage bench path (bench.importBook disk path) := by
  intro text disk path settings
  have shallow : Json.nesting text ≤ Json.depthLimit := by decide
  have readable : disk.readBytes path = .ok [0x5B, 0xC3] := rfl
  have noText : (disk.readText path).toOption = none := by decide +kernel
  have stopsNowhere : ∀ fault, ¬CodeBook.StopsAtInteger (disk.readText path).toOption fault := by
    rintro fault ⟨found, held, -⟩
    cases noText ▸ held
  have shallowFile
      : ∀ found, disk.readText path = .ok found → Json.nesting found ≤ Json.depthLimit := by
    intro found read
    rw [read] at noText
    cases noText
  obtain ⟨texts, files, -, startup, bench⟩ := import_ends shallow readable shallowFile
  have valid : Settings.validGeometry settings.windowGeometry = true := rfl
  obtain ⟨before, started⟩ := start_eq_refresh (.ofCodeBook .empty) valid
  refine ⟨shallow, readable, noText, texts .empty none, ?_, ?_, before.refresh.1, _, started, ?_⟩
  · have ends := files .empty
    generalize CodeBook.empty.load disk path = change at ends
    cases ends with
    | merged held _ _ => cases noText ▸ held
    | refused cause => exact ⟨cause, rfl⟩
    | stopped stops => exact absurd stops (stopsNowhere _)
  · exact (startup settings _ rfl).resolve_right fun ⟨fault, _, stops⟩ => stopsNowhere fault stops
  · exact (bench _).resolve_right fun ⟨fault, _, stops⟩ => stopsNowhere fault stops

/-- A single integer that is too long is neither merged nor refused as a document. -/
theorem exists_integer_escaping
    : let text : Text := List.replicate 4301 ('1' : Character)
      Json.nesting text ≤ Json.depthLimit
      ∧ CodeBook.empty.importJson text none = .error (.digitLimit 4301)
      ∧ ∀ cause source, Fault.digitLimit 4301 ≠ .importRefused cause source := by
  intro text
  have digits : ∀ d ∈ ↑ '1' :: List.replicate 4300 ('1' : Character), d.isDigit = true := by
    intro d member
    rw [← List.replicate_succ] at member
    rw [List.eq_of_mem_replicate member]
    rfl
  have length : (↑ '1' :: List.replicate 4300 ('1' : Character)).length = 4301 := by
    rw [List.length_cons, List.length_replicate]
  have spelled : text = ↑ '1' :: List.replicate 4300 ('1' : Character) := List.replicate_succ
  have found := Json.read_digits digits (by decide) (by rw [length]; decide)
  rw [length] at found
  rw [spelled]
  refine ⟨?_, ?_, ?_⟩
  · rw [Json.nesting_digits digits]
    exact Nat.zero_le _
  · rw [CodeBook.importJson, found]
  · intro cause source same
    cases same

end Workbench

end LatheGloss
