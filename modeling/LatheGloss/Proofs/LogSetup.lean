import Mathlib
import LatheGloss.LogSetup

/-! The log set up again and again. A set-up stops for want of a directory, at its level or at the
log file, or it goes through; so after any set-ups there are no handlers, or the console, or the
console and the file behind it, and what was attached once stays as it is.
-/

namespace LatheGloss

/-- The faults of values that are no level. -/
def Fault.concernsLevel : Fault → Bool
  | noText _ | unknownLevel _ | levelType _ => true
  | _ => false

namespace LogSetup

/-- A set-up, with the disk and the surroundings that it comes upon. -/
structure Call where
  surroundings : Surroundings
  disk : Disk
  level : Json
  requested : Option Text

def Call.perform (handlers : List Handler) (call : Call) : Result :=
  setUp handlers call.surroundings call.disk call.level call.requested

/-- The handlers after one call after the other, also where a call ends in a fault. -/
def run (handlers : List Handler) (calls : List Call) : List Handler :=
  calls.foldl (fun handlers call => (call.perform handlers).handlers) handlers

theorem run_append (handlers : List Handler) (earlier later : List Call)
    : run handlers (earlier ++ later) = run (run handlers earlier) later :=
  List.foldl_append

-----------------------------------------------------------------------------------------
-- Ends of a set-up
-----------------------------------------------------------------------------------------

/-- The handlers with the file behind them, unless it is there. -/
def withFile (handlers : List Handler) : List Handler :=
  if isAttached handlers .file then handlers else handlers ++ [⟨.file, debugLevel⟩]

/-- How a set-up for a level can end. -/
inductive Ends (handlers : List Handler) (level : Json) : Result → Prop
  | noDirectory (disk : Disk) (fault : DiskFault)
    : Ends handlers level { handlers, disk, fault := some (.disk fault) }
  | noLevel (disk : Disk) {fault} (failed : attachConsole handlers level = .error fault)
    : Ends handlers level { handlers, disk, fault := some fault }
  | noFile (disk : Disk) (fault : DiskFault) {consoled}
    (console : attachConsole handlers level = .ok consoled)
    : Ends handlers level { handlers := consoled, disk, fault := some (.disk fault) }
  | complete (disk : Disk) {consoled} (console : attachConsole handlers level = .ok consoled)
    : Ends handlers level { handlers := withFile consoled, disk, fault := none }

theorem ends_attach (handlers : List Handler) (disk : Disk) (level : Json) (directory : Text)
    : Ends handlers level (attach handlers disk level directory) := by
  unfold attach
  cases console : attachConsole handlers level with
  | error fault => exact .noLevel disk console
  | ok consoled =>
      dsimp only [attachFile]
      split
      · next there =>
          have same : withFile consoled = consoled := if_pos there
          rw [← same]
          exact .complete disk console
      · next missing =>
          split
          · next touched _ =>
              have added : withFile consoled = consoled ++ [⟨.file, debugLevel⟩] := if_neg missing
              rw [← added]
              exact .complete touched console
          · next fault _ => exact .noFile disk fault console

/-- Only the disk can refuse the directory. -/
theorem exists_of_directory_eq_error {surroundings : Surroundings} {disk after : Disk}
    {fault : Fault} (found : directory surroundings disk = (after, .error fault))
    : ∃ reason, fault = .disk reason := by
  unfold directory at found
  dsimp only at found
  split at found
  · cases found
  · split at found
    · cases found
    · cases found
      exact ⟨_, rfl⟩
  · cases found
    exact ⟨_, rfl⟩

/-- The directory is looked for before anything else is done. -/
theorem ends_perform (handlers : List Handler) (call : Call)
    : Ends handlers call.level (call.perform handlers) := by
  unfold Call.perform setUp
  split
  · apply ends_attach
  · split
    · next disk fault found =>
        obtain ⟨reason, rfl⟩ := exists_of_directory_eq_error found
        exact .noDirectory disk reason
    · apply ends_attach

-----------------------------------------------------------------------------------------
-- Handlers in their order
-----------------------------------------------------------------------------------------

/-- The handlers that there can be: none, the console, or the console and the file behind it. -/
inductive Arranged : List Handler → Prop
  | bare : Arranged []
  | console (level : Nat) : Arranged [⟨.console, level⟩]
  | both (level : Nat) : Arranged [⟨.console, level⟩, ⟨.file, debugLevel⟩]

/-- Without handlers the console is attached at the level that the value stands for. -/
theorem attachConsole_nil (level : Json)
    : attachConsole [] level = (levelOf level).map fun level => [⟨.console, level⟩] :=
  rfl

/-- With a console the level makes no difference. -/
theorem attachConsole_console (number : Nat) (rest : List Handler) (level : Json)
    : attachConsole (⟨.console, number⟩ :: rest) level = .ok (⟨.console, number⟩ :: rest) :=
  rfl

theorem eq_of_attachConsole_console {number : Nat} {rest consoled : List Handler} {level : Json}
    (console : attachConsole (⟨.console, number⟩ :: rest) level = .ok consoled)
    : consoled = ⟨.console, number⟩ :: rest :=
  (Except.ok.inj ((attachConsole_console number rest level).symm.trans console)).symm

theorem attachConsole_nil_eq_ok_iff {level : Json} {consoled : List Handler}
    : attachConsole [] level = .ok consoled
      ↔ ∃ number, levelOf level = .ok number ∧ consoled = [⟨.console, number⟩] := by
  rw [attachConsole_nil]
  cases levelOf level with
  | error fault => simp [Except.map]
  | ok number => simp [Except.map, eq_comm]

theorem attachConsole_nil_eq_error_iff {level : Json} {fault : Fault}
    : attachConsole [] level = .error fault ↔ levelOf level = .error fault := by
  rw [attachConsole_nil]
  cases levelOf level <;> simp [Except.map]

/-- All that can be wrong with a level concerns the level. -/
theorem concernsLevel_of_levelOf {level : Json} {fault : Fault}
    (failed : levelOf level = .error fault)
    : fault.concernsLevel = true := by
  unfold levelOf at failed
  split at failed
  · dsimp only at failed
    split_ifs at failed
    · cases failed
      rfl
    · cases failed
      rfl
  · cases failed
    rfl

-----------------------------------------------------------------------------------------
-- What a call attaches
-----------------------------------------------------------------------------------------

/-- How the handlers can go on with a set-up for a level. The console comes with the level that the
value stands for, and only a set-up that goes through brings the file.
-/
inductive Advance (level : Json) : List Handler → Option Fault → List Handler → Prop
  | noLevel {fault} (failed : levelOf level = .error fault) : Advance level [] (some fault) []
  | refused {handlers} (fault : DiskFault)
    : Advance level handlers (some (.disk fault)) handlers
  | consoleOnly {number} (fault : DiskFault) (known : levelOf level = .ok number)
    : Advance level [] (some (.disk fault)) [⟨.console, number⟩]
  | bothAtOnce {number} (known : levelOf level = .ok number)
    : Advance level [] none [⟨.console, number⟩, ⟨.file, debugLevel⟩]
  | fileAfter (number : Nat)
    : Advance level [⟨.console, number⟩] none [⟨.console, number⟩, ⟨.file, debugLevel⟩]
  | nothing (number : Nat)
    : Advance level [⟨.console, number⟩, ⟨.file, debugLevel⟩] none
        [⟨.console, number⟩, ⟨.file, debugLevel⟩]

/-- Every set-up is such a step, by the handlers that it finds and the way in which it ends. -/
theorem Arranged.advance {handlers : List Handler} (arranged : Arranged handlers) {level : Json}
    {result : Result} (ends : Ends handlers level result)
    : Advance level handlers result.fault result.handlers := by
  cases ends with
  | noDirectory disk fault => exact .refused fault
  | noLevel disk failed =>
      cases arranged with
      | bare => exact .noLevel (attachConsole_nil_eq_error_iff.mp failed)
      | console number => cases (attachConsole_console number _ level).symm.trans failed
      | both number => cases (attachConsole_console number _ level).symm.trans failed
  | noFile disk fault console =>
      cases arranged with
      | bare =>
          obtain ⟨number, known, rfl⟩ := attachConsole_nil_eq_ok_iff.mp console
          exact .consoleOnly fault known
      | console number =>
          obtain rfl := eq_of_attachConsole_console console
          exact .refused fault
      | both number =>
          obtain rfl := eq_of_attachConsole_console console
          exact .refused fault
  | complete disk console =>
      cases arranged with
      | bare =>
          obtain ⟨number, known, rfl⟩ := attachConsole_nil_eq_ok_iff.mp console
          exact .bothAtOnce known
      | console number =>
          obtain rfl := eq_of_attachConsole_console console
          exact .fileAfter number
      | both number =>
          obtain rfl := eq_of_attachConsole_console console
          exact .nothing number

variable {level : Json} {handlers after : List Handler} {fault : Option Fault}

theorem Advance.arranged (advance : Advance level handlers fault after)
    (arranged : Arranged handlers)
    : Arranged after := by
  cases advance with
  | noLevel _ => exact arranged
  | refused _ => exact arranged
  | consoleOnly _ _ => exact .console _
  | bothAtOnce _ => exact .both _
  | fileAfter number => exact .both number
  | nothing number => exact .both number

/-- What is attached stays in its place, with its level. -/
theorem Advance.isPrefix (advance : Advance level handlers fault after)
    : handlers <+: after := by
  cases advance with
  | noLevel _ => exact List.prefix_rfl
  | refused _ => exact List.prefix_rfl
  | consoleOnly _ _ => exact List.nil_prefix
  | bothAtOnce _ => exact List.nil_prefix
  | fileAfter number => exact List.prefix_append [_] [_]
  | nothing number => exact List.prefix_rfl

/-- A handler that is new on the console is the first of all, at the level of the call. -/
theorem Advance.console_of_not_mem (advance : Advance level handlers fault after)
    {handler : Handler} (member : handler ∈ after) (isConsole : handler.channel = .console)
    (new : handler ∉ handlers)
    : handlers = [] ∧ levelOf level = .ok handler.level := by
  cases advance with
  | noLevel _ => exact absurd member new
  | refused _ => exact absurd member new
  | consoleOnly _ known =>
      obtain rfl := List.mem_singleton.mp member
      exact ⟨rfl, known⟩
  | bothAtOnce known =>
      rcases List.mem_cons.mp member with rfl | isFile
      · exact ⟨rfl, known⟩
      · obtain rfl := List.mem_singleton.mp isFile
        cases isConsole
  | fileAfter number =>
      rcases List.mem_cons.mp member with rfl | isFile
      · exact absurd List.mem_cons_self new
      · obtain rfl := List.mem_singleton.mp isFile
        cases isConsole
  | nothing number => exact absurd member new

theorem Advance.of_concernsLevel {fault : Fault}
    (advance : Advance level handlers (some fault) after) (concerns : fault.concernsLevel = true)
    : levelOf level = .error fault ∧ after = handlers := by
  cases advance with
  | noLevel failed => exact ⟨failed, rfl⟩
  | refused _ => cases concerns
  | consoleOnly _ _ => cases concerns

/-- All other faults come from the disk, before or after the console is attached. -/
theorem Advance.of_not_concernsLevel {fault : Fault}
    (advance : Advance level handlers (some fault) after) (other : fault.concernsLevel = false)
    : (∃ reason, fault = .disk reason)
      ∧ (after = handlers
        ∨ ∃ number, levelOf level = .ok number ∧ after = handlers ++ [⟨.console, number⟩]) := by
  cases advance with
  | noLevel failed => cases (concernsLevel_of_levelOf failed).symm.trans other
  | refused reason => exact ⟨⟨reason, rfl⟩, .inl rfl⟩
  | consoleOnly reason known => exact ⟨⟨reason, rfl⟩, .inr ⟨_, known, rfl⟩⟩

theorem Advance.both (advance : Advance level handlers none after)
    : ∃ number, after = [⟨.console, number⟩, ⟨.file, debugLevel⟩] := by
  cases advance with
  | bothAtOnce _ => exact ⟨_, rfl⟩
  | fileAfter number => exact ⟨number, rfl⟩
  | nothing number => exact ⟨number, rfl⟩

/-- The file is the last handler to be attached. -/
theorem Advance.eq_of_file (advance : Advance level handlers fault after)
    (there : isAttached handlers .file = true)
    : after = handlers := by
  cases advance with
  | noLevel _ => rfl
  | refused _ => rfl
  | consoleOnly _ _ => cases there
  | bothAtOnce _ => cases there
  | fileAfter _ => cases there
  | nothing _ => rfl

-----------------------------------------------------------------------------------------
-- Any calls
-----------------------------------------------------------------------------------------

theorem arranged_run (calls : List Call)
    : Arranged (run [] calls) := by
  induction calls using List.reverseRecOn with
  | nil => exact .bare
  | append_singleton earlier call ih =>
      rw [run_append]
      exact (ih.advance (ends_perform _ call)).arranged ih

theorem advance_perform (calls : List Call) (call : Call)
    : let result := call.perform (run [] calls)
      Advance call.level (run [] calls) result.fault result.handlers :=
  (arranged_run calls).advance (ends_perform _ call)

theorem run_isPrefix (calls later : List Call)
    : run [] calls <+: run [] (calls ++ later) := by
  induction later using List.reverseRecOn with
  | nil => rw [List.append_nil]
  | append_singleton earlier call ih =>
      have step := (advance_perform (calls ++ earlier) call).isPrefix
      rw [← List.append_assoc, run_append]
      exact ih.trans step

/-- The console was attached by a call that found no handler, at the level of that call, by
induction over the calls from the last one.
-/
theorem exists_call_of_console {calls : List Call} {handler : Handler}
    (member : handler ∈ run [] calls) (isConsole : handler.channel = .console)
    : ∃ earlier call later,
        calls = earlier ++ call :: later
        ∧ run [] earlier = []
        ∧ levelOf call.level = .ok handler.level
        ∧ handler ∈ (call.perform []).handlers := by
  induction calls using List.reverseRecOn with
  | nil => cases member
  | append_singleton before last ih =>
      rw [run_append] at member
      by_cases there : handler ∈ run [] before
      · obtain ⟨earlier, call, later, rfl, facts⟩ := ih there
        exact ⟨earlier, call, later ++ [last], by simp, facts⟩
      · have step := advance_perform before last
        obtain ⟨bare, known⟩ := step.console_of_not_mem member isConsole there
        refine ⟨before, last, [], rfl, bare, known, ?_⟩
        rw [bare] at member
        exact member

/-- With a console the level of a call is not looked at. -/
theorem perform_of_console {handlers : List Handler}
    (there : isAttached handlers .console = true) (call : Call) (level : Json)
    : { call with level }.perform handlers = call.perform handlers := by
  have console (level : Json) : attachConsole handlers level = .ok handlers := if_pos there
  simp only [Call.perform, setUp, attach, console]

/-- The handlers after any calls, whatever their levels and their directories and whether or not
they end in a fault: at most the console and the file behind it, which takes all notices. The
console has the level of the call that attached it, and later calls leave it. A call that fails on
its level attaches nothing, one that the disk refuses at most the console, and one that does not
fail both; and if both are there a call changes nothing, whatever its level.
-/
theorem run_attachesOnce (calls : List Call)
    : let attached := run [] calls
      Arranged attached
      ∧ (∀ handler ∈ attached,
          handler.channel = .console
          → ∃ earlier call later,
              calls = earlier ++ call :: later
              ∧ run [] earlier = []
              ∧ levelOf call.level = .ok handler.level
              ∧ handler ∈ (call.perform []).handlers)
      ∧ (∀ later, attached <+: run [] (calls ++ later))
      ∧ ∀ call : Call,
          let result := call.perform attached
          (∀ fault ∈ result.fault,
            fault.concernsLevel = true
            → levelOf call.level = .error fault ∧ result.handlers = attached)
          ∧ (∀ fault ∈ result.fault,
              fault.concernsLevel = false
              → (∃ reason, fault = .disk reason)
                ∧ (result.handlers = attached
                  ∨ ∃ number,
                      levelOf call.level = .ok number
                      ∧ result.handlers = attached ++ [⟨.console, number⟩]))
          ∧ (result.fault = none
            → ∃ number, result.handlers = [⟨.console, number⟩, ⟨.file, debugLevel⟩])
          ∧ ((∀ channel, isAttached attached channel = true)
            → result.handlers = attached
              ∧ ∀ level, { call with level }.perform attached = result) := by
  intro attached
  refine ⟨arranged_run calls, ?_, run_isPrefix calls, ?_⟩
  · intro handler member isConsole
    exact exists_call_of_console member isConsole
  · intro call result
    have advance : Advance call.level attached result.fault result.handlers :=
      advance_perform calls call
    refine ⟨?_, ?_, ?_, ?_⟩
    · intro fault failed concerns
      rw [Option.mem_def.mp failed] at advance
      exact advance.of_concernsLevel concerns
    · intro fault failed other
      rw [Option.mem_def.mp failed] at advance
      exact advance.of_not_concernsLevel other
    · intro done
      rw [done] at advance
      exact advance.both
    · intro there
      exact ⟨advance.eq_of_file (there .file), perform_of_console (there .console) call⟩

/-- A level that is none, a directory that is missing, and then the file behind the console. -/
theorem run_attachesOnce_retried
    : let surroundings : Surroundings := ⟨"h", "t", none⟩
      let disk : Disk := ⟨[([Text.Utf8.bytes "d"], .directory)]⟩
      let noLevel : Call := ⟨surroundings, disk, .int 5, some "d"⟩
      let noFile : Call := ⟨surroundings, disk, .str "error", some "e"⟩
      let both : Call := ⟨surroundings, disk, .str "debug", some "d"⟩
      let console : Handler := ⟨.console, 40⟩
      (noLevel.perform []).fault = some (.noText "int")
      ∧ run [] [noLevel] = []
      ∧ (∃ reason, (noFile.perform []).fault = some (.disk reason))
      ∧ run [] [noLevel, noFile] = [console]
      ∧ [console] <+: run [] [noLevel, noFile, both]
      ∧ ∃ number, run [] [noLevel, noFile, both] = [⟨.console, number⟩, ⟨.file, debugLevel⟩] := by
  intro surroundings disk noLevel noFile both console
  have unknown : (noLevel.perform []).fault = some (.noText "int") := rfl
  have started : run [] [noLevel, noFile] = [console] := rfl
  have done : (both.perform (run [] [noLevel, noFile])).fault = none := rfl
  obtain ⟨-, -, -, calls⟩ := run_attachesOnce []
  obtain ⟨-, -, growing, next⟩ := run_attachesOnce [noLevel, noFile]
  refine ⟨unknown, ((calls noLevel).1 _ unknown rfl).2, ⟨_, rfl⟩, started, ?_, ?_⟩
  · rw [← started]
    exact growing [both]
  · exact (next both).2.2.1 done

end LogSetup

end LatheGloss
