import QueryPatch.Proofs.CommandLine.Degradation
import QueryPatch.Proofs.CommandLine.Readback

/-! # Running without columns

Without columns and without a database a run writes the queries as they were captured. When what it
wrote is given to it again, it writes the same.
-/
set_option autoImplicit false

namespace QueryPatch

open Text Capture

theorem Text.unifyNewlines_of_not_mem {text : Text} (h : '\r' ∉ text) :
    unifyNewlines text = text := by
  fun_induction unifyNewlines text with
  | case1 | case2 => simp at h
  | case3 c rest _ _ ih => rw [ih fun hMem => h (List.mem_cons_of_mem c hMem)]
  | case4 => rfl

theorem Capture.mem_of_mem_statementsFrom {line : Nat} {lineStart : Bool} {text : Text}
    {statement : Statement} {c : Char} (h : statement ∈ statementsFrom line lineStart text)
    (hMem : c ∈ statement.text) : c ∈ text := by
  have hStrip {captured : Text} (hMem : c ∈ stripEnd captured) : c ∈ captured := by
    obtain ⟨gap, hCaptured, -⟩ := exists_blank_behind captured
    rw [hCaptured]
    exact List.mem_append_left gap hMem
  induction lineStart, text using statements_induction generalizing line with
  | nil => cases (statementsFrom_nil line _ ▸ h)
  | skip lineStart d rest hSkip ih =>
    rw [statementsFrom_skip hSkip] at h
    exact List.mem_cons_of_mem d (ih h)
  | last text hWord hStop =>
    rw [statementsFrom_last hWord hStop, List.mem_singleton] at h
    rw [h] at hMem
    exact hStrip hMem
  | next captured after hWord hStop ih =>
    rw [statementsFrom_next hWord hStop] at h
    rcases List.mem_cons.mp h with rfl | h
    · exact List.mem_append_left _ (hStrip hMem)
    · exact List.mem_append_right _ (List.mem_cons_of_mem _ (ih h))

namespace CommandLine

theorem exists_of_mem_rendered {texts : List Text} {c : Char} (hSemicolon : c ≠ ';')
    (hNewline : c ≠ '\n') (h : c ∈ rendered texts) : ∃ text ∈ texts, c ∈ text := by
  induction texts with
  | nil => cases h
  | cons text rest ih =>
    rw [rendered_cons, List.mem_append, List.mem_cons, mem_afterSemicolon_iff hNewline] at h
    rcases h with hHere | hMark | hRest
    · exact ⟨text, List.mem_cons_self, hHere⟩
    · exact absurd hMark hSemicolon
    · obtain ⟨later, hLater, hMem⟩ := ih hRest
      exact ⟨later, List.mem_cons_of_mem text hLater, hMem⟩

theorem return_not_mem_rendered {content : Text} (h : '\r' ∉ content) :
    '\r' ∉ rendered ((Capture.statements content).map (·.text)) := by
  intro hMem
  obtain ⟨text, hText, hMem⟩ := exists_of_mem_rendered (by decide) (by decide) hMem
  obtain ⟨statement, hStatement, rfl⟩ := List.mem_map.mp hText
  exact h (mem_of_mem_statementsFrom hStatement hMem)

section text?

variable {storage : Storage} {path text : Text} {bytes : List UInt8}

theorem return_not_mem_of_text? (h : storage.text? path = .ok text) : '\r' ∉ text := by
  rw [Storage.text?] at h
  split at h
  · cases h
  · split at h
    · cases h
    · rw [← Except.ok.inj h]
      exact return_not_mem_unifyNewlines _

theorem text?_of_decodeUtf8 (hRead : storage.read path = .ok bytes)
    (hDecode : decodeUtf8 bytes = .ok text) (hReturn : '\r' ∉ text) :
    storage.text? path = .ok text := by
  simp only [Storage.text?, hRead, hDecode, unifyNewlines_of_not_mem hReturn]

end text?

section written

variable {options : Options} {settings : Settings} {surroundings : Surroundings}
  {place file message : Text}

theorem written_deliver_eq_some_iff {path content : Text} {storage : Storage} {start : Outcome}
    (h : start.written = none) :
    (deliver path storage content start).written = some (place, file) ↔
      path ≠ ['-'] ∧ storage.writable path = .ok place ∧ storage.breaks place content = none ∧
        file = content := by
  by_cases hDash : path = ['-']
  · simp [deliver, h, hDash]
  · cases hPlace : storage.writable path with
    | error fault => cases fault <;> simp [deliver, h, hDash, hPlace]
    | ok there =>
      cases hBreaks : storage.breaks there content with
      | none =>
        simp only [deliver, if_neg hDash, hPlace, hBreaks, Option.some.injEq, Prod.mk.injEq]
        constructor
        · rintro ⟨rfl, rfl⟩
          exact ⟨hDash, rfl, hBreaks, rfl⟩
        · rintro ⟨-, hThere, -, rfl⟩
          exact ⟨Except.ok.inj hThere, rfl⟩
      | some fault =>
        simp only [deliver, if_neg hDash, hPlace, hBreaks, h]
        constructor
        · intro hNone
          cases hNone
        · rintro ⟨-, hThere, hWhole, -⟩
          obtain rfl := Except.ok.inj hThere
          cases hBreaks.symm.trans hWhole

theorem written_finish_eq_some_iff {storage : Storage} {named : Option Text} {access : Access}
    {entries : List (Statement × Text)} {start : Outcome} (h : start.written = none) :
    (start.finish storage named access entries).written = some (place, file) ↔
      ∃ path, named = some path ∧ path ≠ ['-'] ∧ storage.writable path = .ok place ∧
        storage.breaks place file = none ∧ file = output entries := by
  cases named with
  | none =>
    have hSame := Outcome.sameOutput_close access.closing
      { start with fault := some .outputNotNamed }
    rw [Outcome.finish, hSame.written_eq]
    simp [h]
  | some path =>
    rw [(Outcome.sameOutput_finish start storage path access entries).written_eq,
      written_deliver_eq_some_iff h]
    constructor
    · rintro ⟨hDash, hPlace, hWhole, rfl⟩
      exact ⟨path, rfl, hDash, hPlace, hWhole, rfl⟩
    · rintro ⟨other, hOther, hDash, hPlace, hWhole, rfl⟩
      obtain rfl := Option.some.inj hOther
      exact ⟨hDash, hPlace, hWhole, rfl⟩

theorem written_patch_eq_some_iff (hSeparator : settings.separator ≠ [])
    (hColumns : options.sketchColumns = []) (hConnecting : surroundings.connecting = .error message)
    (statements : List Statement) :
    (patch options settings surroundings statements).written = some (place, file) ↔
      (∃ database, Database.load surroundings.environment = .ok database) ∧
        options.requiresDatabase = false ∧
        ∃ path, options.output = some path ∧ path ≠ ['-'] ∧
          surroundings.storage.writable path = .ok place ∧
          surroundings.storage.breaks place file = none ∧
          file = rendered (statements.map (·.text)) := by
  cases hLoad : Database.load surroundings.environment with
  | error fault => simp [patch, Access.obtain, hColumns, hLoad]
  | ok database =>
    cases hRequires : options.requiresDatabase with
    | true => simp [patch, Access.obtain, hColumns, hLoad, hConnecting, hRequires]
    | false =>
      have hAccess := obtain_of_not_connected hColumns hLoad hConnecting
      rw [hRequires, if_neg Bool.false_ne_true] at hAccess
      obtain ⟨start, hStarts, hPatch⟩ :=
        @exists_patch_eq_finish _ settings _ statements _ hAccess hSeparator
      rw [hPatch, written_finish_eq_some_iff hStarts.written_eq_none,
        entries_of_nil rfl hSeparator fun _ => rfl, output_unchanged]
      simp

/-- When a run without columns and without a database writes a file, and what it writes there. -/
theorem written_invoke_eq_some_iff {invocation : Invocation}
    (hColumns : invocation.options.sketchColumns = [])
    (hConnecting : surroundings.connecting = .error message) :
    (invoke invocation surroundings).written = some (place, file) ↔
      ∃ content, surroundings.storage.text? invocation.input = .ok content ∧
        Capture.statements content ≠ [] ∧ invocation.options.explains = false ∧
        (∃ database, Database.load surroundings.environment = .ok database) ∧
        invocation.options.requiresDatabase = false ∧
        ∃ path, invocation.options.output = some path ∧ path ≠ ['-'] ∧
          surroundings.storage.writable path = .ok place ∧
          surroundings.storage.breaks place file = none ∧
          file = rendered ((Capture.statements content).map (·.text)) := by
  cases hText : surroundings.storage.text? invocation.input with
  | error fault => simp [invoke, hText]
  | ok content =>
    cases hStatements : Capture.statements content with
    | nil => simp [invoke, hText, hStatements]
    | cons first rest =>
      cases hExplains : invocation.options.explains with
      | true => simp [invoke, hText, hStatements, hExplains, explain, Outcome.shown]
      | false =>
        have hSeparator (dialect : Option Text) (validates : Option Bool) :
            (Settings.load surroundings.environment dialect validates (some "\n")).separator ≠ [] :=
          List.cons_ne_nil '\n' []
        simp only [invoke, hText, hStatements, hExplains, Bool.false_eq_true, if_false,
          Outcome.shown]
        rw [written_patch_eq_some_iff (hSeparator _ _) hColumns hConnecting]
        simp [hStatements]

end written

/-- What a run without columns and without a database has written is written again, to the same
place, by the same run when it reads that instead. -/
theorem written_invoke_again {invocation : Invocation} {surroundings : Surroundings}
    {message place file : Text} {bytes : List UInt8}
    (hColumns : invocation.options.sketchColumns = [])
    (hConnecting : surroundings.connecting = .error message)
    (hWritten : (invoke invocation surroundings).written = some (place, file)) (storage : Storage)
    (hRead : storage.read invocation.input = .ok bytes) (hDecode : decodeUtf8 bytes = .ok file)
    (hWritable : storage.writable = surroundings.storage.writable)
    (hBreaks : storage.breaks place file = none) :
    (invoke invocation { surroundings with storage }).written = some (place, file) := by
  obtain ⟨content, hContent, hSome, hExplains, hLoad, hRequires, path, hPath, hDash, hPlace, -,
    rfl⟩ :=
    (written_invoke_eq_some_iff hColumns hConnecting).mp hWritten
  have hAgain := statements_rendered_map_text content
  have hTexts := map_text_writtenFrom 1 ((Capture.statements content).map (·.text))
  rw [written_eq] at hAgain
  have hConnecting' : { surroundings with storage }.connecting = .error message := hConnecting
  refine (written_invoke_eq_some_iff hColumns hConnecting').mpr
    ⟨rendered ((Capture.statements content).map (·.text)), ?_, ?_, hExplains, hLoad,
      hRequires, path, hPath, hDash, hWritable ▸ hPlace, hBreaks, ?_⟩
  · exact text?_of_decodeUtf8 hRead hDecode
      (return_not_mem_rendered (return_not_mem_of_text? hContent))
  · intro hNone
    rw [← hAgain, hNone] at hTexts
    exact hSome (List.map_eq_nil_iff.mp hTexts.symm)
  · rw [hAgain, hTexts]

end CommandLine

end QueryPatch
