import BuildRunner.Proofs.Runner.CommandForm
import BuildRunner.Proofs.Runner.LocalReply
import BuildRunner.Proofs.Text.LossyDecoding
import BuildRunner.Runner.Dry

/-! What the runners write. A line without a line feed is taken whole or not at all, so a runner that
fails has written the first of the lines that were due, and one that succeeds its whole reply. -/
namespace BuildRunner
open Text

/-- A text that one line can hold. -/
def IsOneLine (text : String) : Prop := '\n' ∉ text.toList

@[simp] theorem lineCount_append (first second : String) :
    lineCount (first ++ second) = lineCount first + lineCount second := by
  rw [lineCount, String.toList_append, List.count_append, ← lineCount, ← lineCount]

private theorem lineCount_of_isOneLine {text : String} (h : IsOneLine text) : lineCount text = 0 :=
  List.count_eq_zero.mpr h

@[simp] theorem joinLines_nil : joinLines [] = "" := rfl

@[simp] theorem joinLines_cons (line : String) (lines : List String) :
    joinLines (line :: lines) = line ++ "\n" ++ joinLines lines := by
  simp [joinLines, String.join_cons]

@[simp] theorem joinLines_append (first second : List String) :
    joinLines (first ++ second) = joinLines first ++ joinLines second := by
  simp [joinLines, String.join_append]

theorem toList_joinLines (lines : List String) :
    (joinLines lines).toList = (lines.map String.toList).flatMap (· ++ ['\n']) := by
  simp [joinLines, String.toList_join, List.flatMap_map]

namespace Writer
variable {w : Writer} {text : String} {lines : List String}

private theorem isClosed_append (w : Writer) (h : IsOneLine text) :
    (w.append text).isClosed = w.isClosed := by
  cases hroom : w.room <;> simp [append, isClosed, lineCount_of_isOneLine h, hroom]

private theorem writeLine_eq (w : Writer) (h : IsOneLine text) :
    w.writeLine text =
      if w.isClosed then (w, some .closed) else ((w.append text).append "\n", none) := by
  rw [writeLine]
  split
  · rfl
  · rename_i hopen
    simp [isClosed_append w h, hopen]

private theorem written_of_writeLine {next : Writer} (h : w.writeLine text = (next, none)) :
    next.written = w.written ++ text ++ "\n" := by
  unfold writeLine at h
  split at h
  · cases h
  · simp only at h
    split at h
    · cases h
    · cases h
      rfl

private theorem written_of_writeAll {last : Writer} (h : w.writeAll lines = (last, none)) :
    last.written = w.written ++ joinLines lines := by
  induction lines generalizing w with
  | nil =>
    cases h
    simp
  | cons line lines ih =>
    cases hline : w.writeLine line with
    | mk next refusal =>
      cases refusal with
      | some refusal => simp [writeAll, hline] at h
      | none =>
        simp only [writeAll, hline] at h
        rw [ih h, written_of_writeLine hline, joinLines_cons]
        simp [String.append_assoc]

/-- The writer after it has taken some lines. -/
def extend (w : Writer) (lines : List String) : Writer :=
  ⟨w.room.map (· - lines.length), w.written ++ joinLines lines⟩

/-- There is room for as many lines. -/
def Fits (w : Writer) (lines : List String) : Prop := ∀ n ∈ w.room, lines.length ≤ n

theorem extend_nil (w : Writer) : w.extend [] = w := by simp [extend]

private theorem extend_append (w : Writer) (first second : List String) :
    w.extend (first ++ second) = (w.extend first).extend second := by
  cases hroom : w.room <;> simp [extend, hroom, String.append_assoc, Nat.sub_sub]

theorem fits_nil (w : Writer) : w.Fits [] := fun _ _ => Nat.zero_le _

private theorem fits_append {first second : List String} :
    w.Fits (first ++ second) ↔ w.Fits first ∧ (w.extend first).Fits second := by
  cases hroom : w.room <;> simp [Fits, extend, hroom]
  omega

theorem not_fits_iff : ¬ w.Fits lines ↔ ∃ n, w.room = some n ∧ n < lines.length := by
  cases hroom : w.room <;> simp [Fits, hroom]

private theorem writeLine_of_fits (h : IsOneLine text) (hw : w.Fits [text]) :
    w.writeLine text = (w.extend [text], none) := by
  have hopen : w.isClosed = false := by
    cases hroom : w.room <;> simp_all [Fits, isClosed]
    omega
  have hfeed : lineCount "\n" = 1 := rfl
  rw [writeLine_eq w h, hopen, if_neg Bool.false_ne_true]
  cases hroom : w.room <;>
    simp [append, extend, hroom, lineCount_of_isOneLine h, hfeed, String.append_assoc]

private theorem writeLine_of_full (h : IsOneLine text) (hw : w.room = some 0) :
    w.writeLine text = (w, some .closed) := by
  rw [writeLine_eq w h, isClosed, hw]
  rfl

theorem writeAll_of_fits (h : ∀ line ∈ lines, IsOneLine line) (hw : w.Fits lines) :
    w.writeAll lines = (w.extend lines, none) := by
  induction lines generalizing w with
  | nil => rw [extend_nil, writeAll]
  | cons line lines ih =>
    obtain ⟨hline, hlines⟩ := List.forall_mem_cons.mp h
    rw [← List.singleton_append, fits_append] at hw
    obtain ⟨hfirst, hrest⟩ := hw
    rw [writeAll, writeLine_of_fits hline hfirst]
    simp only
    rw [ih hlines hrest, ← extend_append, List.singleton_append]

theorem writeAll_of_exceeds {n : Nat} (h : ∀ line ∈ lines, IsOneLine line) (hw : w.room = some n)
    (hn : n < lines.length) : w.writeAll lines = (w.extend (lines.take n), some .closed) := by
  induction lines generalizing w n with
  | nil => exact absurd hn (Nat.not_lt_zero n)
  | cons line lines ih =>
    obtain ⟨hline, hlines⟩ := List.forall_mem_cons.mp h
    cases n with
    | zero => rw [writeAll, writeLine_of_full hline hw, List.take_zero, extend_nil]
    | succ n =>
      have hfirst : w.Fits [line] := by simp [Fits, hw]
      have hnext : (w.extend [line]).room = some n := by simp [extend, hw]
      rw [writeAll, writeLine_of_fits hline hfirst]
      simp only
      rw [ih hlines hnext (by simpa using hn), ← extend_append, List.singleton_append,
        List.take_succ_cons]

theorem writeAll_eq_taken_iff {last : Writer} (h : ∀ line ∈ lines, IsOneLine line) :
    w.writeAll lines = (last, none) ↔ w.Fits lines ∧ last = w.extend lines := by
  by_cases hw : w.Fits lines
  · simp [writeAll_of_fits h hw, hw, eq_comm]
  · obtain ⟨n, hroom, hn⟩ := not_fits_iff.mp hw
    simp [writeAll_of_exceeds h hroom hn, hw]

theorem writeAll_eq_refused_iff {last : Writer} {refusal : IoError}
    (h : ∀ line ∈ lines, IsOneLine line) :
    w.writeAll lines = (last, some refusal) ↔
      ∃ n, w.room = some n ∧ n < lines.length ∧ last = w.extend (lines.take n) ∧
        refusal = .closed := by
  by_cases hw : w.Fits lines
  · rw [writeAll_of_fits h hw]
    exact ⟨nofun, fun hfull => absurd hw (not_fits_iff.mpr (hfull.imp fun _ hn => ⟨hn.1, hn.2.1⟩))⟩
  · obtain ⟨n, hroom, hn⟩ := not_fits_iff.mp hw
    simp [writeAll_of_exceeds h hroom hn, hroom, hn, eq_comm]

/-- Whatever is refused, the first of the lines have been written, and no part of another one. -/
theorem exists_prefix_writeAll (w : Writer) (h : ∀ line ∈ lines, IsOneLine line) :
    ∃ shown, shown <+: lines ∧ (w.writeAll lines).1.written = w.written ++ joinLines shown := by
  by_cases hw : w.Fits lines
  · exact ⟨lines, List.prefix_refl lines, by rw [writeAll_of_fits h hw, extend]⟩
  · obtain ⟨n, hroom, hn⟩ := not_fits_iff.mp hw
    exact ⟨lines.take n, List.take_prefix n lines, by rw [writeAll_of_exceeds h hroom hn, extend]⟩

end Writer

/-- All lines of an output, with an unfinished one at its end. -/
def Child.shownLines (output : List UInt8) : List String :=
  (pieces Utf8.lineFeed output).map shownLine

theorem Child.lines_of_ended {child : Child} (h : child.readFault = none) :
    child.lines = shownLines child.output := by simp [lines, shownLines, h]

theorem Child.lines_of_fault {child : Child} {fault : IoError} (h : child.readFault = some fault) :
    child.lines = (completePieces Utf8.lineFeed child.output).map shownLine := by simp [lines, h]

theorem Child.isOneLine (child : Child) {line : String} (h : line ∈ child.lines) : IsOneLine line := by
  obtain ⟨piece, hpiece, rfl⟩ := List.mem_map.mp h
  have hmem : piece ∈ pieces Utf8.lineFeed child.output := by
    split at hpiece
    · exact (List.mem_filter.mp hpiece).1
    · exact hpiece
  simpa [IsOneLine, shownLine] using lineFeed_not_mem_chomp_decodeLossy hmem

namespace Command
variable {raw : String} {command : Command}

theorem mem_of_mem_strip {s : List Char} {c : Char} (h : c ∈ (strip s).1) : c ∈ s := by
  unfold strip at h
  split at h
  · exact absurd h List.not_mem_nil
  · rename_i first rest ht
    refine mem_of_mem_trim ?_
    rw [ht]
    split at h
    · exact List.mem_cons_of_mem _ ((List.dropWhile_suffix isBlank).subset h)
    · exact h

theorem text_of_parse? (h : parse? raw = some command) :
    command.text = String.ofList (strip raw.toList).1 := by
  rw [(parse?_eq_some_iff.mp h).1, String.ofList_toList]

theorem isOneLine_text (h : parse? raw = some command) (hraw : IsOneLine raw) :
    IsOneLine command.text := by
  rw [text_of_parse? h, IsOneLine, String.toList_ofList]
  exact fun hm => hraw (mem_of_mem_strip hm)

theorem isOneLine_echoLines (h : parse? raw = some command) (hraw : IsOneLine raw) :
    ∀ line ∈ command.echoLines, IsOneLine line := by
  intro line hl
  unfold echoLines at hl
  split at hl
  · rw [List.mem_singleton.mp hl]
    exact isOneLine_text h hraw
  · exact absurd hl List.not_mem_nil

end Command

/-- The lines of a command on a host: its own unless it is silent, then those of its process, if
that can be started. -/
def Host.commandLines {η : Type} (host : Host η) (raw : String) (state : η) : List String :=
  match Command.parse? raw with
  | none => []
  | some command =>
    command.echoLines ++
      match (host.spawn command.program command.arguments state).1 with
      | .error _ => []
      | .ok child => child.lines

/-- The runner writes what it replies. A command of one line that fails has then written the first
lines of those that were due, perhaps none. -/
structure Runner.Writes {σ : Type} (runner : Runner σ) (written : σ → String)
    (due : String → σ → List String) : Prop where
  reply : ∀ raw state text, (runner.execute raw state).result = .ok text →
    written (runner.execute raw state).state = written state ++ text
  failure : ∀ raw state error, IsOneLine raw → (runner.execute raw state).result = .error error →
    ∃ shown, shown <+: due raw state ∧
      written (runner.execute raw state).state = written state ++ joinLines shown
  oneLine : ∀ raw state, IsOneLine raw → ∀ line ∈ due raw state, IsOneLine line

/-- A dry runner writes the line of a command as a whole, or fails without a trace. -/
theorem Runner.dry_writes : Runner.dry.Writes Writer.written fun _ _ => [] where
  reply raw w text h := by
    cases hraw : Command.parse? raw with
    | none => simp [Runner.dry, hraw] at h
    | some command =>
      cases hline : w.writeLine command.text with
      | mk next refusal =>
        cases refusal with
        | some refusal => simp [Runner.dry, hraw, hline] at h
        | none =>
          simp only [Runner.dry, hraw, hline] at h ⊢
          cases h
          rw [Writer.written_of_writeLine hline, String.append_assoc]
  failure raw w error hone h := by
    refine ⟨[], List.nil_prefix, ?_⟩
    rw [joinLines_nil, String.append_empty]
    cases hraw : Command.parse? raw with
    | none => simp [Runner.dry, hraw]
    | some command =>
      have hwrite := w.writeLine_eq (Command.isOneLine_text hraw hone)
      split at hwrite
      · simp [Runner.dry, hraw, hwrite]
      · simp [Runner.dry, hraw, hwrite] at h
  oneLine _ _ _ := by simp

private theorem Host.commandLines_of_parsed {η : Type} {host : Host η} {raw : String} {state : η}
    {command : Command} (h : Command.parse? raw = some command) :
    host.commandLines raw state =
      command.echoLines ++
        match (host.spawn command.program command.arguments state).1 with
        | .error _ => []
        | .ok child => child.lines := by
  rw [commandLines, h]

private theorem Host.Starts.commandLines_eq {η : Type} {host : Host η} {raw : String}
    {state : Writer × η} {command : Command} {w : Writer} {child : Child} {after : η}
    (h : host.Starts raw state command w child after) :
    host.commandLines raw state.2 = command.echoLines ++ child.lines := by
  rw [Host.commandLines_of_parsed h.parsed, h.spawned]

private theorem Host.Starts.written {η : Type} {host : Host η} {raw : String} {state : Writer × η}
    {command : Command} {w : Writer} {child : Child} {after : η}
    (h : host.Starts raw state command w child after) (lines : List String) :
    w.written ++ joinLines lines = state.1.written ++ joinLines (command.echoLines ++ lines) := by
  rw [Writer.written_of_writeAll h.echoed, joinLines_append, String.append_assoc]

/-- A local runner writes the line of a command and those of its process. -/
theorem Runner.onHost_writes {η : Type} (host : Host η) :
    (Runner.onHost host).Writes (·.1.written) fun raw state => host.commandLines raw state.2 where
  reply raw state text h := by
    have hreplies := Runner.onHost_replies host raw state
    generalize (Runner.onHost host).execute raw state = reply at h hreplies ⊢
    cases hreplies with
    | completed started shown =>
      cases h
      rw [Writer.written_of_writeAll shown, started.written]
    | _ => cases h
  failure raw state error hone h := by
    have hreplies := Runner.onHost_replies host raw state
    generalize (Runner.onHost host).execute raw state = reply at h hreplies ⊢
    have hnothing : state.1.written = state.1.written ++ joinLines [] := by simp
    cases hreplies with
    | empty => exact ⟨[], List.nil_prefix, hnothing⟩
    | unresolved => exact ⟨[], List.nil_prefix, hnothing⟩
    | @echoRefused command w refusal parsed _ echoed =>
      obtain ⟨shown, hprefix, hwritten⟩ :=
        state.1.exists_prefix_writeAll (Command.isOneLine_echoLines parsed hone)
      rw [echoed] at hwritten
      refine ⟨shown, ?_, hwritten⟩
      rw [Host.commandLines_of_parsed parsed]
      exact hprefix.trans (List.prefix_append ..)
    | @notSpawned command w fault after parsed _ echoed =>
      refine ⟨command.echoLines, ?_, Writer.written_of_writeAll echoed⟩
      rw [Host.commandLines_of_parsed parsed]
      exact List.prefix_append ..
    | @outputRefused command w last child after refusal started written =>
      -- the command's own line is out, and only the process is cut short
      obtain ⟨shown, hprefix, hwritten⟩ := w.exists_prefix_writeAll fun _ => child.isOneLine
      rw [written, started.written] at hwritten
      refine ⟨command.echoLines ++ shown, ?_, hwritten⟩
      rw [started.commandLines_eq]
      exact (List.prefix_append_right_inj _).mpr hprefix
    | @failed command w last child after cause started shown =>
      refine ⟨host.commandLines raw state.2, List.prefix_refl _, ?_⟩
      rw [started.commandLines_eq, Writer.written_of_writeAll shown, started.written]
    | completed => cases h
  oneLine raw state hone line hl := by
    unfold Host.commandLines at hl
    split at hl
    · exact absurd hl List.not_mem_nil
    · rename_i command hraw
      rcases List.mem_append.mp hl with hl | hl
      · exact Command.isOneLine_echoLines hraw hone line hl
      · split at hl
        · exact absurd hl List.not_mem_nil
        · exact Child.isOneLine _ hl

end BuildRunner
