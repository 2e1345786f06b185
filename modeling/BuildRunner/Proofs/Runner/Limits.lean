import BuildRunner.Proofs.Runner.Writing

/-! Writers with room for a number of lines. Where a writer with room for any takes a text, such a
writer takes its first lines, and a runner that meets with the refusal fails for no other reason. -/
namespace BuildRunner
open Text

/-- The first lines of a text, with their line feeds. -/
def firstLines (n : Nat) (text : String) : String :=
  String.ofList ((pieces '\n' text.toList).take n).flatten

section
variable {text : String} {n : Nat}

private theorem length_pieces_toList (h : Finished text.toList) :
    (pieces '\n' text.toList).length = lineCount text := length_pieces h

theorem firstLines_of_le (h : Finished text.toList) (hn : lineCount text ≤ n) :
    firstLines n text = text := by
  rw [firstLines, List.take_of_length_le (by rwa [length_pieces_toList h]), flatten_pieces,
    String.ofList_toList]

theorem firstLines_append (h : Finished text.toList) (hn : n ≤ lineCount text) (more : String) :
    firstLines n (text ++ more) = firstLines n text := by
  rw [firstLines, String.toList_append, pieces_append h,
    List.take_append_of_le_length (by rwa [length_pieces_toList h]), ← firstLines]

/-- Fewer of the first lines are the beginning of more of them. -/
theorem firstLines_prefix {few many : Nat} (h : few ≤ many) (text : String) :
    (firstLines few text).toList <+: (firstLines many text).toList := by
  rw [firstLines, firstLines, String.toList_ofList, String.toList_ofList]
  obtain ⟨more, hmore⟩ := List.take_prefix_take_left (l := pieces '\n' text.toList) h
  exact ⟨more.flatten, by rw [← hmore, List.flatten_append]⟩

end

private theorem finished_joinLines (lines : List String) : Finished (joinLines lines).toList := by
  rw [toList_joinLines]
  exact finished_flatMap_lineFeed _

private theorem pieces_joinLines {lines : List String} (h : ∀ line ∈ lines, IsOneLine line) :
    pieces '\n' (joinLines lines).toList = (lines.map String.toList).map (· ++ ['\n']) := by
  rw [toList_joinLines, pieces_flatMap_lineFeed (List.forall_mem_map.mpr h)]

private theorem lineCount_joinLines {lines : List String} (h : ∀ line ∈ lines, IsOneLine line) :
    lineCount (joinLines lines) = lines.length := by
  rw [← length_pieces_toList (finished_joinLines lines), pieces_joinLines h, List.length_map,
    List.length_map]

private theorem firstLines_append_joinLines {text : String} {lines : List String}
    (h : Finished text.toList) (hlines : ∀ line ∈ lines, IsOneLine line) (n : Nat) :
    firstLines (lineCount text + n) (text ++ joinLines lines) = text ++ joinLines (lines.take n) := by
  refine String.toList_injective ?_
  rw [firstLines, String.toList_ofList, String.toList_append, pieces_append h,
    ← length_pieces_toList h, List.take_length_add_append, List.flatten_append, flatten_pieces,
    pieces_joinLines hlines, String.toList_append, toList_joinLines, List.flatMap_def,
    List.map_take, List.map_take]

namespace Writer
variable {w : Writer} {lines : List String} {limit : Nat}

/-- Room for any number of lines, below whole lines. -/
structure Unlimited (w : Writer) : Prop where
  room : w.room = none
  finished : Finished w.written.toList

theorem Unlimited.new : (new none).Unlimited := ⟨rfl, nofun⟩

/-- The writer as it would be if it had begun with room for so many lines. -/
def capped (limit : Nat) (w : Writer) : Writer := ⟨some (limit - lineCount w.written), w.written⟩

/-- Without a limit no line is refused, of whatever form. -/
theorem writeAll_of_room (h : w.room = none) (lines : List String) :
    w.writeAll lines = (⟨none, w.written ++ joinLines lines⟩, none) := by
  induction lines generalizing w with
  | nil =>
    rw [joinLines_nil, String.append_empty, ← h]
    rfl
  | cons line lines ih =>
    have hline : w.writeLine line = (⟨none, w.written ++ line ++ "\n"⟩, none) := by
      simp [writeLine, isClosed, append, h]
    rw [writeAll, hline]
    simp only
    rw [ih rfl, joinLines_cons]
    simp [String.append_assoc]

theorem writeAll_singleton (w : Writer) (line : String) : w.writeAll [line] = w.writeLine line := by
  rw [writeAll]
  cases w.writeLine line with
  | mk next refusal => cases refusal <;> rfl

private theorem writeAll_append (w : Writer) (first second : List String) :
    w.writeAll (first ++ second) =
      match w.writeAll first with
      | (next, some refusal) => (next, some refusal)
      | (next, none) => next.writeAll second := by
  induction first generalizing w with
  | nil => rfl
  | cons line first ih =>
    rw [List.cons_append, writeAll, writeAll]
    cases w.writeLine line with
    | mk next refusal =>
      cases refusal with
      | some refusal => rfl
      | none => exact ih next

theorem writeAll_append_taken {first second : List String} {last : Writer} :
    w.writeAll (first ++ second) = (last, none) ↔
      ∃ next, w.writeAll first = (next, none) ∧ next.writeAll second = (last, none) := by
  rw [writeAll_append]
  cases w.writeAll first with
  | mk next refusal => cases refusal <;> simp

theorem writeAll_append_refused {first second : List String} {last : Writer} {refusal : IoError} :
    w.writeAll (first ++ second) = (last, some refusal) ↔
      w.writeAll first = (last, some refusal) ∨
        ∃ next, w.writeAll first = (next, none) ∧
          next.writeAll second = (last, some refusal) := by
  rw [writeAll_append]
  cases w.writeAll first with
  | mk next refusal => cases refusal <;> simp

theorem Unlimited.append (h : w.Unlimited) (lines : List String) :
    (Writer.mk none (w.written ++ joinLines lines)).Unlimited where
  room := rfl
  finished := by
    rw [String.toList_append]
    exact h.finished.append (finished_joinLines lines)

/-- Lines for which there is room are taken, and of others the first ones. -/
theorem capped_writeAll (limit : Nat) (h : w.Unlimited)
    (hlines : ∀ line ∈ lines, IsOneLine line) :
    let whole := Writer.mk none (w.written ++ joinLines lines)
    (lineCount whole.written ≤ limit →
      (w.capped limit).writeAll lines = (whole.capped limit, none)) ∧
    (lineCount w.written ≤ limit → limit < lineCount whole.written →
      ∃ last, (w.capped limit).writeAll lines = (last, some .closed) ∧
        last.written = firstLines limit whole.written) := by
  have hcount : lineCount (w.written ++ joinLines lines) = lineCount w.written + lines.length := by
    rw [lineCount_append, lineCount_joinLines hlines]
  simp only [hcount]
  constructor
  · intro hle
    have hfits : (w.capped limit).Fits lines := by
      simp only [Fits, capped, Option.mem_some]
      omega
    rw [writeAll_of_fits hlines hfits, capped, capped, hcount, extend, Option.map_some, Nat.sub_sub]
  · intro hle hlt
    have hexceeds : limit - lineCount w.written < lines.length := by omega
    refine ⟨_, writeAll_of_exceeds hlines rfl hexceeds, ?_⟩
    have hfirst := firstLines_append_joinLines h.finished hlines (limit - lineCount w.written)
    rw [Nat.add_sub_cancel' hle] at hfirst
    rw [hfirst]
    rfl

end Writer

/-- A writer as a part of a state. -/
structure Screen (σ : Type) where
  writer : σ → Writer
  put : Writer → σ → σ
  writer_put : ∀ w state, writer (put w state) = w
  put_writer : ∀ state, put (writer state) state = state
  put_put : ∀ w first state, put w (put first state) = put w state

namespace Screen
variable {σ : Type}

def alone : Screen Writer := ⟨id, fun w _ => w, fun _ _ => rfl, fun _ => rfl, fun _ _ _ => rfl⟩

def beside (η : Type) : Screen (Writer × η) :=
  ⟨Prod.fst, fun w state => (w, state.2), fun _ _ => rfl, fun _ => rfl, fun _ _ _ => rfl⟩

def capped (screen : Screen σ) (limit : Nat) (state : σ) : σ :=
  screen.put ((screen.writer state).capped limit) state

end Screen

/-- What a command does in a state, whatever the writer: the lines that are due, the result once
they are all taken, and the state then. Where a line is refused, the refusal is the result. -/
structure Screen.Plays {σ : Type} (screen : Screen σ) (runner : Runner σ) (raw : String) (state : σ)
    (lines : List String) (result : Except BuildError String) (after : σ) : Prop where
  oneLine : IsOneLine raw → ∀ line ∈ lines, IsOneLine line
  taken : ∀ w last, w.writeAll lines = (last, none) →
    (runner.execute raw (screen.put w state)).result = result ∧
      (runner.execute raw (screen.put w state)).state = screen.put last after
  refused : ∀ w last refusal, w.writeAll lines = (last, some refusal) →
    (runner.execute raw (screen.put w state)).result = .error (.io refusal) ∧
      screen.writer (runner.execute raw (screen.put w state)).state = last

private theorem Runner.dry_plays (raw : String) (w : Writer) :
    ∃ lines result, Screen.alone.Plays .dry raw w lines result w := by
  cases hraw : Command.parse? raw with
  | none =>
    refine ⟨[], .error (.commandFailed raw .empty), by simp, fun w last hw => ?_, nofun⟩
    obtain ⟨rfl, -⟩ := Prod.mk.inj hw
    simp [Runner.dry, hraw, Screen.alone]
  | some command =>
    refine ⟨[command.text], .ok (command.text ++ "\n"), fun hone => ?_, fun w last hw => ?_,
      fun w last refusal hw => ?_⟩
    · simpa using Command.isOneLine_text hraw hone
    · rw [Writer.writeAll_singleton] at hw
      simp [Runner.dry, hraw, hw, Screen.alone]
    · rw [Writer.writeAll_singleton] at hw
      simp [Runner.dry, hraw, hw, Screen.alone]

section
variable {η : Type} {host : Host η} {raw : String} {command : Command}

/-- The result of a process whose lines are all taken. -/
def Child.result (child : Child) (command : Command) : Except BuildError String :=
  match child.failure with
  | some cause => .error (.commandFailed command.text cause)
  | none => .ok (joinLines (command.echoLines ++ child.lines))

private theorem Child.reply_of_taken {child : Child} {w last : Writer} {after : η}
    (h : w.writeAll child.lines = (last, none)) :
    child.reply command w after =
      ⟨child.result command, (last, after), some command.arguments⟩ := by
  rw [Child.reply, Child.result, h]
  cases child.failure <;> rfl

private theorem Host.plays_of_spawned {child : Child} {after : η} {state : Writer × η}
    (parsed : Command.parse? raw = some command)
    (resolved : host.resolves command.program state.2 = true)
    (spawned : host.spawn command.program command.arguments state.2 = (.ok child, after)) :
    (Screen.beside η).Plays (.onHost host) raw state (command.echoLines ++ child.lines)
      (child.result command) (state.1, after) where
  oneLine hone := List.forall_mem_append.mpr
    ⟨Command.isOneLine_echoLines parsed hone, fun _ => child.isOneLine⟩
  taken w last hw := by
    obtain ⟨begun, hbegun, hshown⟩ := Writer.writeAll_append_taken.mp hw
    simp [Runner.onHost, Screen.beside, parsed, resolved, spawned, hbegun,
      Child.reply_of_taken hshown]
  refused w last refusal hw := by
    obtain hecho | ⟨begun, hbegun, hshown⟩ := Writer.writeAll_append_refused.mp hw
    · simp [Runner.onHost, Screen.beside, parsed, resolved, hecho]
    · simp [Runner.onHost, Screen.beside, parsed, resolved, spawned, hbegun, Child.reply, hshown]

private theorem Host.plays_of_not_spawned {fault : IoError} {after : η} {state : Writer × η}
    (parsed : Command.parse? raw = some command)
    (resolved : host.resolves command.program state.2 = true)
    (spawned : host.spawn command.program command.arguments state.2 = (.error fault, after)) :
    (Screen.beside η).Plays (.onHost host) raw state command.echoLines
      (.error (.commandFailed command.text (.spawn fault))) (state.1, after) where
  oneLine := Command.isOneLine_echoLines parsed
  taken w last hw := by simp [Runner.onHost, Screen.beside, parsed, resolved, spawned, hw]
  refused w last refusal hw := by simp [Runner.onHost, Screen.beside, parsed, resolved, hw]

private theorem Runner.onHost_plays (host : Host η) (raw : String) (state : Writer × η) :
    ∃ lines result after, (Screen.beside η).Plays (.onHost host) raw state lines result after := by
  cases parsed : Command.parse? raw with
  | none =>
    refine ⟨[], .error (.commandFailed raw .empty), state, by simp, fun w last hw => ?_, nofun⟩
    obtain ⟨rfl, -⟩ := Prod.mk.inj hw
    simp [Runner.onHost, parsed, Screen.beside]
  | some command =>
    cases resolved : host.resolves command.program state.2 with
    | false =>
      refine ⟨[], .error (.binaryNotFound command.program), state, by simp,
        fun w last hw => ?_, nofun⟩
      obtain ⟨rfl, -⟩ := Prod.mk.inj hw
      simp [Runner.onHost, parsed, resolved, Screen.beside]
    | true =>
      cases spawned : host.spawn command.program command.arguments state.2 with
      | mk spawning after =>
        cases spawning with
        | error fault => exact ⟨_, _, _, Host.plays_of_not_spawned parsed resolved spawned⟩
        | ok child => exact ⟨_, _, _, Host.plays_of_spawned parsed resolved spawned⟩

end

section
variable {σ : Type} {screen : Screen σ} {runner : Runner σ} {state : σ}

/-- How a reply with room for so many lines in all stands to the one from the same state with room
for any. -/
structure Reply.CutsOff (whole cut : Reply σ) (screen : Screen σ) (limit : Nat) (state : σ) :
    Prop where
  grows : ∃ lines,
    screen.writer whole.state = ⟨none, (screen.writer state).written ++ joinLines lines⟩
  /-- There is room for all lines, and no difference. -/
  fits : lineCount (screen.writer whole.state).written ≤ limit →
    cut.result = whole.result ∧ cut.state = screen.capped limit whole.state
  /-- A line is refused, whatever would have happened then. -/
  exceeds : lineCount (screen.writer state).written ≤ limit →
    limit < lineCount (screen.writer whole.state).written →
    cut.result = .error (.io .closed) ∧
      (screen.writer cut.state).written = firstLines limit (screen.writer whole.state).written

/-- A limit on the lines that a runner writes has no other effect than to cut them off. -/
def Runner.Truncates (runner : Runner σ) (screen : Screen σ) : Prop :=
  ∀ raw state limit, IsOneLine raw → (screen.writer state).Unlimited →
    (runner.execute raw state).CutsOff (runner.execute raw (screen.capped limit state)) screen limit
      state

private theorem Screen.Plays.cutsOff {raw : String} {lines : List String}
    {result : Except BuildError String} {after : σ}
    (h : screen.Plays runner raw state lines result after) (hone : IsOneLine raw)
    (hw : (screen.writer state).Unlimited) (limit : Nat) :
    (runner.execute raw state).CutsOff (runner.execute raw (screen.capped limit state)) screen limit
      state := by
  have hwhole := h.taken _ _ (Writer.writeAll_of_room hw.room lines)
  have hcapped := Writer.capped_writeAll limit hw (h.oneLine hone)
  rw [screen.put_writer] at hwhole
  obtain ⟨hresult, hstate⟩ := hwhole
  have hwriter : screen.writer (runner.execute raw state).state =
      ⟨none, (screen.writer state).written ++ joinLines lines⟩ := by rw [hstate, screen.writer_put]
  refine ⟨⟨lines, hwriter⟩, fun hle => ?_, fun hle hlt => ?_⟩
  · rw [hwriter] at hle
    obtain ⟨hr, hs⟩ := h.taken _ _ (hcapped.1 hle)
    refine ⟨hr.trans hresult.symm, hs.trans ?_⟩
    rw [hstate, capped, screen.writer_put, screen.put_put]
  · rw [hwriter] at hlt ⊢
    obtain ⟨stop, hstop, hwritten⟩ := hcapped.2 hle hlt
    obtain ⟨hr, hs⟩ := h.refused _ _ _ hstop
    exact ⟨hr, by rw [capped, hs, hwritten]⟩

end

theorem Runner.dry_truncates : Runner.dry.Truncates .alone := by
  intro raw w limit hone h
  obtain ⟨lines, result, hplays⟩ := Runner.dry_plays raw w
  exact hplays.cutsOff hone h limit

theorem Runner.onHost_truncates {η : Type} (host : Host η) :
    (Runner.onHost host).Truncates (.beside η) := by
  intro raw state limit hone h
  obtain ⟨lines, result, after, hplays⟩ := Runner.onHost_plays host raw state
  exact hplays.cutsOff hone h limit

end BuildRunner
