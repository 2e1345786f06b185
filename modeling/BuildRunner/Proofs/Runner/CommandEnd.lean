import BuildRunner.Proofs.Runner.Limits

/-! The end of a local command. Each way to end has a condition of its own, which does not ask about
the other ways. A command ends in the first way whose condition holds, and its result, the lines it
has shown and what became of the host are those of that way. -/
namespace BuildRunner
open Text

/-- What a command leaves behind. -/
structure CommandEnd (η : Type) where
  result : Except BuildError String
  /-- The lines that were written, the command's own one included. -/
  shown : List String
  host : η
  /-- Arguments of the process that was asked for, if there was one. -/
  spawning : Option (List String)

section
variable {η : Type}

/-- The reply of a runner that leaves this behind. -/
def CommandEnd.reply (last : CommandEnd η) (w : Writer) : Reply (Writer × η) :=
  ⟨last.result, (w.extend last.shown, last.host), last.spawning⟩

/-- A command can end in this way, with room for so many lines. The number is the place of the way in
the order in which they count. -/
inductive Host.CanEnd (host : Host η) (raw : String) (room : Option Nat) (s : η) :
    Nat → CommandEnd η → Prop
  | noProgram (parsed : Command.parse? raw = none) :
      CanEnd host raw room s 0 ⟨.error (.commandFailed raw .empty), [], s, none⟩
  | notFound {command : Command} (parsed : Command.parse? raw = some command)
      (unresolved : host.resolves command.program s = false) :
      CanEnd host raw room s 1 ⟨.error (.binaryNotFound command.program), [], s, none⟩
  | echoRefused {command : Command} (parsed : Command.parse? raw = some command)
      (echo : command.echo = true) (full : room = some 0) :
      CanEnd host raw room s 2 ⟨.error (.io .closed), [], s, none⟩
  | notStarted {command : Command} {fault : IoError} {after : η}
      (parsed : Command.parse? raw = some command)
      (spawned : host.spawn command.program command.arguments s = (.error fault, after)) :
      CanEnd host raw room s 3
        ⟨.error (.commandFailed command.text (.spawn fault)), command.echoLines, after,
          some command.arguments⟩
  /-- There is no room for a line that the process finished before its output could not be read. -/
  | outputRefused {command : Command} {child : Child} {after : η} {n : Nat}
      (parsed : Command.parse? raw = some command)
      (spawned : host.spawn command.program command.arguments s = (.ok child, after))
      (limit : room = some n) (exceeded : n < (command.echoLines ++ child.lines).length) :
      CanEnd host raw room s 4
        ⟨.error (.io .closed), (command.echoLines ++ child.lines).take n, after,
          some command.arguments⟩
  | streamFailed {command : Command} {child : Child} {after : η} {fault : IoError}
      (parsed : Command.parse? raw = some command)
      (spawned : host.spawn command.program command.arguments s = (.ok child, after))
      (failed : child.readFault = some fault) :
      CanEnd host raw room s 5
        ⟨.error (.commandFailed command.text (.stream fault)),
          command.echoLines ++ (completePieces Utf8.lineFeed child.output).map Child.shownLine,
          after, some command.arguments⟩
  | exited {command : Command} {child : Child} {after : η} {code : Int}
      (parsed : Command.parse? raw = some command)
      (spawned : host.spawn command.program command.arguments s = (.ok child, after))
      (status : child.status = .code code) (failed : code ≠ 0) :
      CanEnd host raw room s 6
        ⟨.error (.commandFailed command.text (.exit code)),
          command.echoLines ++ Child.shownLines child.output, after, some command.arguments⟩
  | signalled {command : Command} {child : Child} {after : η}
      (parsed : Command.parse? raw = some command)
      (spawned : host.spawn command.program command.arguments s = (.ok child, after))
      (status : child.status = .signal) :
      CanEnd host raw room s 6
        ⟨.error (.commandFailed command.text .signal),
          command.echoLines ++ Child.shownLines child.output, after, some command.arguments⟩
  | waitFailed {command : Command} {child : Child} {after : η} {fault : IoError}
      (parsed : Command.parse? raw = some command)
      (spawned : host.spawn command.program command.arguments s = (.ok child, after))
      (status : child.status = .unknown fault) :
      CanEnd host raw room s 6
        ⟨.error (.commandFailed command.text (.stream fault)),
          command.echoLines ++ Child.shownLines child.output, after, some command.arguments⟩
  | completed {command : Command} {child : Child} {after : η}
      (parsed : Command.parse? raw = some command)
      (spawned : host.spawn command.program command.arguments s = (.ok child, after)) :
      CanEnd host raw room s 7
        ⟨.ok (joinLines (command.echoLines ++ Child.shownLines child.output)),
          command.echoLines ++ Child.shownLines child.output, after, some command.arguments⟩

/-- Of the ways in which a command can end, this is the first one. -/
def Host.Ends (host : Host η) (raw : String) (room : Option Nat) (s : η) (last : CommandEnd η) :
    Prop :=
  ∃ place, host.CanEnd raw room s place last ∧
    ∀ other last', host.CanEnd raw room s other last' → place ≤ other

/-- A command comes to asking for its process: its program is found, and its own line is no obstacle. -/
structure Host.Clears (host : Host η) (raw : String) (room : Option Nat) (s : η)
    (command : Command) : Prop where
  parsed : Command.parse? raw = some command
  resolved : host.resolves command.program s = true
  echoed : command.echo = true → room ≠ some 0

variable {host : Host η} {raw : String} {room : Option Nat} {s after : η} {command : Command}
variable {child : Child} {place : Nat} {last last' : CommandEnd η} {w : Writer}

namespace Host.CanEnd

private theorem same_child {command' : Command} {child' : Child} {after' : η}
    (parsed : Command.parse? raw = some command) (parsed' : Command.parse? raw = some command')
    (spawned : host.spawn command.program command.arguments s = (.ok child, after))
    (spawned' : host.spawn command'.program command'.arguments s = (.ok child', after')) :
    command' = command ∧ child' = child := by
  obtain rfl := Option.some.inj (parsed.symm.trans parsed')
  rw [spawned] at spawned'
  cases spawned'
  exact ⟨rfl, rfl⟩

private theorem unique (h : host.CanEnd raw room s place last)
    (h' : host.CanEnd raw room s place last') :
    last = last' := by
  cases h <;> cases h' <;> simp_all

private theorem one_le (h : host.CanEnd raw room s place last)
    (parsed : Command.parse? raw = some command) : 1 ≤ place := by
  cases h with
  | noProgram none =>
    rw [parsed] at none
    cases none
  | _ => decide

private theorem two_le (h : host.CanEnd raw room s place last)
    (parsed : Command.parse? raw = some command)
    (resolved : host.resolves command.program s = true) : 2 ≤ place := by
  have hle := h.one_le parsed
  cases h with
  | notFound parsed' unresolved =>
    obtain rfl := Option.some.inj (parsed.symm.trans parsed')
    rw [resolved] at unresolved
    cases unresolved
  | _ => omega

private theorem three_le (h : host.CanEnd raw room s place last)
    (clears : host.Clears raw room s command) : 3 ≤ place := by
  have hle := h.two_le clears.parsed clears.resolved
  cases h with
  | echoRefused parsed echo full =>
    obtain rfl := Option.some.inj (clears.parsed.symm.trans parsed)
    exact absurd full (clears.echoed echo)
  | _ => omega

private theorem spawning_of_three_le (h : host.CanEnd raw room s place last) (hplace : 3 ≤ place)
    (parsed : Command.parse? raw = some command) : last.spawning = some command.arguments := by
  cases h with
  | noProgram | notFound | echoRefused => omega
  | notStarted parsed' | outputRefused parsed' | streamFailed parsed' | exited parsed'
  | signalled parsed' | waitFailed parsed' | completed parsed' =>
    rw [Option.some.inj (parsed.symm.trans parsed')]

private theorem four_le (h : host.CanEnd raw room s place last)
    (clears : host.Clears raw room s command)
    (spawned : host.spawn command.program command.arguments s = (.ok child, after)) :
    4 ≤ place := by
  have hle := h.three_le clears
  cases h with
  | notStarted parsed failed =>
    obtain rfl := Option.some.inj (clears.parsed.symm.trans parsed)
    rw [spawned] at failed
    cases failed
  | _ => omega

private theorem five_le (h : host.CanEnd raw w.room s place last)
    (clears : host.Clears raw w.room s command)
    (spawned : host.spawn command.program command.arguments s = (.ok child, after))
    (fits : w.Fits (command.echoLines ++ child.lines)) : 5 ≤ place := by
  have hle := h.four_le clears spawned
  cases h with
  | outputRefused parsed spawned' limit exceeded =>
    obtain ⟨rfl, rfl⟩ := same_child clears.parsed parsed spawned spawned'
    exact absurd (fits _ limit) (Nat.not_le.mpr exceeded)
  | _ => omega

private theorem six_le (h : host.CanEnd raw w.room s place last)
    (clears : host.Clears raw w.room s command)
    (spawned : host.spawn command.program command.arguments s = (.ok child, after))
    (fits : w.Fits (command.echoLines ++ child.lines)) (ended : child.readFault = none) :
    6 ≤ place := by
  have hle := h.five_le clears spawned fits
  cases h with
  | streamFailed parsed spawned' failed =>
    obtain ⟨rfl, rfl⟩ := same_child clears.parsed parsed spawned spawned'
    rw [ended] at failed
    cases failed
  | _ => omega

private theorem seven_le (h : host.CanEnd raw w.room s place last)
    (clears : host.Clears raw w.room s command)
    (spawned : host.spawn command.program command.arguments s = (.ok child, after))
    (fits : w.Fits (command.echoLines ++ child.lines)) (ended : child.readFault = none)
    (success : child.status = .code 0) : 7 ≤ place := by
  have hle := h.six_le clears spawned fits ended
  cases h with
  | exited parsed spawned' status failed =>
    obtain ⟨rfl, rfl⟩ := same_child clears.parsed parsed spawned spawned'
    rw [success] at status
    cases status
    exact absurd rfl failed
  | signalled parsed spawned' status | waitFailed parsed spawned' status =>
    obtain ⟨rfl, rfl⟩ := same_child clears.parsed parsed spawned spawned'
    rw [success] at status
    cases status
  | _ => omega

end Host.CanEnd

/-- A command ends in one way. -/
theorem Host.Ends.unique (h : host.Ends raw room s last) (h' : host.Ends raw room s last') :
    last = last' := by
  obtain ⟨place, hend, hfirst⟩ := h
  obtain ⟨place', hend', hfirst'⟩ := h'
  obtain rfl := Nat.le_antisymm (hfirst place' last' hend') (hfirst' place last hend)
  exact hend.unique hend'

private theorem Command.fits_echoLines_iff :
    w.Fits command.echoLines ↔ (command.echo = true → w.room ≠ some 0) := by
  cases hecho : command.echo with
  | false => simp [echoLines, hecho, Writer.fits_nil]
  | true =>
    cases hroom : w.room <;> simp [echoLines, hecho, Writer.Fits, hroom]
    omega

private theorem Command.refused_echoLines {last : Writer} {refusal : IoError}
    (h : w.writeAll command.echoLines = (last, some refusal))
    (hone : ∀ line ∈ command.echoLines, IsOneLine line) :
    command.echo = true ∧ w.room = some 0 ∧ last = w ∧ refusal = .closed := by
  obtain ⟨n, hroom, hn, rfl, rfl⟩ := (Writer.writeAll_eq_refused_iff hone).mp h
  cases hecho : command.echo with
  | false => simp [echoLines, hecho] at hn
  | true =>
    obtain rfl : n = 0 := by simpa [echoLines, hecho] using hn
    exact ⟨rfl, hroom, w.extend_nil, rfl⟩

private theorem Child.failure_eq_some_iff {cause : CommandFailure} :
    child.failure = some cause ↔
      (∃ fault, child.readFault = some fault ∧ cause = .stream fault) ∨
        child.readFault = none ∧
          ((∃ code, child.status = .code code ∧ code ≠ 0 ∧ cause = .exit code) ∨
            (child.status = .signal ∧ cause = .signal) ∨
            ∃ fault, child.status = .unknown fault ∧ cause = .stream fault) := by
  obtain ⟨output, readFault, status⟩ := child
  cases readFault with
  | some fault => simp [failure, eq_comm]
  | none =>
    cases status with
    | signal | unknown fault => simp [failure, eq_comm]
    | code n =>
      by_cases hn : n = 0
      · subst hn
        simp [failure]
      · simp [failure, hn, eq_comm]

theorem Child.failure_eq_none_iff :
    child.failure = none ↔ child.readFault = none ∧ child.status = .code 0 := by
  obtain ⟨output, readFault, status⟩ := child
  cases readFault with
  | some fault => simp [failure]
  | none =>
    cases status with
    | signal | unknown fault => simp [failure]
    | code n =>
      by_cases hn : n = 0
      · subst hn
        simp [failure]
      · simp [failure, hn]

namespace Host.Starts

private theorem clears {state : Writer × η} {begun : Writer}
    (h : host.Starts raw state command begun child after)
    (hone : IsOneLine raw) : host.Clears raw state.1.room state.2 command where
  parsed := h.parsed
  resolved := h.resolved
  echoed := Command.fits_echoLines_iff.mp
    ((Writer.writeAll_eq_taken_iff (Command.isOneLine_echoLines h.parsed hone)).mp h.echoed).1

private theorem isOneLine {state : Writer × η} {begun : Writer}
    (h : host.Starts raw state command begun child after) (hone : IsOneLine raw) :
    ∀ line ∈ command.echoLines ++ child.lines, IsOneLine line :=
  List.forall_mem_append.mpr
    ⟨Command.isOneLine_echoLines h.parsed hone, fun _ => child.isOneLine⟩

end Host.Starts

/-- The reply to a command is told by the first way in which it can end. -/
theorem Host.Replies.ends {reply : Reply (Writer × η)} (h : host.Replies raw (w, s) reply)
    (hone : IsOneLine raw) :
    ∃ last, host.Ends raw w.room s last ∧ reply = last.reply w := by
  cases h with
  | empty parsed =>
    refine ⟨_, ⟨0, .noProgram parsed, fun _ _ _ => Nat.zero_le _⟩, ?_⟩
    rw [CommandEnd.reply, Writer.extend_nil]
  | unresolved parsed unresolved =>
    refine ⟨_, ⟨1, .notFound parsed unresolved, fun _ _ h => h.one_le parsed⟩, ?_⟩
    rw [CommandEnd.reply, Writer.extend_nil]
  | echoRefused parsed resolved echoed =>
    obtain ⟨hecho, hroom, rfl, rfl⟩ :=
      Command.refused_echoLines echoed (Command.isOneLine_echoLines parsed hone)
    refine ⟨_, ⟨2, .echoRefused parsed hecho hroom, fun _ _ h => h.two_le parsed resolved⟩, ?_⟩
    rw [CommandEnd.reply, Writer.extend_nil]
  | @notSpawned command begun fault after parsed resolved echoed spawned =>
    obtain ⟨hfits, rfl⟩ :=
      (Writer.writeAll_eq_taken_iff (Command.isOneLine_echoLines parsed hone)).mp echoed
    have hclears : host.Clears raw w.room s command :=
      ⟨parsed, resolved, Command.fits_echoLines_iff.mp hfits⟩
    exact ⟨_, ⟨3, .notStarted parsed spawned, fun _ _ h => h.three_le hclears⟩, rfl⟩
  | outputRefused started shown =>
    have hwhole := Writer.writeAll_append_refused.mpr (.inr ⟨_, started.echoed, shown⟩)
    obtain ⟨n, hroom, hn, rfl, rfl⟩ :=
      (Writer.writeAll_eq_refused_iff (started.isOneLine hone)).mp hwhole
    exact ⟨_, ⟨4, .outputRefused started.parsed started.spawned hroom hn,
      fun _ _ h => h.four_le (started.clears hone) started.spawned⟩, rfl⟩
  | failed started shown failure =>
    have hwhole := Writer.writeAll_append_taken.mpr ⟨_, started.echoed, shown⟩
    obtain ⟨hfits, rfl⟩ := (Writer.writeAll_eq_taken_iff (started.isOneLine hone)).mp hwhole
    have hclears := started.clears hone
    obtain ⟨parsed, -, -, spawned⟩ := started
    obtain ⟨fault, hread, rfl⟩ | ⟨hended, hstatus⟩ := Child.failure_eq_some_iff.mp failure
    · refine ⟨_, ⟨5, .streamFailed parsed spawned hread,
        fun _ _ h => h.five_le hclears spawned hfits⟩, ?_⟩
      rw [Child.lines_of_fault hread, CommandEnd.reply]
    · have hfirst : ∀ other last', host.CanEnd raw w.room s other last' → 6 ≤ other :=
        fun _ _ h => h.six_le hclears spawned hfits hended
      rw [Child.lines_of_ended hended]
      obtain ⟨code, hcode, hne, rfl⟩ | ⟨hsignal, rfl⟩ | ⟨fault, hwait, rfl⟩ := hstatus
      · exact ⟨_, ⟨6, .exited parsed spawned hcode hne, hfirst⟩, rfl⟩
      · exact ⟨_, ⟨6, .signalled parsed spawned hsignal, hfirst⟩, rfl⟩
      · exact ⟨_, ⟨6, .waitFailed parsed spawned hwait, hfirst⟩, rfl⟩
  | completed started shown success =>
    have hwhole := Writer.writeAll_append_taken.mpr ⟨_, started.echoed, shown⟩
    obtain ⟨hfits, rfl⟩ := (Writer.writeAll_eq_taken_iff (started.isOneLine hone)).mp hwhole
    have hclears := started.clears hone
    obtain ⟨parsed, -, -, spawned⟩ := started
    obtain ⟨hended, hstatus⟩ := Child.failure_eq_none_iff.mp success
    refine ⟨_, ⟨7, .completed parsed spawned,
      fun _ _ h => h.seven_le hclears spawned hfits hended hstatus⟩, ?_⟩
    rw [Child.lines_of_ended hended, CommandEnd.reply]

private theorem Runner.onHost_spawning_iff (hone : IsOneLine raw) {arguments : List String} :
    ((Runner.onHost host).execute raw (w, s)).spawning = some arguments ↔
      ∃ command, host.Clears raw w.room s command ∧ arguments = command.arguments := by
  have hreplies := Runner.onHost_replies host raw (w, s)
  constructor
  · intro h
    generalize (Runner.onHost host).execute raw (w, s) = reply at h hreplies
    cases hreplies with
    | empty | unresolved | echoRefused => cases h
    | @notSpawned command _ _ _ parsed resolved echoed _ =>
      obtain ⟨hfits, -⟩ :=
        (Writer.writeAll_eq_taken_iff (Command.isOneLine_echoLines parsed hone)).mp echoed
      exact ⟨command, ⟨parsed, resolved, Command.fits_echoLines_iff.mp hfits⟩,
        (Option.some.inj h).symm⟩
    | outputRefused started | failed started | completed started =>
      exact ⟨_, started.clears hone, (Option.some.inj h).symm⟩
  · rintro ⟨command, hclears, rfl⟩
    obtain ⟨last, ⟨place, hend, -⟩, hreply⟩ := hreplies.ends hone
    rw [hreply]
    exact hend.spawning_of_three_le (hend.three_le hclears) hclears.parsed

private theorem Runner.onHost_of_not_clears (hone : IsOneLine raw)
    (h : ∀ command, ¬ host.Clears raw w.room s command)
    (spawn : String → List String → η → Except IoError Child × η) :
    (Runner.onHost { host with spawn := spawn }).execute raw (w, s) =
        (Runner.onHost host).execute raw (w, s) ∧
      ((Runner.onHost host).execute raw (w, s)).state.2 = s := by
  cases parsed : Command.parse? raw with
  | none => simp [Runner.onHost, parsed]
  | some command =>
    cases resolved : host.resolves command.program s with
    | false => simp [Runner.onHost, parsed, resolved]
    | true =>
      have hfull : ¬ w.Fits command.echoLines := fun hfits =>
        h command ⟨parsed, resolved, Command.fits_echoLines_iff.mp hfits⟩
      obtain ⟨n, hroom, hn⟩ := Writer.not_fits_iff.mp hfull
      have hecho := Writer.writeAll_of_exceeds (Command.isOneLine_echoLines parsed hone) hroom hn
      simp [Runner.onHost, parsed, resolved, hecho]

/-- On every host and with any room, a command of one line ends in the first way in which it can,
which is one way only, and has written the lines of that way. Its process is asked for exactly if its
program is found and its own line is taken. If not, the reply is the same for all ways to start
processes, and the host is left as it was. -/
theorem local_command_ends_in_first_way (host : Host η) (raw : String) (w : Writer) (s : η)
    (oneLine : IsOneLine raw) :
    let reply := (Runner.onHost host).execute raw (w, s)
    (∃ last, host.Ends raw w.room s last ∧ (∀ other, host.Ends raw w.room s other → other = last) ∧
      reply.result = last.result ∧ reply.state = (w.extend last.shown, last.host) ∧
      reply.state.1.written = w.written ++ joinLines last.shown ∧
      reply.spawning = last.spawning) ∧
    (∀ arguments, reply.spawning = some arguments ↔
      ∃ command, host.Clears raw w.room s command ∧ arguments = command.arguments) ∧
    ((∀ command, ¬ host.Clears raw w.room s command) →
      ∀ spawn, (Runner.onHost { host with spawn := spawn }).execute raw (w, s) = reply ∧
        reply.state.2 = s) := by
  intro reply
  obtain ⟨last, hends, hreply⟩ := (Runner.onHost_replies host raw (w, s)).ends oneLine
  have hreply : reply = last.reply w := hreply
  refine ⟨⟨last, hends, fun other hother => hother.unique hends, ?_⟩,
    fun _ => Runner.onHost_spawning_iff oneLine, fun h => Runner.onHost_of_not_clears oneLine h⟩
  rw [hreply]
  exact ⟨rfl, rfl, rfl, rfl⟩

end

/-- A host with one program. It writes two lines and a part of a third one, then it cannot be read, and
it ends badly. The host counts its processes. -/
def stutteringHost : Host Nat where
  resolves name _ := name == "cc"
  spawn _ _ count := (.ok ⟨Utf8.bytesOf "one\ntwo\nthr", some (.reported "reset"), .code 2⟩, count + 1)

/-- The second line is refused before the output cannot be read. With more room that counts, and with
none at all there is no process. -/
theorem refused_line_comes_before_read_fault :
    IsOneLine " cc  a.c" ∧
    (∃ last, stutteringHost.Ends " cc  a.c" (some 2) 0 last ∧ last.result = .error (.io .closed) ∧
      joinLines last.shown = "cc  a.c\none\n" ∧ last.host = 1 ∧ last.spawning = some ["a.c"]) ∧
    (∃ last, stutteringHost.Ends " cc  a.c" (some 3) 0 last ∧
      last.result = .error (.commandFailed "cc  a.c" (.stream (.reported "reset"))) ∧
      joinLines last.shown = "cc  a.c\none\ntwo\n" ∧ last.host = 1) ∧
    ∃ last, stutteringHost.Ends " cc  a.c" (some 0) 0 last ∧ last.result = .error (.io .closed) ∧
      joinLines last.shown = "" ∧ last.host = 0 ∧ last.spawning = none := by
  have hone : IsOneLine " cc  a.c" := by unfold IsOneLine; decide
  have hends : ∀ n, ∃ last, stutteringHost.Ends " cc  a.c" (some n) 0 last ∧
      ((Runner.onHost stutteringHost).execute " cc  a.c" (.new (some n), 0)).result = last.result ∧
      ((Runner.onHost stutteringHost).execute " cc  a.c" (.new (some n), 0)).state.1.written =
        joinLines last.shown ∧
      ((Runner.onHost stutteringHost).execute " cc  a.c" (.new (some n), 0)).state.2 = last.host ∧
      ((Runner.onHost stutteringHost).execute " cc  a.c" (.new (some n), 0)).spawning =
        last.spawning := by
    intro n
    obtain ⟨⟨last, hends, -, hresult, hstate, hwritten, hspawning⟩, -⟩ :=
      local_command_ends_in_first_way stutteringHost " cc  a.c" (.new (some n)) 0 hone
    exact ⟨last, hends, hresult, hwritten.trans String.empty_append, congrArg Prod.snd hstate,
      hspawning⟩
  obtain ⟨two, htwo, hresult, hwritten, hhost, hspawning⟩ := hends 2
  obtain ⟨three, hthree, hresult', hwritten', hhost', -⟩ := hends 3
  obtain ⟨none, hnone, hresult'', hwritten'', hhost'', hspawning''⟩ := hends 0
  exact ⟨hone, ⟨two, htwo, hresult.symm, hwritten.symm, hhost.symm, hspawning.symm⟩,
    ⟨three, hthree, hresult'.symm, hwritten'.symm, hhost'.symm⟩,
    ⟨none, hnone, hresult''.symm, hwritten''.symm, hhost''.symm, hspawning''.symm⟩⟩

end BuildRunner
