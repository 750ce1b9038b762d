import AsmShell.Proofs.Turns

/-!
# Every run ends

A turn that does not end the run lowers the number of reads that the stack may still
take.  Where a line pushes no script, one read is gone with the line.  Where it pushes
one, what the script may take was counted with the line before: each line of a source
counts for itself and for a longest script pushed from it.
-/

namespace AsmShell

/-! ## What a line counts for -/

/-- The most reads of a script that is pushed onto a stack of a depth. -/
def pushReads (longest depth : Nat) : Nat :=
  if depth < stackLimit then sourceReads longest (stackLimit - (depth + 1)) longest else 0

/-- One more line costs its own read and the reads of a script that it may push. -/
theorem sourceReads_succ
    (longest depth pending : Nat) :
    sourceReads longest (stackLimit - depth) (pending + 1) =
      sourceReads longest (stackLimit - depth) pending + (1 + pushReads longest depth) := by
  unfold pushReads
  split
  · rename_i room
    have levels : stackLimit - depth = stackLimit - (depth + 1) + 1 := by omega
    rw [levels, sourceReads, sourceReads, Nat.succ_mul]
    omega
  · rename_i full
    have levels : stackLimit - depth = 0 := by omega
    rw [levels, sourceReads, sourceReads]

theorem sourceReads_pos
    (longest levels pending : Nat) :
    0 < sourceReads longest levels pending := by
  cases levels <;> simp [sourceReads]

/-- Fewer lines need fewer reads. -/
theorem sourceReads_mono
    (longest levels : Nat)
    {pending more : Nat}
    (fewer : pending ≤ more) :
    sourceReads longest levels pending ≤ sourceReads longest levels more := by
  cases levels with
  | zero =>
      exact Nat.succ_le_succ fewer
  | succ levels =>
      exact Nat.succ_le_succ (Nat.mul_le_mul_right _ fewer)

/-! ## Reading -/

namespace InputStack

/-- A script on top of a stack adds its own reads to those of the stack. -/
theorem readBound_push
    (longest : Nat)
    (script : Source)
    (below : List Source)
    (terminal : Source) :
    readBound longest ⟨script :: below, terminal⟩ =
      sourceReads longest (stackLimit - (below.length + 1)) script.pending.length +
        readBound longest ⟨below, terminal⟩ := by
  simp only [readBound, scriptReads]
  omega

theorem readBound_terminal
    (longest : Nat)
    (terminal : Source) :
    readBound longest ⟨[], terminal⟩ =
      sourceReads longest stackLimit terminal.pending.length := by
  simp only [readBound, scriptReads, Nat.zero_add]

/-- Reading a line lowers the bound by one and by what may be pushed from the line. -/
theorem Reads.readBound_of_line
    (longest : Nat)
    {stack after : InputStack}
    {given : Except InputError (Option String)}
    (reads : stack.Reads given after)
    {line : String}
    (isLine : given = .ok (some line)) :
    after.readBound longest + pushReads longest after.depth < stack.readBound longest := by
  induction reads with
  | @typed terminal _ rest pending =>
      have counted := sourceReads_succ longest 0 rest.length
      simp only [readBound_terminal, pending, List.length_cons, depth, List.length_nil]
      rw [Nat.sub_zero] at counted
      omega
  | @line script below terminal _ rest pending =>
      have counted := sourceReads_succ longest (below.length + 1) rest.length
      simp only [readBound_push, pending, List.length_cons, depth]
      omega
  | @exhausted script below terminal _ _ _ _ _ belowHypothesis =>
      have lower := belowHypothesis isLine
      rw [readBound_push]
      omega
  | ended =>
      cases isLine
  | terminalFailed =>
      cases isLine
  | failed =>
      cases isLine

/-- Reading up to a script that fails lowers the bound. -/
theorem Reads.readBound_of_failure
    (longest : Nat)
    {stack after : InputStack}
    {given : Except InputError (Option String)}
    (reads : stack.Reads given after)
    {error : InputError}
    (fails : given = .error error)
    (goesOn : error.ending = none) :
    after.readBound longest < stack.readBound longest := by
  induction reads with
  | @failed script below terminal reason pending failure =>
      have positive :=
        sourceReads_pos longest (stackLimit - (below.length + 1)) script.pending.length
      rw [readBound_push]
      omega
  | @exhausted script below terminal _ _ _ _ _ belowHypothesis =>
      have lower := belowHypothesis fails
      rw [readBound_push]
      omega
  | terminalFailed =>
      cases fails
      cases goesOn
  | typed =>
      cases fails
  | ended =>
      cases fails
  | line =>
      cases fails

end InputStack

/-! ## Executing -/

/-- The scripts that can be opened have at most a number of lines. -/
def Opener.Within (opener : Opener) (longest : Nat) : Prop :=
  ∀ path contents, opener path = .ok contents → contents.lines.length ≤ longest

/-- A line adds no more reads than a script takes on the stack as it stands. -/
theorem Session.readBound_execute
    {opener : Opener}
    {longest : Nat}
    (within : opener.Within longest)
    (session : Session)
    (line : String) :
    (session.execute opener line).session.input.readBound longest ≤
      session.input.readBound longest + pushReads longest session.input.depth := by
  cases asked : session.requestedScript? line with
  | none =>
      rcases exists_execute_of_none opener asked with ⟨effect, executed⟩
      rw [executed session.input]
      exact Nat.le_add_right _ _
  | some path =>
      rcases exists_execute_of_some opener asked with ⟨diagnostics, column, executed⟩
      rw [executed session.input]
      rcases Nat.lt_or_ge session.input.depth stackLimit with room | full
      · rw [InputStack.redirect_of_room opener path room]
        cases opened : opener path with
        | error failure =>
            exact Nat.le_add_right _ _
        | ok contents =>
            have fewer := sourceReads_mono longest (stackLimit - (session.input.depth + 1))
              (within path contents opened)
            simp only [InputStack.readBound_push, pushReads, if_pos room]
            rw [Nat.add_comm]
            exact Nat.add_le_add_left fewer _
      · rw [InputStack.redirect_of_full opener path full]
        exact Nat.le_add_right _ _

/-- A turn that does not end the run lowers the bound. -/
theorem Session.readBound_turn
    {opener : Opener}
    {longest : Nat}
    (within : opener.Within longest)
    {session : Session}
    (goesOn : (session.turn opener).ending = none) :
    (session.turn opener).session.input.readBound longest < session.input.readBound longest := by
  unfold turn at goesOn ⊢
  rcases read : session.input.readLine with ⟨_ | _ | line, input⟩
  · simp only [read] at goesOn ⊢
    exact (InputStack.Reads.of_readLine read).readBound_of_failure longest rfl goesOn
  · simp only [read] at goesOn
    cases goesOn
  · simp only [read] at goesOn ⊢
    have lower := (InputStack.Reads.of_readLine read).readBound_of_line longest rfl
    have pushed := readBound_execute within { session with input := input } line
    exact Nat.lt_of_le_of_lt pushed lower

/-! ## Whole runs -/

/-- The end of the terminal takes a read. -/
theorem InputStack.readBound_pos
    (longest : Nat)
    (stack : InputStack) :
    0 < stack.readBound longest :=
  Nat.lt_of_lt_of_le (sourceReads_pos longest stackLimit _) (Nat.le_add_left _ _)

namespace Session

/-- Each turn that does not end the run takes a read off the bound, so the bound is enough. -/
theorem exists_ending_of_readBound_le
    {opener : Opener}
    {longest : Nat}
    (within : opener.Within longest)
    (reads : Nat)
    (session : Session)
    (enough : session.input.readBound longest ≤ reads) :
    ∃ ending, (session.runFor opener reads).ending = some ending := by
  induction reads generalizing session with
  | zero =>
      have positive := session.input.readBound_pos longest
      omega
  | succ reads readsHypothesis =>
      rw [runFor_succ]
      cases ended : (session.turn opener).ending with
      | some ending =>
          rw [RunResult.continued_of_ending ended]
          exact ⟨ending, ended⟩
      | none =>
          rw [RunResult.continued_of_none ended]
          have lower := readBound_turn within ended
          exact readsHypothesis _ (by omega)

/-- A run that has ended is not changed by allowing it more reads. -/
theorem runFor_of_ending
    {opener : Opener}
    {reads more : Nat}
    {session : Session}
    {ending : Ending}
    (ended : (session.runFor opener reads).ending = some ending)
    (fewer : reads ≤ more) :
    session.runFor opener more = session.runFor opener reads := by
  induction reads generalizing session more with
  | zero =>
      cases ended
  | succ reads readsHypothesis =>
      rcases Nat.exists_eq_add_one_of_ne_zero (Nat.ne_zero_of_lt fewer) with ⟨others, rfl⟩
      rw [runFor_succ] at ended
      rw [runFor_succ, runFor_succ]
      cases turnEnding : (session.turn opener).ending with
      | some _ =>
          rw [RunResult.continued_of_ending turnEnding, RunResult.continued_of_ending turnEnding]
      | none =>
          rw [RunResult.continued_of_none turnEnding] at ended
          rw [RunResult.continued_of_none turnEnding, RunResult.continued_of_none turnEnding,
            readsHypothesis ended (Nat.le_of_succ_le_succ fewer)]

end Session

/-! ## Files -/

namespace FileSystem

/-- The entry is a directory or was written to the file system. -/
def Holds (fileSystem : FileSystem) (entry : Entry) : Prop :=
  entry = .directory ∨ ∃ names, (names, entry) ∈ fileSystem.entries

/-- The place is above the working directory or has an entry of the file system. -/
def Place.Held (fileSystem : FileSystem) : Place → Prop
  | .within _ entry => fileSystem.Holds entry
  | .beyond => True

variable {fileSystem : FileSystem}

theorem holds_of_entryAt?
    {names : List String}
    {entry : Entry}
    (found : fileSystem.entryAt? names = some entry) :
    fileSystem.Holds entry := by
  unfold entryAt? at found
  split at found
  · rename_i written isWritten
    cases found
    exact .inr ⟨written.1, List.mem_of_find?_eq_some isWritten⟩
  · split at found
    · cases found
      exact .inl rfl
    · cases found

/-- A path leads to nothing that the file system does not hold. -/
theorem held_step
    {place after : Place}
    {name : String}
    (held : place.Held fileSystem)
    (stepped : fileSystem.step place name = .ok after) :
    after.Held fileSystem := by
  unfold step at stepped
  split at stepped
  · cases stepped
  · rename_i names
    split at stepped
    · cases stepped
      exact held
    · split at stepped
      · split at stepped
        · cases stepped
          trivial
        · cases stepped
          exact .inl rfl
      · split at stepped
        · cases stepped
        · split at stepped
          · rename_i entry found
            cases stepped
            exact holds_of_entryAt? found
          · cases stepped
  · split at stepped
    · cases stepped
      trivial
    · split at stepped <;> cases stepped

theorem held_of_foldlM_step
    (names : List String)
    {start reached : Place}
    (held : start.Held fileSystem)
    (walked : names.foldlM fileSystem.step start = .ok reached) :
    reached.Held fileSystem := by
  induction names generalizing start with
  | nil =>
      cases walked
      exact held
  | cons name others othersHypothesis =>
      rw [List.foldlM_cons] at walked
      cases stepped : fileSystem.step start name with
      | error failure =>
          rw [stepped] at walked
          cases walked
      | ok place =>
          rw [stepped] at walked
          exact othersHypothesis (held_step held stepped) walked

theorem holds_of_resolve
    {path : String}
    {entry : Entry}
    (resolved : fileSystem.resolve path = .ok entry) :
    fileSystem.Holds entry := by
  unfold resolve at resolved
  split at resolved
  · cases resolved
  · split at resolved
    · cases resolved
    · split at resolved
      · cases resolved
      · have started :
            (if path.toList.head? = some '/' then Place.beyond
              else Place.workingDirectory).Held fileSystem := by
          split
          · trivial
          · exact .inl rfl
        dsimp only at resolved
        split at resolved
        · rename_i names reached walked
          cases resolved
          exact held_of_foldlM_step _ started walked
        · cases resolved
          exact .inl rfl
        · cases resolved

theorem length_lines_le_mostLines
    {entry : Entry}
    (holds : fileSystem.Holds entry) :
    (Contents.ofEntry entry).lines.length ≤ fileSystem.mostLines := by
  rcases holds with rfl | ⟨names, member⟩
  · exact Nat.zero_le _
  · let lengths :=
      fileSystem.entries.map fun written => (Contents.ofEntry written.2).lines.length
    have largest : (0 :: lengths).max? = some fileSystem.mostLines := List.max?_cons'
    exact (List.max?_eq_some_iff.1 largest).2 _
      (List.mem_cons_of_mem _ (List.mem_map_of_mem member))

/-- No script of a file system has more lines than the longest of its files. -/
theorem opener_within
    (fileSystem : FileSystem) :
    fileSystem.opener.Within fileSystem.mostLines := by
  intro path contents opened
  unfold opener at opened
  cases resolved : fileSystem.resolve path with
  | error failure =>
      rw [resolved] at opened
      cases opened
  | ok entry =>
      rw [resolved] at opened
      cases opened
      exact length_lines_le_mostLines (holds_of_resolve resolved)

end FileSystem

/-- More reads than the bound change nothing, as the run has ended. -/
theorem Session.runFor_eq_run
    (fileSystem : FileSystem)
    (session : Session)
    {reads : Nat}
    (enough : session.input.readBound fileSystem.mostLines ≤ reads) :
    session.runFor fileSystem.opener reads = session.run fileSystem := by
  rcases exists_ending_of_readBound_le fileSystem.opener_within _ session (Nat.le_refl _) with
    ⟨ending, ended⟩
  exact runFor_of_ending ended enough

/--
Every run ends, from every session and whatever the scripts push: a line quits, or the
terminal ends or fails.  Scripts are opened in a file system, or by any opener that gives
no script of more than a number of lines; then no run takes more than a number of reads
that is known before, and allowing it more changes nothing.
-/
theorem runs_reach_an_ending
    (session : Session) :
    (∀ fileSystem, ∃ ending, (session.run fileSystem).ending = some ending) ∧
      ∀ opener longest,
        (∀ path contents, opener path = .ok contents → contents.lines.length ≤ longest) →
          ∃ ending final shown,
            ∀ reads, session.input.readBound longest ≤ reads →
              session.runFor opener reads = ⟨some ending, final, shown⟩ := by
  constructor
  · intro fileSystem
    exact Session.exists_ending_of_readBound_le fileSystem.opener_within _ session (Nat.le_refl _)
  · intro opener longest within
    rcases Session.exists_ending_of_readBound_le within _ session (Nat.le_refl _) with
      ⟨ending, ended⟩
    let result := session.runFor opener (session.input.readBound longest)
    refine ⟨ending, result.session, result.transcript, ?_⟩
    intro reads enough
    rw [Session.runFor_of_ending ended enough, ← ended]

/-- A script that pushes itself is read until the stack is full, and then to its end each time. -/
theorem runs_reach_an_ending_of_self_sourcing :
    ∃ (fileSystem : FileSystem) (contents : Contents),
      fileSystem.opener "loop" = .ok contents ∧
        contents.lines = [":source loop"] ∧
        ∃ ending final shown,
          ∀ reads, 258 ≤ reads →
            Session.runFor fileSystem.opener reads
              { input := { terminal := .terminal [":source loop"] none }
                assembler := .unsupported ⟨"none", "none"⟩ } = ⟨some ending, final, shown⟩ := by
  let fileSystem : FileSystem :=
    ⟨[(["loop"], .file [58, 115, 111, 117, 114, 99, 101, 32, 108, 111, 111, 112, 10])]⟩
  refine ⟨fileSystem, _, rfl, by decide +kernel, ?_⟩
  let session : Session :=
    { input := { terminal := .terminal [":source loop"] none }
      assembler := .unsupported ⟨"none", "none"⟩ }
  have longest : fileSystem.mostLines = 1 := by decide +kernel
  have bound : session.input.readBound 1 = 258 := by decide +kernel
  rcases (runs_reach_an_ending session).2 fileSystem.opener 1
      (longest ▸ fileSystem.opener_within) with
    ⟨ending, final, shown, ran⟩
  refine ⟨ending, final, shown, ?_⟩
  intro reads enough
  exact ran reads (Nat.le_trans (Nat.le_of_eq bound) enough)

end AsmShell
