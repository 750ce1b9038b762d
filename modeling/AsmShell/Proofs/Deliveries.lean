import AsmShell.Proofs.Turns

/-!
# Lines are delivered once, in the order of the stack

What a stack of sources does is compared with a ledger that knows nothing of popping.
The ledger keeps every source that was ever opened, with all its lines and with those
that were delivered, and a read goes by one rule: the line comes from the source opened
last that has an undelivered one.  The stack drops a script some time after its last
line, several at once if need be; `Ledger.Describes` says that what it has dropped is
spent, so the rule finds the same line in both.

A terminal is described by the lines that wait at it and by whether it fails behind
them.  Both may change between two reads, so a terminal that answers each read as it
likes is covered.
-/

namespace AsmShell

/-! ## Moves -/

/-- Something that is done to a stack, by a session or by somebody at the terminal. -/
inductive InputMove where
  /-- A script that is already open is pushed. -/
  | push (name : String) (contents : Contents)
  | redirect (opener : Opener) (path : String)
  | read
  | typed (line : String)
  /-- The terminal begins or ceases to fail where no line waits. -/
  | failing (failure : Option String)

/-- Whether the move pushes a script, or would. -/
def InputMove.pushes : InputMove → Bool
  | .push _ _ | .redirect _ _ => true
  | .read | .typed _ | .failing _ => false

/-- The script that a move pushes, under its name. -/
inductive InputMove.Opens : InputMove → String → Contents → Prop where
  | push {name : String} {contents : Contents} :
      Opens (.push name contents) name contents
  | redirect {opener : Opener} {path : String} {contents : Contents} :
      opener path = .ok contents →
      Opens (.redirect opener path) path contents

/-- What a move answers: a line only if it reads one. -/
abbrev InputAnswer : Type :=
  Except InputError (Option String)

namespace InputStack

/-- The stack after something was pushed, or the same stack where that was refused. -/
def orKept (stack : InputStack) : Except InputError InputStack → InputAnswer × InputStack
  | .ok pushed => (.ok none, pushed)
  | .error error => (.error error, stack)

/-- What a move answers, and the stack after it. -/
def make (stack : InputStack) : InputMove → InputAnswer × InputStack
  | .push name contents => stack.orKept (stack.push (.ofContents name contents))
  | .redirect opener path => stack.orKept (stack.redirect opener path)
  | .read => stack.readLine
  | .typed line => (.ok none, stack.typed line)
  | .failing failure =>
      (.ok none, { stack with terminal := { stack.terminal with failure := failure } })

/-- What moves answer one after the other, and the stack after all of them. -/
def makeAll (stack : InputStack) : List InputMove → List InputAnswer × InputStack
  | [] => ([], stack)
  | move :: moves =>
      let (answer, between) := stack.make move
      let (answers, after) := between.makeAll moves
      (answer :: answers, after)

end InputStack

/-! ## The ledger -/

/-- A source that was opened, with all lines that can be read from it and those that were
delivered, the first one first. -/
structure OpenedSource where
  name : String
  lines : List String
  failure : Option String
  delivered : List String := []
  /-- Whether the source was removed because reading it failed. -/
  removed : Bool := false

namespace OpenedSource

/-- A script that was just opened. -/
def ofContents (name : String) (contents : Contents) : OpenedSource where
  name := name
  lines := contents.lines
  failure := contents.failure

/-- A terminal from which nothing was read. -/
def ofTerminal (lines : List String) (failure : Option String) : OpenedSource where
  name := Source.terminalName
  lines := lines
  failure := failure

/-- The lines that were not yet delivered. -/
def undelivered (source : OpenedSource) : List String :=
  source.lines.drop source.delivered.length

/-- The source after a line of it was delivered. -/
def deliver (source : OpenedSource) (line : String) : OpenedSource :=
  { source with delivered := source.delivered ++ [line] }

/-- Nothing more is to come from the source, not even a failure. -/
def Spent (source : OpenedSource) : Prop :=
  source.undelivered = [] ∧ (source.failure = none ∨ source.removed = true)

/-- The source as it stands on a stack. -/
def onStack (source : OpenedSource) : Source where
  name := source.name
  pending := source.undelivered
  failure := source.failure
  delivered := source.delivered.length

end OpenedSource

/-- The sources that were opened. -/
structure Ledger where
  /-- The scripts, the one opened last first. -/
  scripts : List OpenedSource
  terminal : OpenedSource

namespace Ledger

/-- All sources of the ledger. -/
def sources (ledger : Ledger) : List OpenedSource :=
  ledger.terminal :: ledger.scripts

/-- The ledger after a script was opened. -/
def opened (ledger : Ledger) (script : OpenedSource) : Ledger :=
  { ledger with scripts := script :: ledger.scripts }

/-- The first undelivered line of a source is delivered: of the script opened last that has one,
and of the terminal where no script has any. -/
inductive Delivers : Ledger → OpenedSource → String → Ledger → Prop where
  | script {later earlier : List OpenedSource} {source terminal : OpenedSource} {line : String}
      {rest : List String} :
      (∀ newer ∈ later, newer.Spent) →
      source.undelivered = line :: rest →
      Delivers ⟨later ++ source :: earlier, terminal⟩ source line
        ⟨later ++ source.deliver line :: earlier, terminal⟩
  | terminal {scripts : List OpenedSource} {terminal : OpenedSource} {line : String}
      {rest : List String} :
      (∀ script ∈ scripts, script.Spent) →
      terminal.undelivered = line :: rest →
      Delivers ⟨scripts, terminal⟩ terminal line ⟨scripts, terminal.deliver line⟩

/-- What a read answers, and the ledger after it. -/
inductive Reads : Ledger → InputAnswer → Ledger → Prop where
  | line {ledger after : Ledger} {source : OpenedSource} {line : String} :
      ledger.Delivers source line after →
      Reads ledger (.ok (some line)) after
  | failed {later earlier : List OpenedSource} {source terminal : OpenedSource}
      {reason : String} :
      (∀ newer ∈ later, newer.Spent) →
      source.undelivered = [] →
      source.failure = some reason →
      source.removed = false →
      Reads ⟨later ++ source :: earlier, terminal⟩ (.error (.cannotRead source.name reason))
        ⟨later ++ { source with removed := true } :: earlier, terminal⟩
  | ended {ledger : Ledger} :
      (∀ script ∈ ledger.scripts, script.Spent) →
      ledger.terminal.undelivered = [] →
      ledger.terminal.failure = none →
      Reads ledger (.ok none) ledger
  | terminalFailed {ledger : Ledger} {reason : String} :
      (∀ script ∈ ledger.scripts, script.Spent) →
      ledger.terminal.undelivered = [] →
      ledger.terminal.failure = some reason →
      Reads ledger (.error (.terminal reason)) ledger

/-- What a move answers, and the ledger after it: a move that is refused changes nothing. -/
inductive Makes : Ledger → InputMove → InputAnswer → Ledger → Prop where
  | pushed {ledger : Ledger} {move : InputMove} {name : String} {contents : Contents} :
      move.Opens name contents →
      Makes ledger move (.ok none) (ledger.opened (.ofContents name contents))
  | notOpened {ledger : Ledger} {opener : Opener} {path : String} {failure : OpenFailure} :
      opener path = .error failure →
      Makes ledger (.redirect opener path) (.error (.cannotOpen path failure)) ledger
  | tooDeep {ledger : Ledger} {move : InputMove} :
      move.pushes = true →
      Makes ledger move (.error .tooDeep) ledger
  | read {ledger after : Ledger} {answer : InputAnswer} :
      ledger.Reads answer after →
      Makes ledger .read answer after
  | typed {ledger : Ledger} {line : String} :
      Makes ledger (.typed line) (.ok none)
        { ledger with
          terminal := { ledger.terminal with lines := ledger.terminal.lines ++ [line] } }
  | failing {ledger : Ledger} {failure : Option String} :
      Makes ledger (.failing failure) (.ok none)
        { ledger with terminal := { ledger.terminal with failure := failure } }

/-- What moves answer one after the other, and the ledger after all of them. -/
inductive MakesAll : Ledger → List InputMove → List InputAnswer → Ledger → Prop where
  | nil {ledger : Ledger} :
      MakesAll ledger [] [] ledger
  | cons {ledger between after : Ledger} {move : InputMove} {moves : List InputMove}
      {answer : InputAnswer} {answers : List InputAnswer} :
      ledger.Makes move answer between →
      between.MakesAll moves answers after →
      MakesAll ledger (move :: moves) (answer :: answers) after

/-! ## What the ledger says about a stack -/

/-- The scripts on a stack are those that were opened, without some that are spent. -/
inductive Stacked : List OpenedSource → List Source → Prop where
  | none :
      Stacked [] []
  | kept {source : OpenedSource} {opened : List OpenedSource} {scripts : List Source} :
      source.removed = false →
      Stacked opened scripts →
      Stacked (source :: opened) (source.onStack :: scripts)
  | dropped {source : OpenedSource} {opened : List OpenedSource} {scripts : List Source} :
      source.Spent →
      Stacked opened scripts →
      Stacked (source :: opened) scripts

/-- The stack holds every source of the ledger that has something left, and what was delivered
from a source are the first of its lines. -/
structure Describes (ledger : Ledger) (stack : InputStack) : Prop where
  scripts : Stacked ledger.scripts stack.scripts
  terminal : stack.terminal = ledger.terminal.onStack
  inOrder : ∀ source ∈ ledger.sources, source.delivered <+: source.lines

end Ledger

/-! ## Reading -/

namespace OpenedSource

theorem onStack_deliver
    {source : OpenedSource}
    {line : String}
    {rest : List String}
    (undelivered : source.undelivered = line :: rest) :
    (source.deliver line).onStack =
      { source.onStack with pending := rest, delivered := source.onStack.delivered + 1 } := by
  have tail : source.lines.drop (source.delivered.length + 1) = rest := by
    rw [← List.tail_drop]
    exact congrArg List.tail undelivered
  simp only [onStack, deliver, OpenedSource.undelivered, List.length_append,
    List.length_singleton, tail]

/-- A source whose deliveries are a beginning of its lines delivers the next line behind them. -/
theorem delivered_prefix_deliver
    {source : OpenedSource}
    {line : String}
    {rest : List String}
    (isPrefix : source.delivered <+: source.lines)
    (undelivered : source.undelivered = line :: rest) :
    (source.deliver line).delivered <+: (source.deliver line).lines := by
  rcases isPrefix with ⟨others, parts⟩
  have next : others = line :: rest := by
    rw [← undelivered, OpenedSource.undelivered, ← parts, List.drop_left]
  refine ⟨rest, ?_⟩
  rw [deliver, ← parts, next, List.append_assoc, List.singleton_append]

end OpenedSource

namespace Ledger

/-- A spent script on top of all others delivers nothing. -/
theorem Delivers.under_spent
    {opened openedAfter : List OpenedSource}
    {terminal terminalAfter source : OpenedSource}
    {line : String}
    (delivers : Delivers ⟨opened, terminal⟩ source line ⟨openedAfter, terminalAfter⟩)
    {script : OpenedSource}
    (spent : script.Spent) :
    Delivers ⟨script :: opened, terminal⟩ source line ⟨script :: openedAfter, terminalAfter⟩ := by
  cases delivers with
  | script laterSpent undelivered =>
      exact .script (List.forall_mem_cons.2 ⟨spent, laterSpent⟩) undelivered
  | terminal allSpent undelivered =>
      exact .terminal (List.forall_mem_cons.2 ⟨spent, allSpent⟩) undelivered

theorem Reads.under_spent
    {opened openedAfter : List OpenedSource}
    {terminal terminalAfter : OpenedSource}
    {answer : InputAnswer}
    (reads : Reads ⟨opened, terminal⟩ answer ⟨openedAfter, terminalAfter⟩)
    {script : OpenedSource}
    (spent : script.Spent) :
    Reads ⟨script :: opened, terminal⟩ answer ⟨script :: openedAfter, terminalAfter⟩ := by
  cases reads with
  | line delivers =>
      exact .line (delivers.under_spent spent)
  | failed laterSpent undelivered failure present =>
      exact .failed (List.forall_mem_cons.2 ⟨spent, laterSpent⟩) undelivered failure present
  | ended allSpent undelivered failure =>
      exact .ended (List.forall_mem_cons.2 ⟨spent, allSpent⟩) undelivered failure
  | terminalFailed allSpent undelivered failure =>
      exact .terminalFailed (List.forall_mem_cons.2 ⟨spent, allSpent⟩) undelivered failure

/-- The source that delivers a line is the active one on the stack after the read. -/
def ReadsFromActive (ledger : Ledger) (answer : InputAnswer) (ledgerAfter : Ledger)
    (after : InputStack) : Prop :=
  ∀ line, answer = .ok (some line) →
    ∃ source,
      ledger.Delivers source line ledgerAfter ∧ after.active = (source.deliver line).onStack

theorem ReadsFromActive.under_spent
    {opened openedAfter : List OpenedSource}
    {terminal terminalAfter : OpenedSource}
    {answer : InputAnswer}
    {after : InputStack}
    (fromActive :
      ReadsFromActive ⟨opened, terminal⟩ answer ⟨openedAfter, terminalAfter⟩ after)
    {script : OpenedSource}
    (spent : script.Spent) :
    ReadsFromActive ⟨script :: opened, terminal⟩ answer ⟨script :: openedAfter, terminalAfter⟩
      after := by
  intro line isLine
  rcases fromActive line isLine with ⟨source, delivers, isActive⟩
  exact ⟨source, delivers.under_spent spent, isActive⟩

/-- A read of the scripts on a stack, and of the terminal below them, is a read of the ledger. -/
theorem Stacked.exists_reads
    {opened : List OpenedSource}
    {scripts : List Source}
    (stacked : Stacked opened scripts)
    {terminal : OpenedSource}
    {answer : InputAnswer}
    {after : InputStack}
    (reads : InputStack.Reads ⟨scripts, terminal.onStack⟩ answer after) :
    ∃ openedAfter terminalAfter,
      Reads ⟨opened, terminal⟩ answer ⟨openedAfter, terminalAfter⟩ ∧
        ReadsFromActive ⟨opened, terminal⟩ answer ⟨openedAfter, terminalAfter⟩ after ∧
        Stacked openedAfter after.scripts ∧
        after.terminal = terminalAfter.onStack := by
  have noneSpent : ∀ script ∈ ([] : List OpenedSource), script.Spent := by
    simp
  induction stacked with
  | none =>
      cases reads with
      | typed pending =>
          have sameTerminal := (OpenedSource.onStack_deliver pending).symm
          have delivers := Delivers.terminal noneSpent pending
          refine ⟨_, _, .line delivers, ?_, .none, sameTerminal⟩
          rintro _ ⟨⟩
          exact ⟨_, delivers, sameTerminal⟩
      | ended pending failure =>
          exact ⟨_, _, .ended noneSpent pending failure, nofun, .none, rfl⟩
      | terminalFailed pending failure =>
          exact ⟨_, _, .terminalFailed noneSpent pending failure, nofun, .none, rfl⟩
  | dropped spent _ belowHypothesis =>
      rcases belowHypothesis reads with
        ⟨_, _, ledgerReads, fromActive, belowStacked, sameTerminal⟩
      exact ⟨_, _, ledgerReads.under_spent spent, fromActive.under_spent spent,
        .dropped spent belowStacked, sameTerminal⟩
  | @kept source below _ present belowStacked belowHypothesis =>
      cases reads with
      | @line _ _ _ line _ pending =>
          have delivers :
              Delivers ⟨source :: below, terminal⟩ source line
                ⟨source.deliver line :: below, terminal⟩ :=
            .script noneSpent pending
          rw [← OpenedSource.onStack_deliver pending]
          refine ⟨_, _, .line delivers, ?_, .kept present belowStacked, rfl⟩
          rintro _ ⟨⟩
          exact ⟨_, delivers, rfl⟩
      | failed pending failure =>
          exact ⟨_, _, .failed noneSpent pending failure present, nofun,
            .dropped ⟨pending, .inr rfl⟩ belowStacked, rfl⟩
      | exhausted pending failure belowReads =>
          have spent : source.Spent := ⟨pending, .inl failure⟩
          rcases belowHypothesis belowReads with
            ⟨_, _, ledgerReads, fromActive, stacked, sameTerminal⟩
          exact ⟨_, _, ledgerReads.under_spent spent, fromActive.under_spent spent,
            .dropped spent stacked, sameTerminal⟩

theorem forall_sources_of_replaced
    {property : OpenedSource → Prop}
    {later earlier : List OpenedSource}
    {source replaced terminal : OpenedSource}
    (holds : ∀ each ∈ sources ⟨later ++ source :: earlier, terminal⟩, property each)
    (kept : property source → property replaced) :
    ∀ each ∈ sources ⟨later ++ replaced :: earlier, terminal⟩, property each := by
  rcases List.forall_mem_cons.1 holds with ⟨ofTerminal, ofScripts⟩
  rcases List.forall_mem_append.1 ofScripts with ⟨ofLater, ofOthers⟩
  rcases List.forall_mem_cons.1 ofOthers with ⟨ofSource, ofEarlier⟩
  exact List.forall_mem_cons.2
    ⟨ofTerminal, List.forall_mem_append.2
      ⟨ofLater, List.forall_mem_cons.2 ⟨kept ofSource, ofEarlier⟩⟩⟩

/-- What is delivered is the next line of its source. -/
theorem Reads.inOrder
    {ledger after : Ledger}
    {answer : InputAnswer}
    (reads : ledger.Reads answer after)
    (inOrder : ∀ source ∈ ledger.sources, source.delivered <+: source.lines) :
    ∀ source ∈ after.sources, source.delivered <+: source.lines := by
  cases reads with
  | line delivers =>
      cases delivers with
      | script _ undelivered =>
          exact forall_sources_of_replaced inOrder
            fun isPrefix => OpenedSource.delivered_prefix_deliver isPrefix undelivered
      | terminal _ undelivered =>
          rcases List.forall_mem_cons.1 inOrder with ⟨terminalInOrder, scriptsInOrder⟩
          exact List.forall_mem_cons.2
            ⟨OpenedSource.delivered_prefix_deliver terminalInOrder undelivered, scriptsInOrder⟩
  | failed =>
      exact forall_sources_of_replaced inOrder id
  | ended =>
      exact inOrder
  | terminalFailed =>
      exact inOrder

theorem Describes.exists_reads
    {ledger : Ledger}
    {stack after : InputStack}
    {answer : InputAnswer}
    (describes : ledger.Describes stack)
    (read : stack.readLine = (answer, after)) :
    ∃ ledgerAfter,
      ledger.Reads answer ledgerAfter ∧
        ledger.ReadsFromActive answer ledgerAfter after ∧
        ledgerAfter.Describes after := by
  have reads : InputStack.Reads ⟨stack.scripts, ledger.terminal.onStack⟩ answer after := by
    rw [← describes.terminal]
    exact .of_readLine read
  rcases describes.scripts.exists_reads reads with
    ⟨_, _, ledgerReads, fromActive, stacked, terminal⟩
  exact ⟨_, ledgerReads, fromActive, stacked, terminal, ledgerReads.inOrder describes.inOrder⟩

end Ledger

/-! ## Pushing -/

theorem InputStack.push_of_room
    {stack : InputStack}
    (room : stack.depth < stackLimit)
    (script : Source) :
    stack.push script = .ok { stack with scripts := script :: stack.scripts } :=
  if_neg (Nat.not_le.2 room)

theorem InputStack.push_of_full
    {stack : InputStack}
    (full : stackLimit ≤ stack.depth)
    (script : Source) :
    stack.push script = .error .tooDeep :=
  if_pos full

/-- A move that is to push a script finds the stack full, or pushes the script, or cannot open
it. -/
theorem InputStack.make_cases
    (stack : InputStack)
    {move : InputMove}
    (pushes : move.pushes = true) :
    (stackLimit ≤ stack.depth ∧ stack.make move = (.error .tooDeep, stack)) ∨
      stack.depth < stackLimit ∧
        ((∃ name contents,
          move.Opens name contents ∧
            stack.make move =
              (.ok none,
                { stack with scripts := .ofContents name contents :: stack.scripts })) ∨
          ∃ opener path failure,
            move = .redirect opener path ∧ opener path = .error failure ∧
              stack.make move = (.error (.cannotOpen path failure), stack)) := by
  rcases Nat.lt_or_ge stack.depth stackLimit with room | full
  · refine .inr ⟨room, ?_⟩
    cases move with
    | push name contents =>
        exact .inl ⟨name, contents, .push, by rw [make, push_of_room room, orKept]⟩
    | redirect opener path =>
        rw [make, redirect_of_room opener path room]
        cases opened : opener path with
        | ok contents => exact .inl ⟨path, contents, .redirect opened, rfl⟩
        | error failure => exact .inr ⟨opener, path, failure, rfl, opened, rfl⟩
    | _ =>
        cases pushes
  · refine .inl ⟨full, ?_⟩
    cases move with
    | push name contents =>
        rw [make, push_of_full full, orKept]
    | redirect opener path =>
        rw [make, redirect_of_full opener path full, orKept]
    | _ =>
        cases pushes

theorem Ledger.Describes.opened
    {ledger : Ledger}
    {stack : InputStack}
    (describes : ledger.Describes stack)
    (name : String)
    (contents : Contents) :
    (ledger.opened (.ofContents name contents)).Describes
      { stack with scripts := .ofContents name contents :: stack.scripts } where
  scripts := .kept rfl describes.scripts
  terminal := describes.terminal
  inOrder := by
    rcases List.forall_mem_cons.1 describes.inOrder with ⟨terminalInOrder, scriptsInOrder⟩
    exact List.forall_mem_cons.2
      ⟨terminalInOrder, List.forall_mem_cons.2 ⟨List.nil_prefix, scriptsInOrder⟩⟩

theorem Ledger.Describes.exists_makes_of_pushes
    {ledger : Ledger}
    {stack : InputStack}
    (describes : ledger.Describes stack)
    {move : InputMove}
    (pushes : move.pushes = true) :
    ∃ after,
      ledger.Makes move (stack.make move).1 after ∧ after.Describes (stack.make move).2 := by
  rcases stack.make_cases pushes with
    ⟨_, made⟩ | ⟨_, ⟨name, contents, opens, made⟩ | ⟨opener, path, failure, rfl, opened, made⟩⟩
  · rw [made]
    exact ⟨ledger, .tooDeep pushes, describes⟩
  · rw [made]
    exact ⟨_, .pushed opens, describes.opened name contents⟩
  · rw [made]
    exact ⟨ledger, .notOpened opened, describes⟩

/-! ## Rows of moves -/

/-- Every move of the stack is a move of the ledger. -/
theorem Ledger.Describes.exists_makes
    {ledger : Ledger}
    {stack : InputStack}
    (describes : ledger.Describes stack)
    (move : InputMove) :
    ∃ after,
      ledger.Makes move (stack.make move).1 after ∧ after.Describes (stack.make move).2 := by
  rcases List.forall_mem_cons.1 describes.inOrder with ⟨terminalInOrder, scriptsInOrder⟩
  cases move with
  | push name contents =>
      exact describes.exists_makes_of_pushes rfl
  | redirect opener path =>
      exact describes.exists_makes_of_pushes rfl
  | read =>
      rcases describes.exists_reads rfl with ⟨_, reads, _, described⟩
      exact ⟨_, .read reads, described⟩
  | typed line =>
      refine ⟨_, .typed, describes.scripts, ?_, ?_⟩
      · have waiting :
            (ledger.terminal.lines ++ [line]).drop ledger.terminal.delivered.length =
              ledger.terminal.undelivered ++ [line] :=
          List.drop_append_of_le_length terminalInOrder.length_le
        simp only [InputStack.make, InputStack.typed, describes.terminal, OpenedSource.onStack,
          OpenedSource.undelivered] at waiting ⊢
        rw [waiting]
      · exact List.forall_mem_cons.2
          ⟨terminalInOrder.trans (List.prefix_append _ _), scriptsInOrder⟩
  | failing failure =>
      refine ⟨_, .failing, describes.scripts, ?_,
        List.forall_mem_cons.2 ⟨terminalInOrder, scriptsInOrder⟩⟩
      simp only [InputStack.make, describes.terminal, OpenedSource.onStack,
        OpenedSource.undelivered]

/-- Every row of moves of the stack is one of the ledger. -/
theorem Ledger.Describes.exists_makesAll
    {ledger : Ledger}
    {stack : InputStack}
    (describes : ledger.Describes stack)
    (moves : List InputMove) :
    ∃ after,
      ledger.MakesAll moves (stack.makeAll moves).1 after ∧
        after.Describes (stack.makeAll moves).2 := by
  induction moves generalizing ledger stack with
  | nil =>
      exact ⟨ledger, .nil, describes⟩
  | cons move moves movesHypothesis =>
      rcases describes.exists_makes move with ⟨between, makes, betweenDescribes⟩
      rcases movesHypothesis betweenDescribes with ⟨after, makesAll, afterDescribes⟩
      exact ⟨after, .cons makes makesAll, afterDescribes⟩

/-! ## Depth -/

namespace InputStack

theorem Reads.depth_le
    {stack after : InputStack}
    {answer : InputAnswer}
    (reads : stack.Reads answer after) :
    after.depth ≤ stack.depth := by
  induction reads with
  | failed =>
      exact Nat.le_succ _
  | exhausted _ _ _ belowHypothesis =>
      exact Nat.le_succ_of_le belowHypothesis
  | _ =>
      exact Nat.le_refl _

theorem depth_make_le
    {stack : InputStack}
    (shallow : stack.depth ≤ stackLimit)
    (move : InputMove) :
    (stack.make move).2.depth ≤ stackLimit := by
  cases pushes : move.pushes with
  | true =>
      rcases stack.make_cases pushes with
        ⟨_, made⟩ | ⟨room, ⟨name, contents, _, made⟩ | ⟨opener, path, failure, _, _, made⟩⟩
      · rwa [made]
      · rw [made]
        exact room
      · rwa [made]
  | false =>
      cases move with
      | read => exact Nat.le_trans (Reads.of_readLine rfl).depth_le shallow
      | typed line => exact shallow
      | failing failure => exact shallow
      | _ => cases pushes

theorem depth_makeAll_le
    {stack : InputStack}
    (shallow : stack.depth ≤ stackLimit)
    (moves : List InputMove) :
    (stack.makeAll moves).2.depth ≤ stackLimit := by
  induction moves generalizing stack with
  | nil =>
      exact shallow
  | cons move moves movesHypothesis =>
      exact movesHypothesis (depth_make_le shallow move)

end InputStack

/-! ## Failures and refusals -/

/-- Nothing more is to come from the source. -/
def Source.IsExhausted (source : Source) : Prop :=
  source.pending = [] ∧ source.failure = none

namespace InputStack

/-- A read that fails takes the failing script from the stack, and those above it from which
nothing more was to come. -/
inductive DropsFailing : InputStack → InputError → InputStack → Prop where
  | script {exhausted below : List Source} {failing terminal : Source} {reason : String} :
      (∀ script ∈ exhausted, script.IsExhausted) →
      failing.pending = [] →
      failing.failure = some reason →
      DropsFailing ⟨exhausted ++ failing :: below, terminal⟩
        (.cannotRead failing.name reason) ⟨below, terminal⟩
  | terminal {exhausted : List Source} {terminal : Source} {reason : String} :
      (∀ script ∈ exhausted, script.IsExhausted) →
      terminal.pending = [] →
      terminal.failure = some reason →
      DropsFailing ⟨exhausted, terminal⟩ (.terminal reason) ⟨[], terminal⟩

theorem Reads.dropsFailing
    {stack after : InputStack}
    {answer : InputAnswer}
    (reads : stack.Reads answer after)
    {error : InputError}
    (fails : answer = .error error) :
    stack.DropsFailing error after := by
  have noneExhausted : ∀ script ∈ ([] : List Source), script.IsExhausted := by
    simp
  induction reads with
  | failed pending failure =>
      cases fails
      exact .script noneExhausted pending failure
  | terminalFailed pending failure =>
      cases fails
      exact .terminal noneExhausted pending failure
  | exhausted pending failure _ belowHypothesis =>
      have first := And.intro pending failure
      cases belowHypothesis fails with
      | script others failingPending failingFailure =>
          exact .script (List.forall_mem_cons.2 ⟨first, others⟩) failingPending failingFailure
      | terminal others terminalPending terminalFailure =>
          exact .terminal (List.forall_mem_cons.2 ⟨first, others⟩) terminalPending
            terminalFailure
  | typed =>
      cases fails
  | ended =>
      cases fails
  | line =>
      cases fails

/-- A push that is refused leaves the stack and all later answers as they would be without it. -/
theorem makeAll_of_refused
    {stack : InputStack}
    {move : InputMove}
    (pushes : move.pushes = true)
    {error : InputError}
    (refused : (stack.make move).1 = .error error)
    (later : List InputMove) :
    stack.makeAll (move :: later) =
      (.error error :: (stack.makeAll later).1, (stack.makeAll later).2) := by
  have kept : stack.make move = (.error error, stack) := by
    rcases stack.make_cases pushes with
      ⟨_, made⟩ | ⟨_, ⟨name, contents, _, made⟩ | ⟨opener, path, failure, _, _, made⟩⟩
    · rw [made] at refused ⊢
      exact Prod.ext refused rfl
    · rw [made] at refused
      cases refused
    · rw [made] at refused ⊢
      exact Prod.ext refused rfl
  rw [makeAll, kept]

theorem make_eq_tooDeep_iff
    {stack : InputStack}
    (shallow : stack.depth ≤ stackLimit)
    {move : InputMove}
    (pushes : move.pushes = true) :
    (stack.make move).1 = .error .tooDeep ↔ stack.depth = stackLimit := by
  rcases stack.make_cases pushes with
    ⟨full, made⟩ | ⟨room, ⟨name, contents, _, made⟩ | ⟨opener, path, failure, _, _, made⟩⟩
  · rw [made]
    exact iff_of_true rfl (Nat.le_antisymm shallow full)
  · rw [made]
    exact iff_of_false (by simp) (Nat.ne_of_lt room)
  · rw [made]
    exact iff_of_false (by simp) (Nat.ne_of_lt room)

end InputStack

/-! ## Whole histories of a stack -/

/-- A source from which not everything was delivered is on the stack. -/
theorem Ledger.Stacked.delivered_eq_or_mem
    {opened : List OpenedSource}
    {scripts : List Source}
    (stacked : Stacked opened scripts)
    (inOrder : ∀ source ∈ opened, source.delivered <+: source.lines) :
    ∀ source ∈ opened, source.delivered = source.lines ∨ source.onStack ∈ scripts := by
  induction stacked with
  | none =>
      simp
  | kept _ _ belowHypothesis =>
      rcases List.forall_mem_cons.1 inOrder with ⟨_, others⟩
      refine List.forall_mem_cons.2 ⟨.inr List.mem_cons_self, ?_⟩
      intro source member
      exact (belowHypothesis others source member).imp_right (List.mem_cons_of_mem _)
  | dropped spent _ belowHypothesis =>
      rcases List.forall_mem_cons.1 inOrder with ⟨first, others⟩
      refine List.forall_mem_cons.2 ⟨.inl ?_, belowHypothesis others⟩
      exact first.eq_of_length_le (List.drop_eq_nil_iff.1 spent.1)

/--
Whatever is done to a stack that begins with a terminal, what it answers is what the
ledger of its sources answers: each line is the first undelivered one of the script opened
last that has any, or of the terminal where no script has.  So the lines delivered from a
source are the first of its lines, in their order, and a source from which not all were
delivered is still on the stack.  A read that fails drops the failing script and leaves
what is below it.  Never are more than 128 scripts stacked, a script is refused as one too
many exactly when 128 are, and a push that is refused changes neither the stack nor any
later answer.
-/
theorem lines_delivered_once_in_stack_order
    (lines : List String)
    (failure : Option String)
    (moves : List InputMove) :
    ∃ answers final ledger,
      InputStack.makeAll ⟨[], .terminal lines failure⟩ moves = (answers, final) ∧
        Ledger.MakesAll ⟨[], .ofTerminal lines failure⟩ moves answers ledger ∧
        ledger.Describes final ∧
        (∀ source ∈ ledger.sources, source.delivered <+: source.lines) ∧
        (∀ source ∈ ledger.scripts,
          source.delivered = source.lines ∨ source.onStack ∈ final.scripts) ∧
        (∀ error after,
          final.readLine = (.error error, after) → final.DropsFailing error after) ∧
        final.depth ≤ stackLimit ∧
        ∀ move, move.pushes = true →
          ((final.make move).1 = .error .tooDeep ↔ final.depth = stackLimit) ∧
            ∀ error, (final.make move).1 = .error error →
              ∀ later,
                final.makeAll (move :: later) =
                  (.error error :: (final.makeAll later).1, (final.makeAll later).2) := by
  have started :
      Ledger.Describes ⟨[], .ofTerminal lines failure⟩ ⟨[], .terminal lines failure⟩ := by
    refine ⟨.none, rfl, List.forall_mem_cons.2 ⟨List.nil_prefix, by simp⟩⟩
  rcases started.exists_makesAll moves with ⟨ledger, makesAll, describes⟩
  have shallow :
      (InputStack.makeAll ⟨[], .terminal lines failure⟩ moves).2.depth ≤ stackLimit :=
    InputStack.depth_makeAll_le (Nat.zero_le _) moves
  refine ⟨_, _, ledger, rfl, makesAll, describes, describes.inOrder, ?_, ?_, shallow, ?_⟩
  · exact describes.scripts.delivered_eq_or_mem
      fun source member => describes.inOrder source (List.mem_cons_of_mem _ member)
  · intro error after read
    exact (InputStack.Reads.of_readLine read).dropsFailing rfl
  · intro move pushes
    exact ⟨InputStack.make_eq_tooDeep_iff shallow pushes,
      fun error refused => InputStack.makeAll_of_refused pushes refused⟩

/-- A script fails behind its first line, which loses the line it had begun; reading goes on in the
script below and at the terminal, and a script that cannot be opened changes nothing. -/
theorem lines_delivered_once_in_stack_order_of_failure :
    ∃ ledger : Ledger,
      Ledger.MakesAll ⟨[], .ofTerminal ["t"] none⟩
          [.push "a" { bytes := [120, 10] },
            .push "b" { bytes := [112, 10, 113], failure := some "gone" },
            .read, .read, .read]
          [.ok none, .ok none, .ok (some "p"), .error (.cannotRead "b" "gone"), .ok (some "x")]
          ledger ∧
        (∀ source ∈ ledger.sources, source.delivered <+: source.lines) ∧
        InputStack.makeAll ⟨[⟨"a", [], none, 1⟩], .terminal ["t"] none⟩
            [.redirect (fun _ => .error .notFound) "m", .read] =
          ([.error (.cannotOpen "m" .notFound), .ok (some "t")],
            ⟨[], { Source.terminal [] none with delivered := 1 }⟩) := by
  let moves : List InputMove :=
    [.push "a" { bytes := [120, 10] },
      .push "b" { bytes := [112, 10, 113], failure := some "gone" },
      .read, .read, .read]
  have ran :
      InputStack.makeAll ⟨[], .terminal ["t"] none⟩ moves =
        ([.ok none, .ok none, .ok (some "p"), .error (.cannotRead "b" "gone"), .ok (some "x")],
          ⟨[⟨"a", [], none, 1⟩], .terminal ["t"] none⟩) :=
    rfl
  rcases lines_delivered_once_in_stack_order ["t"] none moves with
    ⟨answers, final, ledger, made, makesAll, _, inOrder, _, _, _, pushing⟩
  rcases Prod.mk.inj (ran.symm.trans made) with ⟨rfl, rfl⟩
  refine ⟨ledger, makesAll, inOrder, ?_⟩
  exact (pushing (.redirect (fun _ => .error .notFound) "m") rfl).2 _ rfl [.read]

end AsmShell
