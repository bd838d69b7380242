import ClusterInspector.Proofs.Limits

/-!
# Transcripts

A session is its lines answered in order and nothing else. What it remembers are the lines that are
not blank; what its log holds are the exchanges they make with the store, which each line finds as the
lines before it left it. Looking through the history leaves no trace, and a blank line none at all.
-/
namespace ClusterInspector

namespace Console

/-- A line and what answering it came to. -/
structure Exchange where
  line : String
  outcome : Except Fault Reply

/-- Lines answered one after the other, each by the store that those before it left. -/
def exchanges (now : Nat) : Store → List String → List Exchange
  | _, [] => []
  | s, line :: rest =>
    let step := answerLine now s line
    ⟨line, step.result⟩ :: exchanges now step.state rest

/-- The store that lines leave, whether they are answered or end in a fault. -/
def storeAfter (now : Nat) (s : Store) (lines : List String) : Store :=
  lines.foldl (fun s line => (answerLine now s line).state) s

/-- What an exchange adds to a log: the echo, and the reply if there was one. -/
def Exchange.entries (e : Exchange) : List (EntryRole × String) :=
  (.command, s!"$ {e.line}") ::
    match e.outcome with
    | .ok reply => [(if reply.isError then .error else .output, reply.text)]
    | .error _ => []

theorem exchanges_append (now : Nat) (s : Store) (past future : List String) :
    exchanges now s (past ++ future) =
      exchanges now s past ++ exchanges now (storeAfter now s past) future := by
  induction past generalizing s with
  | nil => rfl
  | cons line past ih => exact congrArg (_ :: ·) (ih _)

theorem storeAfter_append (now : Nat) (s : Store) (past future : List String) :
    storeAfter now s (past ++ future) = storeAfter now (storeAfter now s past) future :=
  List.foldl_append

/-- The entries of an exchange begin with an echo, and the reply is none. -/
theorem Exchange.echoes_entries (e : Exchange) :
    (e.entries.filter (·.1 = .command)).map (·.2) = [s!"$ {e.line}"] := by
  obtain ⟨line, fault | ⟨text, isError⟩⟩ := e
  · rfl
  · cases isError <;> rfl

theorem echoes_exchanges (now : Nat) (s : Store) (lines : List String) :
    (((exchanges now s lines).flatMap (·.entries)).filter (·.1 = .command)).map (·.2) =
      lines.map fun line => s!"$ {line}" := by
  induction lines generalizing s with
  | nil => rfl
  | cons line rest ih =>
    rw [exchanges, List.flatMap_cons, List.filter_append, List.map_append, Exchange.echoes_entries, ih]
    rfl

end Console

/-- What the entries say, and in what role. -/
def Log.said (l : Log) : List (EntryRole × String) := l.entries.map fun e => (e.role, e.content)

theorem Log.said_append (l : Log) (role : EntryRole) (content : String) :
    (l.append role content).state.said = l.said ++ [(role, content)] := by
  rw [said, show (l.append role content).state.entries = l.entries ++ [_] from rfl, List.map_append]
  rfl

namespace Session

/-- What a user of a session does. -/
inductive Operation where
  | submit (text : String)
  | previous
  | next
  deriving DecidableEq, Repr

/-- The session after an operation, also where that ended in a fault. -/
def perform (s : Session) : Operation → Session
  | .submit text => (s.submit text).state
  | .previous => s.previous.1
  | .next => s.next.1

def run (s : Session) (ops : List Operation) : Session := ops.foldl perform s

theorem run_append (s : Session) (past future : List Operation) :
    s.run (past ++ future) = (s.run past).run future :=
  List.foldl_append

/-- The line that an operation submits, if it is not blank. -/
def Operation.line? : Operation → Option String
  | .submit text => if isBlank text then none else some text
  | .previous | .next => none

def linesOf (ops : List Operation) : List String := ops.filterMap Operation.line?

/-- The session with others to tell of its entries. -/
def watchedBy (s : Session) (watchers : Registry EntryWatcher) : Session :=
  { s with log := { s.log with watchers } }

/-- The second session is what lines make of the first. -/
structure Continues (before : Session) (lines : List String) (after : Session) : Prop where
  said : after.log.said = before.log.said ++
    (Console.exchanges before.now before.store lines).flatMap (·.entries)
  store : after.store = Console.storeAfter before.now before.store lines
  history : after.history.lines = before.history.lines ++ lines
  now : after.now = before.now
  quiet : after.log.IsQuiet

theorem Continues.trans {a b c : Session} {past future : List String} (first : a.Continues past b)
    (second : b.Continues future c) : a.Continues (past ++ future) c where
  said := by
    rw [second.said, first.said, first.now, first.store, Console.exchanges_append,
      List.flatMap_append, List.append_assoc]
  store := by rw [second.store, first.now, first.store, Console.storeAfter_append]
  history := by rw [second.history, first.history, List.append_assoc]
  now := second.now.trans first.now
  quiet := second.quiet

/-- A session whose log, store and lines are the same has gone on by no line. -/
theorem Continues.nothing {before after : Session} (log : after.log = before.log)
    (store : after.store = before.store) (history : after.history.lines = before.history.lines)
    (now : after.now = before.now) (quiet : before.log.IsQuiet) : before.Continues [] after where
  said := by rw [log, Console.exchanges, List.flatMap_nil, List.append_nil]
  store := store
  history := by rw [history, List.append_nil]
  now := now
  quiet := by rw [log]; exact quiet

theorem append_history (s : Session) (role : EntryRole) (content : String) :
    (s.append role content).state.history = s.history := rfl

theorem submit_of_isBlank (s : Session) (text : String) (blank : isBlank text = true) :
    s.submit text = { state := s, result := .ok () } :=
  if_pos blank

theorem respond_state (s : Session) (line : String) (quiet : s.log.IsQuiet) :
    (s.respond line).state =
      { store := (Console.answerLine s.now s.store line).state
        log := (s.log.append .command s!"$ {line}").state
        history := s.history.record line
        now := s.now } := by
  obtain ⟨echo, _, _, ok, _, _⟩ := s.log.append_spec .command s!"$ {line}" quiet
  have echoed : ({ s with history := s.history.record line }.append .command s!"$ {line}").result =
      .ok echo := ok
  unfold respond
  rw [Step.andThen_of_ok echoed]
  rfl

/-- A line that is not blank makes one exchange, also where it ends in a fault. -/
theorem submit_continues (s : Session) (line : String) (written : isBlank line = false)
    (quiet : s.log.IsQuiet) : s.Continues [line] (s.submit line).state := by
  obtain ⟨_, _, _, result, _, stillQuiet⟩ := respond_spec s line quiet
  have state := respond_state s line quiet
  have echoed : (s.respond line).state.log.said = s.log.said ++ [(.command, s!"$ {line}")] := by
    rw [state]
    exact s.log.said_append .command s!"$ {line}"
  unfold submit
  rw [written, if_neg Bool.false_ne_true]
  cases answered : (Console.answerLine s.now s.store line).result with
  | error f =>
    rw [answered] at result
    rw [Step.andThen_of_error result]
    exact {
      said := by simp [echoed, Console.exchanges, Console.Exchange.entries, answered]
      store := by rw [state]; rfl
      history := by rw [state, History.lines_record]
      now := by rw [state]
      quiet := stillQuiet }
  | ok reply =>
    rw [answered] at result
    rw [Step.andThen_of_ok result]
    obtain ⟨_, _, _, _, _, quietAgain⟩ := (s.respond line).state.log.append_spec
      (if reply.isError then .error else .output) reply.text stillQuiet
    exact {
      said := by
        simp [Log.said_append, echoed, Console.exchanges, Console.Exchange.entries, answered]
      store := by rw [append_store, state]; rfl
      history := by rw [append_history, state, History.lines_record]
      now := by rw [append_now, state]
      quiet := quietAgain }

theorem perform_continues (s : Session) (op : Operation) (quiet : s.log.IsQuiet) :
    s.Continues (linesOf [op]) (s.perform op) := by
  cases op with
  | submit text =>
    cases blank : isBlank text with
    | true =>
      have none : linesOf [.submit text] = [] := by simp [linesOf, Operation.line?, blank]
      rw [none, perform, submit_of_isBlank s text blank]
      exact .nothing rfl rfl rfl rfl quiet
    | false =>
      have one : linesOf [.submit text] = [text] := by simp [linesOf, Operation.line?, blank]
      rw [one]
      exact submit_continues s text blank quiet
  | previous => exact .nothing rfl rfl (History.lines_previous s.history) rfl quiet
  | next => exact .nothing rfl rfl (History.lines_next s.history) rfl quiet

theorem run_continues (s : Session) (ops : List Operation) (quiet : s.log.IsQuiet) :
    s.Continues (linesOf ops) (s.run ops) := by
  induction ops generalizing s with
  | nil => exact .nothing rfl rfl rfl rfl quiet
  | cons op rest ih =>
    have first := s.perform_continues op quiet
    have lines : linesOf (op :: rest) = linesOf [op] ++ linesOf rest :=
      List.filterMap_append (l := [op])
    rw [lines]
    exact first.trans (ih (s.perform op) first.quiet)

/-- What the log of a new session says. -/
def opening (greeting : Bool) : List (EntryRole × String) :=
  if greeting then [(.output, welcome)] else []

theorem start_said (store : Store) (clock : Clock) (now : Nat) (greeting : Bool) :
    (start store clock now greeting).log.said = opening greeting := by
  cases greeting <;> rfl

/-- At every moment of a session, whoever watches its log: the history holds the lines submitted that
were not blank; the echoes in the log are those lines; the log is the welcome, if there is one, and then
each line's echo and the reply, which is the console's own to that line from the store as all earlier
lines left it, or no reply where answering ended in a fault. A blank text changes nothing. -/
theorem run_transcript (store : Store) (clock : Clock) (now : Nat) (greeting : Bool)
    (watchers : Registry EntryWatcher) (quiet : watchers.IsSound EntryWatcher.cancels)
    (ops : List Operation) :
    let s := ((start store clock now greeting).watchedBy watchers).run ops
    let lines := linesOf ops
    s.history.lines = lines ∧
    (s.log.said.filter (·.1 = .command)).map (·.2) = (lines.map fun line => s!"$ {line}") ∧
    s.log.said = opening greeting ++
      (Console.exchanges now store lines).flatMap Console.Exchange.entries ∧
    s.store = Console.storeAfter now store lines ∧
    ∀ text, isBlank text = true → s.submit text = { state := s, result := .ok () } := by
  intro s lines
  have continues : Continues _ lines s :=
    run_continues ((start store clock now greeting).watchedBy watchers) ops quiet
  have said := continues.said
  rw [show ((start store clock now greeting).watchedBy watchers).log.said = opening greeting from
    start_said store clock now greeting] at said
  refine ⟨continues.history, ?_, said, continues.store, fun text => submit_of_isBlank s text⟩
  -- the welcome is no echo
  have unechoed : (opening greeting).filter (·.1 = .command) = [] := by
    cases greeting <;> rfl
  rw [said, List.filter_append, unechoed, List.nil_append]
  exact Console.echoes_exchanges now store lines

/-- One who looks on, and stops looking on at the first entry. -/
def passerBy : Registry EntryWatcher where
  active := [.screen, .observer { id := "passer-by", cancels := some 1 }]
  issued := [.screen, .observer { id := "passer-by", cancels := some 1 }]

theorem passerBy_isSound : passerBy.IsSound EntryWatcher.cancels := by
  simp [Registry.IsSound, passerBy, EntryWatcher.cancels]

/-- The first line ends in a fault, a blank one follows, and the others go on. -/
theorem run_transcript_crowded :
    passerBy.IsSound EntryWatcher.cancels ∧
    ((((start crowded { time := noon } noon false).watchedBy passerBy).run
      [.submit "kubectl describe po job", .previous, .submit " \u3000", .submit "kubectl delete po old",
        .submit "kubectl delete po old", .next]).log.said =
      [(.command, "$ kubectl describe po job"), (.command, "$ kubectl delete po old"),
        (.output, "pod \"old\" deleted"), (.command, "$ kubectl delete po old"),
        (.error, "Error from server (NotFound): pods \"old\" not found")]) := by
  refine ⟨passerBy_isSound, ?_⟩
  obtain ⟨_, _, said, _⟩ := run_transcript crowded { time := noon } noon false passerBy
    passerBy_isSound
    [.submit "kubectl describe po job", .previous, .submit " \u3000", .submit "kubectl delete po old",
      .submit "kubectl delete po old", .next]
  rw [said]
  decide +kernel

end Session

end ClusterInspector
