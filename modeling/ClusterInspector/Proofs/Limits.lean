import ClusterInspector.Proofs.Deletion
import ClusterInspector.Proofs.ReadBack
import ClusterInspector.Session

/-!
# Where a line has no answer

Every line has an answer unless a limit of arithmetic is met: an age too long to be read or to lie
within the calendar, or a number too long to be written. The conditions here say when that is, record
by record, and nothing else stops a line. A line that meets a limit leaves its echo in the log alone.
-/
namespace ClusterInspector

theorem bind_succeeds_iff {ε α β : Type} (x : Except ε α) (next : α → Except ε β) :
    (∃ b, (x >>= next) = .ok b) ↔ ∃ a, x = .ok a ∧ ∃ b, next a = .ok b := by
  cases x with
  | error e => simp [bind, Except.bind]
  | ok a => simp [bind, Except.bind]

theorem succeeds_of_toBool {ε α : Type} (x : Except ε α) (ok : x.toBool = true) :
    ∃ a, x = .ok a := by
  cases x with
  | error e => cases ok
  | ok a => exact ⟨a, rfl⟩

namespace Age

/-- The age can be read, and what is of that age began within the calendar. -/
structure ReachesBack (now : Nat) (age : String) : Prop where
  readable : ∀ p ∈ parts age, p.digits.length ≤ Text.Numeral.digitLimit
  short : total (parts age) / TimeUnit.day.seconds ≤ maxDays
  inCalendar : total (parts age) ≤ now

end Age

namespace Report

theorem began_succeeds_iff (now : Nat) (age : String) :
    (∃ text, began now age = .ok text) ↔ Age.ReachesBack now age := by
  unfold began
  rw [bind_succeeds_iff]
  constructor
  · rintro ⟨seconds, read, text, written⟩
    obtain ⟨readable, short, total⟩ := (Age.read_eq_ok_iff age seconds).mp read
    refine ⟨readable, short, ?_⟩
    rw [total]
    by_contra early
    rw [if_neg early] at written
    cases written
  · rintro ⟨readable, short, inCalendar⟩
    refine ⟨Age.total (Age.parts age), (Age.read_eq_ok_iff age _).mpr ⟨readable, short, rfl⟩, ?_⟩
    rw [if_pos inCalendar]
    exact ⟨_, rfl⟩

theorem number_succeeds_iff (n : Int) :
    (∃ text, number n = .ok text) ↔ Text.Numeral.isWritable n = true := by
  unfold number Text.Numeral.write?
  cases Text.Numeral.isWritable n <;> simp

/-- No limit keeps the report of the record from being written: the age reaches back within the
calendar, and each number of the report can be written, differences too. -/
def IsDescribable (now : Nat) : {k : Kind} → k.Record → Prop
  | .namespaces, _ => True
  | .pods, (r : Pod) => Age.ReachesBack now r.age ∧ Text.Numeral.isWritable r.restarts = true
  | .deployments, (r : Deployment) =>
    Age.ReachesBack now r.age ∧
      ∀ n ∈ [r.upToDate, r.available, (readiness r.ready).2 - r.available],
        Text.Numeral.isWritable n = true
  | .daemonsets, (r : DaemonSet) =>
    ∀ n ∈ [r.desired, r.current, r.upToDate, r.ready, r.desired - r.current, r.current - r.ready],
      Text.Numeral.isWritable n = true

theorem describe_succeeds_iff (now : Nat) (k : Kind) (r : k.Record) :
    (∃ text, describe now r = .ok text) ↔ IsDescribable now r := by
  cases k with
  | namespaces => simp [describe, IsDescribable]
  | pods =>
    unfold describe ofPod
    simp only [bind_succeeds_iff, pure, Except.pure, Except.ok.injEq, exists_eq', and_true,
      exists_and_right, began_succeeds_iff, number_succeeds_iff]
    rfl
  | deployments =>
    unfold describe ofDeployment
    simp only [bind_succeeds_iff, pure, Except.pure, Except.ok.injEq, exists_eq', and_true,
      exists_and_right, began_succeeds_iff, number_succeeds_iff]
    simp [IsDescribable]
  | daemonsets =>
    unfold describe ofDaemonSet
    simp only [bind_succeeds_iff, pure, Except.pure, Except.ok.injEq, exists_eq', and_true,
      exists_and_right, number_succeeds_iff]
    simp [IsDescribable]

end Report

namespace Console

theorem list_succeeds_iff (c : Cluster) (k : Kind) (scope name : Option String) :
    (∃ text, list c k scope name = .ok text) ↔
      ∀ r ∈ c.select k scope name, Listing.isWritable r = true := by
  unfold list
  cases selected : c.select k scope name with
  | nil => simp
  | cons r rest =>
    dsimp only
    rw [← List.all_eq_true]
    cases (r :: rest).all Listing.isWritable <;> simp

/-- A listing with a number that cannot be written, or a report that cannot. -/
inductive MeetsLimit (now : Nat) (c : Cluster) (cmd : Command) : Prop
  | listing (k : Kind) (r : k.Record) (verb : cmd.verb = .get) (kind : cmd.kind = some k)
      (listed : r ∈ c.select k cmd.scope cmd.name) (unwritable : Listing.isWritable r = false)
  | report (k : Kind) (r : k.Record) (verb : cmd.verb = .describe)
      (found : target c cmd = .ok ⟨k, r⟩) (refused : ¬ Report.IsDescribable now r)

theorem mapError_fault_iff (x : Except Fault String) :
    (∃ f, x.mapError Failure.fault = .error (.fault f)) ↔ ¬ ∃ text, x = .ok text := by
  cases x <;> simp [Except.mapError]

/-- Faults come from limits alone: from a quiet store every command is answered or refused unless it
meets one. -/
theorem answerCommand_faults_iff (now : Nat) (s : Store) (cmd : Command) (quiet : s.IsQuiet) :
    (∃ f, (answerCommand now s cmd).result = .error (.fault f)) ↔ MeetsLimit now s.cluster cmd := by
  constructor
  · rintro ⟨f, faulted⟩
    cases verb : cmd.verb with
    | get =>
      cases kind : cmd.kind with
      | none => simp [answerCommand, verb, kind, refuse] at faulted
      | some k =>
        rw [answerCommand_lists now s cmd k verb kind] at faulted
        have unlisted := (mapError_fault_iff _).mp ⟨f, faulted⟩
        rw [list_succeeds_iff] at unlisted
        simp only [not_forall] at unlisted
        obtain ⟨r, listed, unwritable⟩ := unlisted
        exact .listing k r verb kind listed (by simpa using unwritable)
    | describe =>
      cases found : target s.cluster cmd with
      | error e =>
        rw [answerCommand_refuses now s cmd e (Or.inl verb) found] at faulted
        cases faulted
      | ok t =>
        rw [answerCommand_reports now s cmd t.1 t.2 verb found] at faulted
        have refused := (mapError_fault_iff _).mp ⟨f, faulted⟩
        rw [Report.describe_succeeds_iff] at refused
        exact .report t.1 t.2 verb found refused
    | delete =>
      cases found : target s.cluster cmd with
      | error e =>
        rw [answerCommand_refuses now s cmd e (Or.inr verb) found] at faulted
        cases faulted
      | ok t =>
        rw [answerCommand_confirms now s cmd t.1 t.2 verb found quiet] at faulted
        cases faulted
    | apply => simp [answerCommand, verb] at faulted
    | help => simp [answerCommand, verb] at faulted
  · intro limit
    cases limit with
    | listing k r verb kind listed unwritable =>
      rw [answerCommand_lists now s cmd k verb kind, mapError_fault_iff, list_succeeds_iff]
      intro writable
      rw [writable r listed] at unwritable
      cases unwritable
    | report k r verb found refused =>
      rw [answerCommand_reports now s cmd k r verb found, mapError_fault_iff,
        Report.describe_succeeds_iff]
      exact refused

/-- The line is a command that meets a limit. -/
def LineMeetsLimit (now : Nat) (c : Cluster) (line : String) : Prop :=
  ∃ cmd, Command.ofLine line = .ok cmd ∧ MeetsLimit now c cmd

theorem answerLine_succeeds_iff (now : Nat) (s : Store) (line : String) (quiet : s.IsQuiet) :
    (∃ reply, (answerLine now s line).result = .ok reply) ↔
      ¬ LineMeetsLimit now s.cluster line := by
  unfold answerLine LineMeetsLimit
  cases parsed : Command.ofLine line with
  | error e => simp
  | ok cmd =>
    have faults := answerCommand_faults_iff now s cmd quiet
    simp only [Except.ok.injEq, exists_eq_left', ← faults]
    cases (answerCommand now s cmd).result with
    | ok text => simp
    | error e => cases e <;> simp

end Console

/-- No watcher of the log raises a fault when it is told of an entry. -/
def Log.IsQuiet (l : Log) : Prop := l.watchers.IsSound EntryWatcher.cancels

theorem Log.append_spec (l : Log) (role : EntryRole) (content : String) (quiet : l.IsQuiet) :
    ∃ entry : Entry, entry.role = role ∧ entry.content = content ∧
      (l.append role content).result = .ok entry ∧
      (l.append role content).state.entries = l.entries ++ [entry] ∧
      (l.append role content).state.IsQuiet := by
  refine ⟨⟨role, content, l.clock.read.1.clockText⟩, rfl, rfl, ?_, rfl, ?_⟩
  · simp only [append, Registry.unknown_announce _ l.watchers quiet]
  · exact Registry.isSound_announce _ l.watchers quiet

namespace Session

theorem respond_spec (s : Session) (line : String) (quiet : s.log.IsQuiet) :
    ∃ echo : Entry, echo.role = .command ∧ echo.content = s!"$ {line}" ∧
      (s.respond line).result = (Console.answerLine s.now s.store line).result ∧
      (s.respond line).state.log.entries = s.log.entries ++ [echo] ∧
      (s.respond line).state.log.IsQuiet := by
  obtain ⟨echo, role, content, ok, entries, stillQuiet⟩ :=
    s.log.append_spec .command s!"$ {line}" quiet
  have echoed : ({ s with history := s.history.record line }.append .command s!"$ {line}").result =
      .ok echo := ok
  refine ⟨echo, role, content, ?_⟩
  unfold respond
  rw [Step.andThen_of_ok echoed]
  simp only [answer_result, answer_log, append_now, append_store, append_log]
  exact ⟨trivial, entries, stillQuiet⟩

/-- A line that is not blank and whose answering ends with a reply adds its echo and the reply. -/
theorem submit_of_reply (s : Session) (line : String) (reply : Console.Reply)
    (written : isBlank line = false) (quiet : s.log.IsQuiet)
    (replied : (Console.answerLine s.now s.store line).result = .ok reply) :
    ∃ echo answer : Entry, echo.role = .command ∧ echo.content = s!"$ {line}" ∧
      answer.role = (if reply.isError then .error else .output) ∧ answer.content = reply.text ∧
      (s.submit line).result = .ok () ∧
      (s.submit line).state.log.entries = s.log.entries ++ [echo, answer] := by
  obtain ⟨echo, role, content, result, entries, stillQuiet⟩ := respond_spec s line quiet
  rw [replied] at result
  obtain ⟨answer, role', content', ok, entries', _⟩ :=
    (s.respond line).state.log.append_spec (if reply.isError then .error else .output) reply.text
      stillQuiet
  refine ⟨echo, answer, role, content, role', content', ?_⟩
  unfold submit
  rw [written, if_neg Bool.false_ne_true, Step.andThen_of_ok result]
  simp only [append_result, append_log, ok, entries', entries, List.append_assoc]
  exact ⟨rfl, rfl⟩

/-- A line that is not blank and meets a fault adds its echo alone. -/
theorem submit_of_fault (s : Session) (line : String) (f : Fault)
    (written : isBlank line = false) (quiet : s.log.IsQuiet)
    (faulted : (Console.answerLine s.now s.store line).result = .error f) :
    ∃ echo : Entry, echo.role = .command ∧ echo.content = s!"$ {line}" ∧
      (s.submit line).result = .error f ∧
      (s.submit line).state.log.entries = s.log.entries ++ [echo] := by
  obtain ⟨echo, role, content, result, entries, _⟩ := respond_spec s line quiet
  rw [faulted] at result
  refine ⟨echo, role, content, ?_⟩
  unfold submit
  rw [written, if_neg Bool.false_ne_true, Step.andThen_of_error result]
  exact ⟨rfl, entries⟩

/-- A line is answered exactly where it meets no limit. Then, unless it is blank, the log has gained
its echo and one answer; where a limit is met the fault goes on and the echo stays alone. -/
theorem submit_answers_iff (s : Session) (line : String) (quiet : s.store.IsQuiet)
    (quietLog : s.log.IsQuiet) :
    let limit := Console.LineMeetsLimit s.now s.store.cluster line
    let after := s.submit line
    ((∃ reply, (Console.answerLine s.now s.store line).result = .ok reply) ↔ ¬ limit) ∧
    (isBlank line = false → ¬ limit → after.result = .ok () ∧
      ∃ echo answer : Entry, after.state.log.entries = s.log.entries ++ [echo, answer] ∧
        echo.role = .command ∧ echo.content = s!"$ {line}" ∧ answer.role ≠ .command) ∧
    (isBlank line = false → limit → (∃ f, after.result = .error f) ∧
      ∃ echo : Entry, after.state.log.entries = s.log.entries ++ [echo] ∧
        echo.role = .command ∧ echo.content = s!"$ {line}") := by
  intro limit after
  have succeeds := Console.answerLine_succeeds_iff s.now s.store line quiet
  refine ⟨succeeds, ?_, ?_⟩
  · intro written free
    obtain ⟨reply, replied⟩ := succeeds.mpr free
    obtain ⟨echo, answer, role, content, role', _, ok, entries⟩ :=
      submit_of_reply s line reply written quietLog replied
    refine ⟨ok, echo, answer, entries, role, content, ?_⟩
    rw [role']
    cases reply.isError <;> decide
  · intro written met
    cases answered : (Console.answerLine s.now s.store line).result with
    | ok reply => exact absurd met (succeeds.mp ⟨reply, answered⟩)
    | error f =>
      obtain ⟨echo, role, content, faulted, entries⟩ :=
        submit_of_fault s line f written quietLog answered
      exact ⟨⟨f, faulted⟩, echo, entries, role, content⟩

def crowdedSession : Session := start crowded { time := noon } noon

/-- The pod `job` is a million days old, older than the calendar; `old` has begun in it. -/
theorem submit_answers_iff_crowded :
    (crowdedSession.store.IsQuiet ∧ crowdedSession.log.IsQuiet) ∧
    (crowdedSession.submit "kubectl describe po old").result = .ok () ∧
    ∃ f, (crowdedSession.submit "kubectl describe po job").result = .error f := by
  have quietLog : crowdedSession.log.IsQuiet := by
    intro watcher registered
    cases registered
  have quiet : crowdedSession.store.IsQuiet := crowded_isQuiet
  refine ⟨⟨quiet, quietLog⟩, ?_, ?_⟩
  · obtain ⟨answered, free, _⟩ :=
      submit_answers_iff crowdedSession "kubectl describe po old" quiet quietLog
    have ok : (Console.answerLine crowdedSession.now crowdedSession.store
        "kubectl describe po old").result.toBool = true := by
      decide +kernel
    have answer := free rfl (answered.mp (succeeds_of_toBool _ ok))
    exact answer.1
  · obtain ⟨_, _, met⟩ :=
      submit_answers_iff crowdedSession "kubectl describe po job" quiet quietLog
    refine (met rfl ⟨_, rfl, .report .pods (crowdedPod "job" "green" "1000000d") rfl rfl ?_⟩).1
    rintro ⟨⟨_, _, inCalendar⟩, _⟩
    have remote : ¬ Age.total (Age.parts "1000000d") ≤ crowdedSession.now := by
      decide +kernel
    exact remote inCalendar

/-- Not every line is answered: the fault of an age that reaches back beyond the calendar goes through
the console, and the log keeps an echo that nothing answers. -/
theorem describe_escapes_remote_age :
    (Console.answerLine noon crowded "kubectl describe po job").result = .error .dateOutOfRange ∧
    (crowdedSession.submit "kubectl describe po job").result = .error .dateOutOfRange ∧
    (crowdedSession.submit "kubectl describe po job").state.log.entries.map (·.content) =
      [welcome, "$ kubectl describe po job"] := by
  refine ⟨rfl, rfl, rfl⟩

end Session

end ClusterInspector
