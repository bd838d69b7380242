import ClusterInspector.Proofs.Sample
import ClusterInspector.Proofs.Showing
import ClusterInspector.Proofs.Styling
import Mathlib.Data.List.Nodup

/-!
# One line from the command line

A run that is given words submits them as one line to a new session, and shows of that session the
answer and nothing else: the exit code tells whether the answer is an error, or that the line met a
fault. Where nothing can style the output, the same text goes to the standard channel as it is.
-/
namespace ClusterInspector

namespace Options

/-- Where a mark tells the spellings apart, at most one of them is meant by what fixes the mark. -/
theorem countP_spelled_le_one (mark : String × Flag → Option Char)
    (distinct : (spelled.filterMap mark).Nodup) (c : Char) (means : String × Flag → Bool)
    (marked : ∀ o, means o = true → mark o = some c) : spelled.countP means ≤ 1 :=
  calc spelled.countP means
    _ ≤ spelled.countP fun o => mark o == some c := by
      refine List.countP_mono_left fun o _ meant => ?_
      rw [marked o meant, beq_self_eq_true]
    _ = (spelled.filterMap mark).count c := List.count_filterMap.symm
    _ ≤ 1 := List.nodup_iff_count_le_one.mp distinct c

/-- Long options differ in the character after the dashes. -/
theorem length_candidates_long (c : Char) (cs : List Char) (goesOn : c ≠ '=') :
    (candidates ('-' :: '-' :: c :: cs)).length ≤ 1 := by
  have stem : (splitEquals ('-' :: '-' :: c :: cs)).1 =
      '-' :: '-' :: c :: cs.takeWhile (· ≠ '=') := by
    simp [splitEquals, goesOn]
  simp only [candidates, List.length_map, stem, ← List.countP_eq_length_filter]
  refine countP_spelled_le_one (·.1.toList[2]?) (by decide +kernel) c _ fun o meant => ?_
  obtain ⟨rest, spelling⟩ := List.isPrefixOf_iff_prefix.mp meant
  rw [← spelling]
  rfl

/-- Short options differ in their letter. -/
theorem length_candidates_short (c : Char) (cs : List Char) (single : c ≠ '-') :
    (candidates ('-' :: c :: cs)).length ≤ 1 := by
  unfold candidates
  split
  · simp_all
  rw [List.length_filterMap_eq_countP]
  refine countP_spelled_le_one (fun o => o.1.toList[1]?.filter (· ≠ '-')) (by decide +kernel) c _
    fun o meant => ?_
  have second : o.1.toList[1]? = some c := by
    split at meant
    · rename_i short
      rw [short]
      rfl
    · split at meant
      · rename_i begins
        obtain ⟨rest, spelling⟩ := List.isPrefixOf_iff_prefix.mp begins
        rw [← spelling]
        rfl
      · cases meant
  simp [second, single]

/-- An equals sign comes where it is still open which long option is meant. -/
def isOpen (text : String) : Bool := ['-', '-', '='].isPrefixOf text.toList

/-- No other argument is refused where it stands. -/
theorem classify_accepts (text : String) (other : text ≠ separator) (clear : isOpen text = false) :
    ∃ a, classify text = .ok a := by
  by_cases dash : text.toList.head? = some '-'
  · obtain ⟨cs, chars⟩ : ∃ cs, text.toList = '-' :: cs := List.head?_eq_some_iff.mp dash
    unfold classify
    simp only [chars, List.head?_cons, ne_eq, not_true_eq_false, if_false, List.tail_cons]
    cases spelled.lookup text with
    | some flag => exact ⟨_, rfl⟩
    | none =>
      cases cs with
      | nil => exact ⟨_, rfl⟩
      | cons c cs =>
        have few : (candidates ('-' :: c :: cs)).length ≤ 1 := by
          by_cases single : c = '-'
          · subst single
            match cs with
            | [] =>
              have same : text.toList = separator.toList := chars
              exact absurd (String.toList_inj.mp same) other
            | c :: cs =>
              refine length_candidates_long c cs ?_
              rintro rfl
              rw [isOpen, chars] at clear
              cases clear
          · exact length_candidates_short c cs single
        dsimp only
        split
        · exact ⟨_, rfl⟩
        · rcases found : candidates ('-' :: c :: cs) with _ | ⟨meant, _ | ⟨another, rest⟩⟩
          · dsimp only
            split <;> exact ⟨_, rfl⟩
          · exact ⟨_, rfl⟩
          · rw [found] at few
            simp at few
  · refine ⟨.plain text, ?_⟩
    unfold classify
    exact if_pos dash

theorem classifyAll_accepts (texts : List String) (clear : ∀ t ∈ texts, isOpen t = false) :
    ∃ classified, classifyAll texts = .ok classified ∧ classified.map (·.1) = texts := by
  induction texts with
  | nil => exact ⟨[], rfl, rfl⟩
  | cons text rest ih =>
    obtain ⟨classified, accepted, same⟩ := ih fun t member => clear t (List.mem_cons_of_mem _ member)
    rw [classifyAll]
    by_cases separates : text = separator
    · rw [if_pos separates]
      refine ⟨_, rfl, ?_⟩
      rw [List.map_cons, List.map_map]
      exact congrArg (text :: ·) (List.map_id rest)
    · obtain ⟨a, class_⟩ := classify_accepts text separates (clear text List.mem_cons_self)
      rw [if_neg separates, class_, accepted]
      refine ⟨_, rfl, ?_⟩
      rw [List.map_cons, same]

/-- Arguments that begin with no dash are words from the first on, whatever follows. -/
theorem parse_words (first : String) (rest : List String) (word : first.toList.head? ≠ some '-')
    (clear : ∀ t ∈ rest, isOpen t = false) :
    parse (first :: rest) = .run { words := first :: rest } := by
  obtain ⟨classified, accepted, same⟩ := classifyAll_accepts rest clear
  have other : first ≠ separator := by
    rintro rfl
    exact word rfl
  have plain : classify first = .ok (.plain first) := by
    unfold classify
    exact if_pos word
  have all : classifyAll (first :: rest) = .ok ((first, .plain first) :: classified) := by
    rw [classifyAll, if_neg other, plain, accepted]
    rfl
  rw [parse, all]
  simp only [take, take.finish, same, List.isEmpty_nil, if_true]

end Options

theorem Log.isQuiet_of_unwatched (l : Log) (unwatched : l.watchers.active = []) : l.IsQuiet := by
  intro w registered
  rw [unwatched] at registered
  cases registered

namespace Session

theorem start_unwatched (store : Store) (clock : Clock) (now : Nat) (greeting : Bool) :
    (start store clock now greeting).log.watchers.active = [] := by
  cases greeting <;> rfl

/-- A submission fails exactly where the answering does. -/
theorem submit_result (s : Session) (line : String) (written : isBlank line = false)
    (quiet : s.log.IsQuiet) :
    (s.submit line).result = (Console.answerLine s.now s.store line).result.map fun _ => () := by
  cases answered : (Console.answerLine s.now s.store line).result with
  | ok reply =>
    obtain ⟨_, _, _, _, _, _, ok, _⟩ := s.submit_of_reply line reply written quiet answered
    exact ok
  | error f =>
    obtain ⟨_, _, _, faulted, _⟩ := s.submit_of_fault line f written quiet answered
    exact faulted

/-- Sessions in which a line has the same answer log the same, but for the times. -/
theorem submit_alike (s s' : Session) (line : String) (quiet : s.log.IsQuiet) (quiet' : s'.log.IsQuiet)
    (same : Console.answerLine s'.now s'.store line = Console.answerLine s.now s.store line) :
    (s'.submit line).result = (s.submit line).result ∧
    (isBlank line = false → (s.submit line).result = .ok () →
      ∃ echo answer echo' answer' : Entry,
        (s.submit line).state.log.entries = s.log.entries ++ [echo, answer] ∧
        (s'.submit line).state.log.entries = s'.log.entries ++ [echo', answer'] ∧
        echo.role = .command ∧ echo'.role = .command ∧ answer.role ≠ .command ∧
        answer'.role = answer.role ∧ answer'.content = answer.content) := by
  cases blank : isBlank line with
  | true =>
    rw [s.submit_of_isBlank line blank, s'.submit_of_isBlank line blank]
    exact ⟨rfl, nofun⟩
  | false =>
    have result := s.submit_result line blank quiet
    refine ⟨by rw [s'.submit_result line blank quiet', same, result], ?_⟩
    intro _ ok
    cases answered : (Console.answerLine s.now s.store line).result with
    | error f =>
      rw [answered, ok] at result
      cases result
    | ok reply =>
      obtain ⟨echo, answer, echoes, _, role, content, _, entries⟩ :=
        s.submit_of_reply line reply blank quiet answered
      obtain ⟨echo', answer', echoes', _, role', content', _, entries'⟩ :=
        s'.submit_of_reply line reply blank quiet' (same ▸ answered)
      have answers : answer.role ≠ .command := by
        rw [role]
        cases reply.isError <;> decide
      exact ⟨echo, answer, echo', answer', entries, entries', echoes, echoes', answers,
        role'.trans role.symm, content'.trans content.symm⟩

end Session

/-- The entries are what the run shows: in their styles, or else as plain text. -/
def Transcript.Shows (t : Transcript) (styling : Bool) (entries : List Entry) : Prop :=
  if styling then
    List.Forall₂ Entry.IsShownBy entries (printed t.outputs) ∧ t.stdout = ""
  else
    printed t.outputs = [] ∧ t.stdout = String.join (entries.map fun e => e.content ++ "\n")

theorem printed_filter (keeps : Output → Bool) (outputs : List Output)
    (all : ∀ o, o.isPrinted = true → keeps o = true) :
    printed (outputs.filter keeps) = printed outputs := by
  rw [printed, printed, List.filter_filter]
  refine List.filter_congr fun o _ => ?_
  cases isPrinted : o.isPrinted with
  | true => rw [all o isPrinted, Bool.and_self]
  | false => exact Bool.false_and _

theorem printed_prompts (outputs : List Output) : printed (outputs.filter (·.isPrompt)) = [] := by
  rw [printed, List.filter_filter, List.filter_eq_nil_iff]
  intro o _
  cases o <;> exact Bool.false_ne_true

/-- Prompts and diagnostics take no place on the standard channel. -/
theorem join_plain (outputs : List Output) :
    String.join (outputs.map (·.plain)) = String.join ((printed outputs).map (·.plain)) := by
  induction outputs with
  | nil => rfl
  | cons o rest ih =>
    rw [List.map_cons, String.join_cons, ih, ← List.singleton_append, printed_append, List.map_append,
      String.join_append]
    cases o <;> simp [printed, Output.isPrinted, Output.plain]

namespace Program

theorem isLogged_of_isPrinted (threshold : Nat) (o : Output) (isPrinted : o.isPrinted = true) :
    isLogged threshold o = true := by
  cases o with
  | diagnostic d => cases isPrinted
  | _ => rfl

theorem present_shows (f : Facilities) (threshold : Nat) (p : Performance) (entries : List Entry)
    (shows : printed p.outputs = entries.map Interaction.entryOutput) :
    (present f threshold p).Shows f.styling entries := by
  have kept : printed (p.outputs.filter (isLogged threshold)) = entries.map Interaction.entryOutput := by
    rw [printed_filter _ _ (isLogged_of_isPrinted threshold), shows]
  unfold Transcript.Shows present
  cases f.styling with
  | true =>
    refine ⟨?_, rfl⟩
    rw [if_pos rfl, kept]
    exact Interaction.shownBy_entries entries
  | false =>
    refine ⟨printed_prompts _, ?_⟩
    dsimp only
    rw [join_plain, kept, List.map_map]
    rfl

@[simp] theorem present_code (f : Facilities) (threshold : Nat) (p : Performance) :
    (present f threshold p).code = p.code.number := by
  unfold present
  split <;> rfl

/-- The run comes to work on the cluster: its arguments, the level and the seed are accepted. -/
structure Reaches (setup : Setup) (o : Options) (threshold : Nat) (c : Cluster) : Prop where
  parsed : Options.parse setup.arguments = .run o
  level : LogLevel.choose (o.logLevel.bind (·.text?)) setup.levelVariable = .ok threshold
  provided : ∃ seed, chooseSeed o.seed setup.seedVariable = .ok seed ∧
    (load seed setup.origin).2 = .ok c

/-- What the run of one line shows and ends with, after what is noted while the cluster is made. -/
def performLine (f : Facilities) (noted : List Diagnostic) (seeds : List (Option Int)) (p : Part) :
    Performance :=
  match p.result with
  | .ok code => { outputs := noted.map .diagnostic ++ p.outputs, code, seeds }
  | .error e => conclude f (noted.map .diagnostic ++ p.outputs) seeds (.failed e)

theorem run_words (setup : Setup) (o : Options) (threshold : Nat) (c : Cluster)
    (reaches : Reaches setup o threshold c) (words : o.words ≠ []) (notDoctor : o.words ≠ ["doctor"]) :
    ∃ noted seeds, run setup = present setup.facilities threshold
      (performLine setup.facilities noted seeds
        (runLine
          (Session.start { cluster := c } { time := setup.now.toSeconds } setup.now.toSeconds)
          (" ".intercalate o.words))) := by
  obtain ⟨parsed, level, seed, chosen, loaded⟩ := reaches
  refine ⟨(load seed setup.origin).1, [seed], ?_⟩
  have given : o.words.isEmpty = false := by simpa using words
  simp only [run, start, parsed, level, stage, chosen, if_neg notDoctor, stageOn, loaded, given,
    Bool.false_eq_true, if_false]
  generalize runLine _ _ = part
  obtain ⟨outputs, result⟩ := part
  cases result with
  | ok code => rfl
  | error f => rfl

theorem performLine_of_ok (f : Facilities) (noted : List Diagnostic) (seeds : List (Option Int))
    (p : Part) (code : ExitCode) (ok : p.result = .ok code) :
    printed (performLine f noted seeds p).outputs = printed p.outputs ∧
    (performLine f noted seeds p).code = code := by
  unfold performLine
  rw [ok]
  refine ⟨?_, rfl⟩
  rw [printed_append, printed_diagnostics, List.nil_append]

/-- The report of a fault is not refused. -/
theorem performLine_of_fault (f : Facilities) (sound : f.styler.IsSound) (noted : List Diagnostic)
    (seeds : List (Option Int)) (p : Part) (fault : Fault) (faulted : p.result = .error (.fault fault)) :
    (performLine f noted seeds p).code = .unexpectedError := by
  have taken := paint_closing f sound (.failed (.fault fault)) nofun
  unfold performLine
  rw [faulted]
  dsimp only [conclude]
  rw [taken]
  rfl

section Line

variable (s : Session) (line : String)

theorem runLine_of_blank (blank : Session.isBlank line = true) :
    (runLine s line).outputs = [] ∧ (runLine s line).result = .ok .success := by
  simp [runLine, Session.submit_of_isBlank s line blank]

theorem printed_noted (unwatched : s.log.watchers.active = []) :
    printed ((s.submit line).events.filterMap Interaction.eventOutput?) = [] := by
  have quiet := s.log.isQuiet_of_unwatched unwatched
  have spared : s.log.watchers.Spares EntryWatcher.cancels .screen := by
    intro w registered
    rw [unwatched] at registered
    cases registered
  obtain ⟨added, _, shown⟩ := s.submit_shown line quiet spared
  rw [unwatched] at shown
  exact shown.trans (by simp)

/-- Of what a line that is answered adds to the log, the answer is shown. -/
theorem runLine_of_answer (echo answer : Entry) (unwatched : s.log.watchers.active = [])
    (ok : (s.submit line).result = .ok ())
    (entries : (s.submit line).state.log.entries = s.log.entries ++ [echo, answer])
    (echoes : echo.role = .command) (answers : answer.role ≠ .command) :
    printed (runLine s line).outputs = [Interaction.entryOutput answer] ∧
    (runLine s line).result =
      .ok (if answer.role = .error then .generalError else .success) := by
  have added : ((s.submit line).state.log.entries.drop s.log.entries.length).filter
      (·.role ≠ .command) = [answer] := by
    rw [entries, List.drop_left]
    simp [echoes, answers]
  refine ⟨?_, ?_⟩
  · simp only [runLine, ok, added, printed_append, printed_noted s line unwatched, List.nil_append]
    rfl
  · simp only [runLine, ok, added, List.any_cons, List.any_nil, Bool.or_false, decide_eq_true_eq]

theorem runLine_of_fault (f : Fault) (faulted : (s.submit line).result = .error f) :
    (runLine s line).result = .error (.fault f) := by
  simp only [runLine, faulted]

end Line

/-- A run that is given words shows what submitting them as one line to a new session on the cluster
logs as its answer, and nothing else of that session: no welcome, no echo. An answer is in red, and the
exit code is 1, exactly if it is an error; a blank line shows nothing; a fault ends the run with 2, and
its report is none that could be refused. -/
theorem one_shot_agrees (setup : Setup) (o : Options) (threshold : Nat) (c : Cluster)
    (reaches : Reaches setup o threshold c) (words : o.words ≠ []) (notDoctor : o.words ≠ ["doctor"])
    (clock : Clock) (greeting : Bool) :
    let line := " ".intercalate o.words
    let s := Session.start { cluster := c } clock setup.now.toSeconds greeting
    let t := run setup
    let styling := setup.facilities.styling
    (Session.isBlank line = true → t.Shows styling [] ∧ t.code = 0) ∧
    (Session.isBlank line = false → (s.submit line).result = .ok () →
      ∃ echo answer : Entry, (s.submit line).state.log.entries = s.log.entries ++ [echo, answer] ∧
        echo.role = .command ∧ answer.role ≠ .command ∧
        t.Shows styling [answer] ∧ t.code = if answer.role = .error then 1 else 0) ∧
    (setup.facilities.styler.IsSound → ∀ f, (s.submit line).result = .error f → t.code = 2) := by
  intro line s t styling
  obtain ⟨noted, seeds, performed⟩ := run_words setup o threshold c reaches words notDoctor
  generalize own : Session.start { cluster := c } { time := setup.now.toSeconds } setup.now.toSeconds =
    s₀ at performed
  have unwatched : s₀.log.watchers.active = [] := by rw [← own, Session.start_unwatched]
  have quiet₀ := s₀.log.isQuiet_of_unwatched unwatched
  have quiet : s.log.IsQuiet := s.log.isQuiet_of_unwatched (Session.start_unwatched _ _ _ _)
  obtain ⟨result, answered⟩ := s.submit_alike s₀ line quiet quiet₀ (by rw [← own]; rfl)
  have code : t.code = (performLine setup.facilities noted seeds (runLine s₀ line)).code.number := by
    rw [← present_code, ← performed]
  have shows : ∀ entries, printed (performLine setup.facilities noted seeds (runLine s₀ line)).outputs =
      entries.map Interaction.entryOutput → t.Shows styling entries := by
    intro entries same
    have presented := present_shows setup.facilities threshold _ entries same
    rwa [← performed] at presented
  refine ⟨?_, ?_, ?_⟩
  · intro blank
    obtain ⟨nothing, ok⟩ := runLine_of_blank s₀ line blank
    obtain ⟨outputs, ended⟩ := performLine_of_ok setup.facilities noted seeds _ _ ok
    refine ⟨shows [] ?_, ?_⟩
    · rw [outputs, nothing]
      rfl
    · rw [code, ended]
      rfl
  · intro written ok
    obtain ⟨echo, answer, echo₀, answer₀, entries, entries₀, echoes, echoes₀, answers, role, content⟩ :=
      answered written ok
    obtain ⟨outputs, ended⟩ := runLine_of_answer s₀ line echo₀ answer₀ unwatched (result.trans ok)
      entries₀ echoes₀ (role ▸ answers)
    obtain ⟨outputs', ended'⟩ := performLine_of_ok setup.facilities noted seeds _ _ ended
    refine ⟨echo, answer, entries, echoes, answers, shows [answer] ?_, ?_⟩
    · rw [outputs', outputs, Interaction.entryOutput, role, content]
      rfl
    · rw [code, ended', role]
      split <;> rfl
  · intro sound f faulted
    have failed := runLine_of_fault s₀ line f (result.trans faulted)
    rw [code, performLine_of_fault setup.facilities sound noted seeds _ f failed]
    rfl

/-- The crowded cluster, looked at from the command line at noon. -/
def crowdedSetup (arguments : List String) (facilities : Facilities) (answers : List Answer) : Setup where
  arguments
  facilities
  host := { interpreter := "3.12.1", major := 3, minor := 12, packages := [], system := "Linux",
            release := "6.1", machine := "x86_64" }
  now := ⟨⟨2024, 1, 10⟩, 12, 0, 0⟩
  origin := .given crowded.cluster
  answers

theorem crowdedSetup_reaches (arguments : List String) (o : Options) (f : Facilities)
    (answers : List Answer) (parsed : Options.parse arguments = .run o) (level : o.logLevel = none)
    (seed : o.seed = none) : Reaches (crowdedSetup arguments f answers) o 30 crowded.cluster where
  parsed := parsed
  level := by
    rw [level]
    change LogLevel.choose none none = .ok 30
    decide +kernel
  provided := by
    rw [seed]
    exact ⟨none, rfl, rfl⟩

/-- A line that is refused is shown in red, or without style where nothing can style it; another line
ends in a fault. -/
theorem one_shot_agrees_crowded :
    let missed := crowdedSetup ["kubectl", "delete  po", "lost", "-n", "blue"]
    let remote := crowdedSetup ["kubectl describe", "po", "job"]
    let styled : Facilities := { styler := .strict }
    let refusal := "Error from server (NotFound): pods \"lost\" not found"
    (printed (run (missed styled [])).outputs = [.text refusal "red"] ∧
      (run (missed styled [])).code = 1) ∧
    ((run (missed { styling := false } [])).stdout = refusal ++ "\n" ∧
      (run (missed { styling := false } [])).code = 1) ∧
    (run (remote styled [])).code = 2 := by
  intro missed remote styled refusal
  have shown : ∀ f : Facilities, ∃ answer : Entry, answer.role = .error ∧ answer.content = refusal ∧
      (run (missed f [])).Shows f.styling [answer] ∧ (run (missed f [])).code = 1 := by
    intro f
    have parsed := Options.parse_words "kubectl" ["delete  po", "lost", "-n", "blue"] (by decide)
      (by decide +kernel)
    have reaches := crowdedSetup_reaches _ _ f [] parsed rfl rfl
    obtain ⟨_, answered, _⟩ := one_shot_agrees (missed f []) _ _ _ reaches (by simp) (by simp)
      { time := 0 } false
    dsimp only [missed, crowdedSetup] at answered
    let session := Session.start { cluster := crowded.cluster } { time := 0 }
      (⟨⟨2024, 1, 10⟩, 12, 0, 0⟩ : Calendar.DateTime).toSeconds false
    let line := " ".intercalate ["kubectl", "delete  po", "lost", "-n", "blue"]
    have ok : (session.submit line).result = .ok () := by decide +kernel
    have logged : (session.submit line).state.log.said =
        [(.command, "$ kubectl delete  po lost -n blue"), (.error, refusal)] := by
      decide +kernel
    have empty : session.log.entries = [] := rfl
    obtain ⟨echo, answer, entries, _, _, shows, code⟩ := answered (by decide +kernel) ok
    rw [show Session.start _ _ _ _ = session from rfl, show " ".intercalate _ = line from rfl, empty,
      List.nil_append] at entries
    simp only [Log.said, entries, List.map_cons, List.map_nil, List.cons.injEq, Prod.mk.injEq,
      and_true] at logged
    obtain ⟨_, role, content⟩ := logged
    rw [if_pos role] at code
    exact ⟨answer, role, content, shows, code⟩
  refine ⟨?_, ?_, ?_⟩
  · obtain ⟨answer, role, content, ⟨shows, _⟩, code⟩ := shown styled
    obtain ⟨_, _, ⟨style, rfl, red, _⟩, alone, outputs⟩ := List.forall₂_cons_left_iff.mp shows
    rw [List.forall₂_nil_left_iff.mp alone, content, red.mpr role] at outputs
    exact ⟨outputs, code⟩
  · obtain ⟨answer, _, content, ⟨_, text⟩, code⟩ := shown { styling := false }
    refine ⟨?_, code⟩
    rw [text, List.map_singleton, content]
    rfl
  · have parsed := Options.parse_words "kubectl describe" ["po", "job"] (by decide) (by decide +kernel)
    have reaches := crowdedSetup_reaches _ _ styled [] parsed rfl rfl
    obtain ⟨_, _, faulted⟩ := one_shot_agrees (remote styled []) _ _ _ reaches (by simp) (by simp)
      { time := 0 } false
    exact faulted Styler.strict_isSound .dateOutOfRange (by decide +kernel)

end Program

end ClusterInspector
