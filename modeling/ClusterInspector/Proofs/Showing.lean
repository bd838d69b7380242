import ClusterInspector.Interaction
import ClusterInspector.Proofs.Rounds
import Mathlib.Data.List.Forall2

/-!
# What a submission shows

Prompts and diagnostics apart, what a submission shows are the entries that it adds to the log, each
as often as a screen is registered there: once at the console, and not at all where nobody has opened
it. Watchers that cancel what is theirs do not come between.
-/
namespace ClusterInspector

/-- Prompts and diagnostics are shown by other means. -/
def Output.isPrinted : Output → Bool
  | .markup _ | .text .. | .table _ => true
  | .ask _ | .diagnostic _ => false

def printed (outputs : List Output) : List Output := outputs.filter (·.isPrinted)

theorem printed_append (first second : List Output) :
    printed (first ++ second) = printed first ++ printed second :=
  List.filter_append first second

theorem printed_diagnostics (ds : List Diagnostic) : printed (ds.map .diagnostic) = [] := by
  rw [printed, List.filter_eq_nil_iff]
  intro o member
  obtain ⟨d, _, rfl⟩ := List.mem_map.mp member
  exact Bool.false_ne_true

namespace Interaction

theorem printed_entries (entries : List Entry) :
    printed (entries.map entryOutput) = entries.map entryOutput := by
  rw [printed, List.filter_eq_self]
  intro o member
  obtain ⟨e, _, rfl⟩ := List.mem_map.mp member
  rfl

end Interaction

/-- The output is the text of the entry, in red exactly if it is an error and in green exactly if it is
a line that was submitted. -/
def Entry.IsShownBy (e : Entry) (o : Output) : Prop :=
  ∃ style, o = .text e.content style ∧ (style = some "red" ↔ e.role = .error) ∧
    (style = some "bold green" ↔ e.role = .command) ∧ (style = none ↔ e.role = .output)

namespace Interaction

theorem isShownBy_entryOutput (e : Entry) : e.IsShownBy (entryOutput e) := by
  refine ⟨entryStyle e.role, rfl, ?_⟩
  cases e.role <;> decide

theorem shownBy_entries (entries : List Entry) :
    List.Forall₂ Entry.IsShownBy entries (entries.map entryOutput) := by
  rw [List.forall₂_map_right_iff, List.forall₂_same]
  exact fun e _ => isShownBy_entryOutput e

/-- What events print. -/
def shown (events : List Event) : List Output := printed (events.filterMap eventOutput?)

theorem shown_append (first second : List Event) :
    shown (first ++ second) = shown first ++ shown second := by
  rw [shown, List.filterMap_append, printed_append]
  rfl

/-- An entry is printed once for each screen that is told of it. -/
theorem shown_round (told : List EntryWatcher) (e : Entry) :
    shown (told.map (.entryAdded · e)) = List.replicate (told.count .screen) (entryOutput e) := by
  induction told with
  | nil => rfl
  | cons w rest ih =>
    rw [List.map_cons, ← List.singleton_append, shown_append, ih]
    cases w with
    | screen =>
      rw [List.count_cons_self, List.replicate_succ]
      rfl
    | observer o =>
      have other : EntryWatcher.observer o ≠ .screen := nofun
      rw [List.count_cons_of_ne other]
      rfl

theorem shown_eq_nil (events : List Event) (silent : ∀ w e, .entryAdded w e ∉ events) :
    shown events = [] := by
  induction events with
  | nil => rfl
  | cons event rest ih =>
    have later := ih fun w e member => silent w e (List.mem_cons_of_mem _ member)
    rw [← List.singleton_append, shown_append, later, List.append_nil]
    cases event with
    | diagnostic d => rfl
    | namespaceGone w name => rfl
    | entryAdded w e => exact absurd List.mem_cons_self (silent w e)

end Interaction

open Interaction

theorem Store.delete_silent (s : Store) (k : Kind) (name : String) (scope : Option String)
    (w : EntryWatcher) (e : Entry) : .entryAdded w e ∉ (s.delete k name scope).events := by
  rw [delete_eq]
  cases s.cluster.find? k name scope with
  | none => exact List.not_mem_nil
  | some target =>
    dsimp only
    split
    · simp
    · simp

/-- Answering a line adds no entry; that is left to the session. -/
theorem Console.answerLine_silent (now : Nat) (s : Store) (line : String) (w : EntryWatcher)
    (e : Entry) : .entryAdded w e ∉ (answerLine now s line).events := by
  have amounts := answerLine_amountsTo now s line
  generalize (Command.ofLine line).toOption.bind (deleted? s.cluster) = t at amounts
  cases amounts with
  | deletion r found state events =>
    rw [events]
    exact s.delete_silent _ r.name r.home? w e
  | notes ds state events =>
    rw [events]
    simp

theorem Log.append_shown (l : Log) (role : EntryRole) (content : String) (quiet : l.IsQuiet) :
    ∃ entry, (l.append role content).state.entries = l.entries ++ [entry] ∧
      shown (l.append role content).events =
        List.replicate (l.watchers.active.count .screen) (entryOutput entry) := by
  refine ⟨⟨role, content, l.clock.read.1.clockText⟩, rfl, ?_⟩
  rw [append]
  dsimp only
  rw [shown_round, Registry.told_announce _ l.watchers quiet]

namespace Session

theorem append_events (s : Session) (role : EntryRole) (content : String) :
    (s.append role content).events = (s.log.append role content).events := rfl

theorem respond_events (s : Session) (line : String) (quiet : s.log.IsQuiet) :
    (s.respond line).events =
      (s.log.append .command s!"$ {line}").events ++ (Console.answerLine s.now s.store line).events := by
  obtain ⟨echo, _, _, ok, _, _⟩ := s.log.append_spec .command s!"$ {line}" quiet
  have echoed : ({ s with history := s.history.record line }.append .command s!"$ {line}").result =
      .ok echo := ok
  unfold respond
  rw [Step.andThen_of_ok echoed]
  rfl

/-- What a submission prints, whether it is answered or ends in a fault. -/
theorem submit_shown (s : Session) (line : String) (quiet : s.log.IsQuiet)
    (spared : s.log.watchers.Spares EntryWatcher.cancels .screen) :
    ∃ added, (s.submit line).state.log.entries = s.log.entries ++ added ∧
      shown (s.submit line).events = added.flatMap fun e =>
        List.replicate (s.log.watchers.active.count .screen) (entryOutput e) := by
  cases blank : isBlank line with
  | true =>
    refine ⟨[], ?_, ?_⟩
    · rw [submit_of_isBlank s line blank, List.append_nil]
    · rw [submit_of_isBlank s line blank]
      rfl
  | false =>
    obtain ⟨_, _, _, result, _, stillQuiet⟩ := respond_spec s line quiet
    obtain ⟨echo, entries, echoed⟩ := s.log.append_shown .command s!"$ {line}" quiet
    have state := respond_state s line quiet
    have events : shown (s.respond line).events =
        List.replicate (s.log.watchers.active.count .screen) (entryOutput echo) := by
      rw [respond_events s line quiet, shown_append, echoed,
        shown_eq_nil _ (Console.answerLine_silent s.now s.store line), List.append_nil]
    unfold submit
    rw [blank, if_neg Bool.false_ne_true]
    cases answered : (Console.answerLine s.now s.store line).result with
    | error f =>
      rw [answered] at result
      rw [Step.andThen_of_error result]
      refine ⟨[echo], ?_, ?_⟩
      · rw [state]
        exact entries
      · rw [events, List.flatMap_singleton]
    | ok reply =>
      rw [answered] at result
      rw [Step.andThen_of_ok result]
      obtain ⟨answer, entries', answers⟩ := (s.respond line).state.log.append_shown
        (if reply.isError then .error else .output) reply.text stillQuiet
      have registered : (s.respond line).state.log.watchers.active.count .screen =
          s.log.watchers.active.count .screen := by
        rw [state]
        exact Registry.count_announce _ s.log.watchers .screen spared
      refine ⟨[echo, answer], ?_, ?_⟩
      · rw [append_log, entries', state]
        simp only [entries, List.append_assoc, List.singleton_append]
      · rw [shown_append, events, append_events, answers, registered]
        simp

end Session

end ClusterInspector
