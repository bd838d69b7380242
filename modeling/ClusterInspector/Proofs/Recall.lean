import ClusterInspector.History
import Mathlib.Data.Nat.Basic
import Mathlib.Order.RelClasses

/-!
# Line histories as pointers

A history is a pointer that moves over the lines and the place behind the last of them. A pointer carries
the bound of its place, so that it never reads a line that is not there; the place behind the last line
stands for not browsing. Main statements: each call on a history is that call on its pointer, what as many
steps back and forward lead to, and so the answers to any sequence of calls.
-/
namespace ClusterInspector

/-- A place among lines, or behind the last one. -/
structure Pointer where
  lines : List String := []
  place : Nat := 0
  within : place ≤ lines.length := by simp

namespace History

/-- A call on a line history. -/
inductive Call where
  | record (line : String)
  | previous
  | next
  deriving DecidableEq, Repr

variable {α β : Type}

/-- What calls lead to, and the answer to each of them. -/
def Call.run (perform : α → Call → α × Option String) (a : α) : List Call → α × List (Option String)
  | [] => (a, [])
  | call :: rest =>
    let after := perform a call
    let later := run perform after.1 rest
    (later.1, after.2 :: later.2)

/-- Where one side is the image of the other and every call is answered alike, so is a run of calls. -/
theorem Call.run_image {perform : α → Call → α × Option String}
    {perform' : β → Call → β × Option String} (image : α → β)
    (step : ∀ a call, perform' (image a) call = (image (perform a call).1, (perform a call).2))
    (a : α) (calls : List Call) :
    run perform' (image a) calls = (image (run perform a calls).1, (run perform a calls).2) := by
  induction calls generalizing a with
  | nil => rfl
  | cons call rest ih => simp only [run, step, ih]

/-- A call and its answer; recording answers nothing. -/
def perform (h : History) : Call → History × Option String
  | .record line => (h.record line, none)
  | .previous => h.previous
  | .next => h.next

def run (h : History) (calls : List Call) : History × List (Option String) := Call.run perform h calls

end History

namespace Pointer

def record (p : Pointer) (line : String) : Pointer where
  lines := p.lines ++ [line]
  place := (p.lines ++ [line]).length
  within := Nat.le_refl _

/-- One place back, the first being the last to go back to, and the line there. -/
def previous (p : Pointer) : Pointer × Option String :=
  if someLine : 0 < p.lines.length then
    have inside : p.place - 1 < p.lines.length := by
      have bound := p.within
      omega
    ({ lines := p.lines, place := p.place - 1, within := Nat.le_of_lt inside },
      some p.lines[p.place - 1])
  else (p, none)

/-- One place forward and the line there, which is empty behind the last one. -/
def next (p : Pointer) : Pointer × Option String :=
  if browsing : p.place < p.lines.length then
    ({ lines := p.lines, place := p.place + 1, within := browsing },
      some (if inside : p.place + 1 < p.lines.length then p.lines[p.place + 1] else ""))
  else (p, none)

def perform (p : Pointer) : History.Call → Pointer × Option String
  | .record line => (p.record line, none)
  | .previous => p.previous
  | .next => p.next

def run (p : Pointer) (calls : List History.Call) : Pointer × List (Option String) :=
  History.Call.run perform p calls

/-- The history that stands at a pointer. -/
def history (p : Pointer) : History where
  lines := p.lines
  cursor := if p.place < p.lines.length then some p.place else none

@[simp] theorem lines_history (p : Pointer) : p.history.lines = p.lines := rfl

theorem cursor_history_eq_none_iff (p : Pointer) :
    p.history.cursor = none ↔ p.place = p.lines.length := by
  have bound := p.within
  simp only [history, ite_eq_right_iff, reduceCtorEq, imp_false]
  omega

theorem cursor_history_eq_some_iff (p : Pointer) (i : Nat) :
    p.history.cursor = some i ↔ i = p.place ∧ i < p.lines.length := by
  simp only [history, Option.ite_none_right_eq_some, Option.some.injEq]
  constructor
  · rintro ⟨inside, rfl⟩
    exact ⟨rfl, inside⟩
  · rintro ⟨rfl, inside⟩
    exact ⟨inside, rfl⟩

theorem record_history (p : Pointer) (line : String) :
    p.history.record line = (p.record line).history := by
  simp [history, History.record, record]

theorem previous_history (p : Pointer) :
    p.history.previous = (p.previous.1.history, p.previous.2) := by
  have bound := p.within
  by_cases someLine : 0 < p.lines.length
  · have inside : p.place - 1 < p.lines.length := by omega
    have nonempty : p.lines.isEmpty = false := by
      rw [List.isEmpty_eq_false_iff]
      exact List.ne_nil_of_length_pos someLine
    by_cases browsing : p.place < p.lines.length
    · simp [History.previous, previous, history, someLine, nonempty, browsing, inside]
    · have last : p.place = p.lines.length := by omega
      have inside' : p.lines.length - 1 < p.lines.length := by omega
      simp [History.previous, previous, history, someLine, nonempty, last, inside']
  · have empty : p.lines = [] := by
      rw [← List.length_eq_zero_iff]
      omega
    simp [History.previous, previous, history, empty]

theorem next_history (p : Pointer) : p.history.next = (p.next.1.history, p.next.2) := by
  by_cases browsing : p.place < p.lines.length
  · by_cases inside : p.place + 1 < p.lines.length
    · simp [History.next, next, history, browsing, inside]
    · have beyond : p.lines[p.place + 1]? = none := by
        rw [List.getElem?_eq_none_iff]
        omega
      simp [History.next, next, history, browsing, inside]
  · simp [History.next, next, history, browsing]

theorem perform_history (p : Pointer) (call : History.Call) :
    p.history.perform call = ((p.perform call).1.history, (p.perform call).2) := by
  cases call with
  | record line => exact congrArg (·, none) (record_history p line)
  | previous => exact previous_history p
  | next => exact next_history p

theorem run_history (p : Pointer) (calls : List History.Call) :
    p.history.run calls = ((p.run calls).1.history, (p.run calls).2) :=
  History.Call.run_image history perform_history p calls

@[simp] theorem run_cons (p : Pointer) (call : History.Call) (rest : List History.Call) :
    p.run (call :: rest) =
      (((p.perform call).1.run rest).1, (p.perform call).2 :: ((p.perform call).1.run rest).2) := rfl

theorem previous_spec (p : Pointer) :
    p.previous.1.lines = p.lines ∧ p.previous.1.place = p.place - 1 := by
  have bound := p.within
  by_cases someLine : 0 < p.lines.length
  · simp [previous, someLine]
  · have first : p.place = 0 := by omega
    simp [previous, someLine, first]

theorem run_previous (p : Pointer) (k : Nat) :
    (p.run (List.replicate k .previous)).1.lines = p.lines ∧
      (p.run (List.replicate k .previous)).1.place = p.place - k := by
  induction k generalizing p with
  | zero => exact ⟨rfl, rfl⟩
  | succ k ih =>
    obtain ⟨lines, place⟩ := previous_spec p
    obtain ⟨lines', place'⟩ := ih p.previous.1
    simp only [List.replicate_succ, run_cons, perform]
    refine ⟨lines'.trans lines, ?_⟩
    rw [place', place]
    omega

/-- Exactly as many steps forward as there are places left lead behind the last line; the last one of them
answers the empty line. -/
theorem run_next (p : Pointer) (k : Nat) (rest : p.place + k = p.lines.length) :
    (p.run (List.replicate k .next)).1.lines = p.lines ∧
      (p.run (List.replicate k .next)).1.place = p.lines.length ∧
      ∀ answer ∈ (p.run (List.replicate k .next)).2.getLast?, answer = some "" := by
  induction k generalizing p with
  | zero => exact ⟨rfl, rest, nofun⟩
  | succ k ih =>
    have browsing : p.place < p.lines.length := by omega
    have stepped : p.next.1.lines = p.lines ∧ p.next.1.place = p.place + 1 := by
      simp [next, browsing]
    obtain ⟨lines, place⟩ := stepped
    have rest' : p.next.1.place + k = p.next.1.lines.length := by
      rw [lines, place]
      omega
    obtain ⟨lines', place', last⟩ := ih p.next.1 rest'
    simp only [List.replicate_succ, run_cons, perform]
    refine ⟨lines'.trans lines, place'.trans (congrArg List.length lines), ?_⟩
    cases k with
    | zero =>
      have outside : ¬ p.place + 1 < p.lines.length := by omega
      simp [run, History.Call.run, next, browsing, outside]
    | succ k =>
      rw [List.replicate_succ, run_cons, List.getLast?_cons_cons]
      exact last

end Pointer

namespace History

/-- A history answers calls as the pointer over its lines does, and is always that pointer's. From where
nothing is browsed, `k` steps back and then as many forward, or as many as there are lines, end there
again, and the last step forward answers the empty line. -/
theorem run_follows_pointer (calls : List Call) :
    let h := ({} : History).run calls
    let p := ({} : Pointer).run calls
    h.2 = p.2 ∧ h.1.lines = p.1.lines ∧
    (h.1.cursor = none ↔ p.1.place = p.1.lines.length) ∧
    (∀ i, h.1.cursor = some i → i = p.1.place ∧ i < h.1.lines.length) ∧
    (h.1.cursor = none → ∀ k,
      let back := h.1.run (List.replicate k .previous)
      let forth := back.1.run (List.replicate (min k h.1.lines.length) .next)
      forth.1.cursor = none ∧ ∀ answer ∈ forth.2.getLast?, answer = some "") := by
  intro h p
  have follows : h = (p.1.history, p.2) := Pointer.run_history {} calls
  rw [follows]
  refine ⟨rfl, rfl, p.1.cursor_history_eq_none_iff, ?_, ?_⟩
  · intro i shown
    exact (p.1.cursor_history_eq_some_iff i).mp shown
  · intro idle k
    obtain ⟨lines, place⟩ := p.1.run_previous k
    have last := p.1.cursor_history_eq_none_iff.mp idle
    have rest : (p.1.run (List.replicate k .previous)).1.place + min k p.1.lines.length =
        (p.1.run (List.replicate k .previous)).1.lines.length := by
      rw [lines, place]
      omega
    obtain ⟨lines', place', answers⟩ := Pointer.run_next _ _ rest
    simp only [Pointer.run_history, Pointer.lines_history]
    refine ⟨?_, answers⟩
    rw [Pointer.cursor_history_eq_none_iff, place', lines']

end History

end ClusterInspector
