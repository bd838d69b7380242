import ClusterInspector.Diagnostic
import ClusterInspector.Registry

/-!
# Steps and what they make known

A step leads from one state to the next, yields a result or an error, and makes events known in
order: diagnostics, and notices to those who registered for them. An error does not undo the state.
-/
namespace ClusterInspector

/-- One who only takes notice, and may cancel a handle whenever it does. -/
structure Observer where
  id : String
  cancels : Option Handle := none
  deriving DecidableEq, Repr

/-- Who can be told that a namespace is gone. A browser is known by the handle of its own
registration. -/
inductive NamespaceWatcher where
  | browser (handle : Handle)
  | observer (o : Observer)
  deriving DecidableEq, Repr

def NamespaceWatcher.cancels : NamespaceWatcher → Option Handle
  | browser _ => none
  | observer o => o.cancels

inductive EntryRole where
  | command | output | error
  deriving DecidableEq, Repr

/-- An entry of the output log, with the time of day it was made. -/
structure Entry where
  role : EntryRole
  content : String
  time : String
  deriving DecidableEq, Repr

/-- Who can be told of a new entry: the screen, which shows it, and observers. -/
inductive EntryWatcher where
  | screen
  | observer (o : Observer)
  deriving DecidableEq, Repr

def EntryWatcher.cancels : EntryWatcher → Option Handle
  | screen => none
  | observer o => o.cancels

inductive Event where
  | diagnostic (d : Diagnostic)
  | namespaceGone (watcher : NamespaceWatcher) (name : String)
  | entryAdded (watcher : EntryWatcher) (entry : Entry)
  deriving DecidableEq, Repr

structure Step (σ ε α : Type) where
  state : σ
  events : List Event := []
  result : Except ε α

namespace Step

variable {σ τ ε α β : Type}

/-- Goes on from the state and result of a step that succeeded. -/
def andThen (s : Step σ ε α) (next : σ → α → Step σ ε β) : Step σ ε β :=
  match s.result with
  | .error e => { state := s.state, events := s.events, result := .error e }
  | .ok a =>
    let t := next s.state a
    { t with events := s.events ++ t.events }

/-- The step seen as one of a larger state. -/
def within (s : Step σ ε α) (into : σ → τ) : Step τ ε α :=
  { state := into s.state, events := s.events, result := s.result }

theorem andThen_of_ok {s : Step σ ε α} {a : α} (h : s.result = .ok a)
    (next : σ → α → Step σ ε β) :
    s.andThen next = { next s.state a with events := s.events ++ (next s.state a).events } := by
  simp only [andThen, h]

theorem andThen_of_error {s : Step σ ε α} {e : ε} (h : s.result = .error e)
    (next : σ → α → Step σ ε β) :
    s.andThen next = { state := s.state, events := s.events, result := .error e } := by
  simp only [andThen, h]

@[simp] theorem state_within (s : Step σ ε α) (into : σ → τ) :
    (s.within into).state = into s.state := rfl

@[simp] theorem events_within (s : Step σ ε α) (into : σ → τ) :
    (s.within into).events = s.events := rfl

@[simp] theorem result_within (s : Step σ ε α) (into : σ → τ) :
    (s.within into).result = s.result := rfl

end Step

end ClusterInspector
