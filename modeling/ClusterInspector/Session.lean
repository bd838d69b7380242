import ClusterInspector.Console
import ClusterInspector.History
import ClusterInspector.Log

/-!
# Sessions

A session is one run of the console over a store. Each line that is not blank is remembered, echoed
into the log, answered, and its answer logged; a fault leaves the echo without an answer.
-/
namespace ClusterInspector

structure Session where
  store : Store
  log : Log
  history : History := {}
  /-- The moment at which reports are written. -/
  now : Nat
  deriving DecidableEq, Repr

namespace Session

def welcome : String := "Kubernetes terminal ready. Type \"kubectl\" commands or \"help\" for usage."

/-- A session whose log is empty, or holds the welcome. -/
def start (store : Store) (clock : Clock) (now : Nat) (greeting : Bool := true) : Session :=
  let log : Log := { clock }
  { store, now, log := if greeting then (log.append .output welcome).state else log }

def append (s : Session) (role : EntryRole) (content : String) : Step Session Fault Entry :=
  (s.log.append role content).within fun log => { s with log }

def answer (s : Session) (line : String) : Step Session Fault Console.Reply :=
  (Console.answerLine s.now s.store line).within fun store => { s with store }

@[simp] theorem append_store (s : Session) (role : EntryRole) (content : String) :
    (s.append role content).state.store = s.store := rfl

@[simp] theorem append_now (s : Session) (role : EntryRole) (content : String) :
    (s.append role content).state.now = s.now := rfl

@[simp] theorem append_log (s : Session) (role : EntryRole) (content : String) :
    (s.append role content).state.log = (s.log.append role content).state := rfl

@[simp] theorem append_result (s : Session) (role : EntryRole) (content : String) :
    (s.append role content).result = (s.log.append role content).result := rfl

@[simp] theorem answer_log (s : Session) (line : String) :
    (s.answer line).state.log = s.log := rfl

@[simp] theorem answer_result (s : Session) (line : String) :
    (s.answer line).result = (Console.answerLine s.now s.store line).result := by
  rw [answer, Step.result_within]

def isBlank (line : String) : Bool := line.toList.all Text.isBlank

/-- Remembers, echoes and answers a line; the answer is not logged yet. -/
def respond (s : Session) (line : String) : Step Session Fault Console.Reply :=
  ({ s with history := s.history.record line }.append .command s!"$ {line}").andThen
    fun s _ => s.answer line

def submit (s : Session) (line : String) : Step Session Fault Unit :=
  if isBlank line then { state := s, result := .ok () }
  else
    (s.respond line).andThen fun s reply =>
      let answer := s.append (if reply.isError then .error else .output) reply.text
      { answer with result := answer.result.map fun _ => () }

def previous (s : Session) : Session × Option String :=
  let (history, line) := s.history.previous
  ({ s with history }, line)

def next (s : Session) : Session × Option String :=
  let (history, line) := s.history.next
  ({ s with history }, line)

end Session

end ClusterInspector
