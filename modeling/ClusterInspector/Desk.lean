import ClusterInspector.Browser
import ClusterInspector.Console

/-!
# Desks

A store with the browsers on it, used side by side with console lines and direct deletions. The
browsers that are open take notice of every namespace that is gone; one that was closed stays as it
was left.
-/
namespace ClusterInspector

structure Desk where
  store : Store := {}
  /-- In the order they were opened; a browser keeps its place when it is closed. -/
  browsers : List Browser := []
  /-- The moment at which reports are written. -/
  now : Nat
  deriving DecidableEq, Repr

namespace Desk

/-- Puts a new browser on the store. -/
def openBrowser (d : Desk) : Desk :=
  let (store, b) := Browser.onto d.store
  { d with store, browsers := d.browsers ++ [b] }

def act (d : Desk) (browser : Nat) (a : Browser.Action) : Desk :=
  { d with browsers := d.browsers.modify browser (·.act d.store.cluster a) }

def close (d : Desk) (browser : Nat) : Desk :=
  match d.browsers[browser]? with
  | some b => { d with store := b.close d.store }
  | none => d

/-- Lets the browsers take notice of what a step of the store made known. -/
def settle {ε α : Type} (d : Desk) (step : Step Store ε α) : Step Desk ε α :=
  step.within fun store =>
    { d with store, browsers := d.browsers.map (·.observe store.cluster step.events) }

@[simp] theorem settle_store {ε α : Type} (d : Desk) (step : Step Store ε α) :
    (d.settle step).state.store = step.state := rfl

@[simp] theorem settle_now {ε α : Type} (d : Desk) (step : Step Store ε α) :
    (d.settle step).state.now = d.now := rfl

@[simp] theorem settle_result {ε α : Type} (d : Desk) (step : Step Store ε α) :
    (d.settle step).result = step.result := rfl

def answerLine (d : Desk) (line : String) : Step Desk Fault Console.Reply :=
  d.settle (Console.answerLine d.now d.store line)

def delete (d : Desk) (k : Kind) (name : String) (scope : Option String) :
    Step Desk Fault (Option k.Record) :=
  d.settle (d.store.delete k name scope)

end Desk

end ClusterInspector
