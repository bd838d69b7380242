import ClusterInspector.Store
import ClusterInspector.Text.Search

/-!
# Browsers

A browser looks at a store: at one kind, within a namespace and by a part of the name where these
are set, with one row highlighted. It never changes the cluster. While it is open it is told of
deleted namespaces, so that it never stays within one that is gone.
-/
namespace ClusterInspector

structure Browser where
  kind : Kind := .namespaces
  scope : Option String := none
  filter : String := ""
  index : Nat := 0
  /-- The handle of its registration with the store. -/
  handle : Handle
  deriving DecidableEq, Repr

namespace Browser

/-- A browser on a store, registered there. -/
def onto (s : Store) : Store × Browser :=
  let handle := s.watchers.issued.length
  let (store, _) := s.watch (.browser handle)
  (store, { handle })

def isOf (b : Browser) : NamespaceWatcher → Bool
  | .browser handle => handle = b.handle
  | .observer _ => false

/-- Ends the registration; closing again changes nothing. -/
def close (b : Browser) (s : Store) : Store :=
  match s.unwatch b.handle with
  | .ok s' => s'
  | .error _ => s

/-- The records in view: all namespaces, or those of another kind that lie within the scope and
have the filter in their names. -/
def rows (b : Browser) (c : Cluster) : List b.kind.Record :=
  if b.kind.isNamespaced then
    (c.select b.kind b.scope none).filter fun r => Text.occursIn b.filter.toList r.name.toList
  else c.records b.kind

/-- The highlighted row: the one at the index, or the last. -/
def selectedIndex (b : Browser) (c : Cluster) : Nat := min b.index ((b.rows c).length - 1)

def selected (b : Browser) (c : Cluster) : Option b.kind.Record :=
  (b.rows c)[b.selectedIndex c]?

/-- Pods with a problem, in every namespace. -/
def problemCount (c : Cluster) : Nat := c.pods.countP (·.problem.isSome)

def statusLine (b : Browser) (c : Cluster) : String :=
  let scope := match b.scope with
    | none | some "" => ""
    | some s => s!"Namespace: {s} | "
  let problems := if b.kind = .pods then s!" Errors: {problemCount c}" else ""
  s!"{scope}{b.kind.plural}: {(b.rows c).length} |{problems}"

/-- The highlighted pod, if it has a problem. -/
def details (b : Browser) (c : Cluster) : Option (Pod × PodProblem) :=
  (b.selected c).bind (·.troubled?)

/-- What a user can do in a browser. -/
inductive Action where
  | show (kind : Kind)
  | next
  | previous
  | down
  | up
  | activate (row : Int)
  | filter (text : String)
  | clear
  deriving DecidableEq, Repr

def goTo (b : Browser) (kind : Kind) : Browser := { b with kind, index := 0 }

/-- Activating a namespace goes to the pods in it; activating another record highlights it. -/
def activate (b : Browser) (c : Cluster) (row : Int) : Browser :=
  if row < 0 then b
  else
    match (b.rows c)[row.toNat]? with
    | none => b
    | some r =>
      if b.kind.isNamespaced then { b with index := row.toNat }
      else { b with scope := some r.name }.goTo .pods

def act (b : Browser) (c : Cluster) : Action → Browser
  | .show kind => b.goTo kind
  | .next => b.goTo b.kind.next
  | .previous => b.goTo b.kind.previous
  | .down => { b with index := min (b.index + 1) ((b.rows c).length - 1) }
  | .up => { b with index := b.index - 1 }
  | .activate row => b.activate c row
  | .filter text => { b with filter := text, index := 0 }
  | .clear => { b with filter := "", scope := none, index := 0 }

/-- Takes notice that a namespace is gone from what is now the cluster. -/
def notice (b : Browser) (c : Cluster) (gone : String) : Browser :=
  let b' := if b.scope = some gone then { b with scope := none } else b
  { b' with index := min b'.index ((b'.rows c).length - 1) }

/-- Takes notice of the events addressed to the browser. -/
def observe (b : Browser) (c : Cluster) : List Event → Browser
  | [] => b
  | .namespaceGone watcher name :: rest =>
    observe (if b.isOf watcher then b.notice c name else b) c rest
  | .diagnostic _ :: rest | .entryAdded .. :: rest => observe b c rest

end Browser

end ClusterInspector
