import ClusterInspector.Cluster.Basic
import ClusterInspector.Event
import ClusterInspector.Fault

/-!
# The store

A cluster, and those who want to know when a namespace is gone. They are told after everything that
goes with the namespace has left, so what they find is the final cluster.
-/
namespace ClusterInspector

structure Store where
  cluster : Cluster := {}
  watchers : Registry NamespaceWatcher := {}
  deriving DecidableEq, Repr

namespace Store

def loaded (c : Cluster) : Diagnostic :=
  ⟨.debug, s!"Store loaded: {c.size .namespaces} namespaces, {c.size .pods} pods, " ++
    s!"{c.size .deployments} deployments, {c.size .daemonsets} daemonsets"⟩

/-- What is noted of a deletion from a cluster. -/
def deleted {k : Kind} (c : Cluster) (target : k.Record) : Diagnostic :=
  match target.home? with
  | some home => ⟨.info, s!"Deleted {k.singular} {home}/{target.name}"⟩
  | none =>
    ⟨.info, s!"Deleted namespace {target.name} (cascaded: {c.lost target .pods} pods, " ++
      s!"{c.lost target .deployments} deployments, {c.lost target .daemonsets} daemonsets)"⟩

/-- What a deletion does, one thing after the other. -/
inductive Effect where
  /-- A collection loses what goes with the target. -/
  | sweeps (k : Kind)
  | notes (d : Diagnostic)
  /-- A watcher is told, and may cancel a handle. -/
  | tells (w : NamespaceWatcher)

/-- What an effect makes known. -/
def Effect.event? (gone : String) : Effect → Option Event
  | sweeps _ => none
  | notes d => some (.diagnostic d)
  | tells w => some (.namespaceGone w gone)

/-- The store after an effect of deleting the target. -/
def undergo {k : Kind} (target : k.Record) (s : Store) : Effect → Store
  | .sweeps swept => { s with cluster := s.cluster.sweep target swept }
  | .notes _ => s
  | .tells w =>
    match w.cancels.bind s.watchers.cancel? with
    | some watchers => { s with watchers }
    | none => s

/-- The handle that is to be cancelled in an effect though it was never issued. -/
def unknown? (s : Store) : Effect → Option Handle
  | .sweeps _ | .notes _ => none
  | .tells w => w.cancels.filter fun h => (s.watchers.cancel? h).isNone

/-- The effects of deleting the target, in order. -/
def effects {k : Kind} (s : Store) (target : k.Record) : List Effect :=
  if k.isNamespaced then [.sweeps k, .notes (deleted s.cluster target)]
  else Kind.all.map .sweeps ++ .notes (deleted s.cluster target) ::
    s.watchers.active.map .tells

/-- Effects take place one by one. A watcher that names an unknown handle has been told, and ends
the step; what was done before stands. -/
def undergoAll {k : Kind} (target : k.Record) : Store → List Effect → Step Store Fault Unit
  | s, [] => { state := s, result := .ok () }
  | s, e :: rest =>
    let known := (e.event? target.name).toList
    match s.unknown? e with
    | some h => { state := s, events := known, result := .error (.noSuchHandle h) }
    | none =>
      let later := undergoAll target (s.undergo target e) rest
      { later with events := known ++ later.events }

/-- Deletes the first record with a name, in a namespace where one is given. -/
def delete (s : Store) (k : Kind) (name : String) (scope : Option String) :
    Step Store Fault (Option k.Record) :=
  match s.cluster.find? k name scope with
  | none => { state := s, result := .ok none }
  | some target =>
    (s.undergoAll target (s.effects target)).andThen fun s' _ =>
      { state := s', result := .ok (some target) }

def watch (s : Store) (who : NamespaceWatcher) : Store × Handle :=
  let (watchers, handle) := s.watchers.register who
  ({ s with watchers }, handle)

def unwatch (s : Store) (h : Handle) : Except Fault Store :=
  match s.watchers.cancel? h with
  | some watchers => .ok { s with watchers }
  | none => .error (.noSuchHandle h)

end Store

end ClusterInspector
