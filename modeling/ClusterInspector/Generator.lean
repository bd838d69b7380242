import ClusterInspector.Age
import ClusterInspector.Cluster.Basic
import ClusterInspector.Failure
import ClusterInspector.Generator.Pools
import ClusterInspector.Chance.Source

/-!
# Generated clusters

A cluster drawn from a source of random choices: every namespace of the pool, some pods in each,
half of them with a problem, a few deployments, and now and then a daemon set. Names are unique
among the records of a kind in a namespace; where no new one turns up, generating fails, and the
source has moved on all the same.
-/
namespace ClusterInspector.Generator

open Chance (Source)

variable {σ : Type} [Source σ]

/-- What is drawn from a source. -/
abbrev Draw (σ α : Type) := ExceptT Failure (StateM σ) α

def between (lo hi : Nat) (h : lo ≤ hi := by decide) :
    Draw σ { v : Nat // lo ≤ v ∧ v ≤ hi } :=
  fun s => let (v, s) := Source.between lo hi h s; (.ok v, s)

def pick {α : Type} (xs : List α) (h : 0 < xs.length := by decide) : Draw σ α :=
  fun s => let (i, s) := Source.index xs.length h s; (.ok xs[i], s)

/-- True with a probability of `p / q`. -/
def chance (p q : Nat) : Draw σ Bool :=
  fun s => let (f, s) := Source.fraction s; (.ok (f.isBelow p q), s)

def age : Draw σ String := do
  let days ← between 0 maxAgeDays
  let hours ← between 0 23
  let minutes ← between 0 59
  return Age.write days.val hours.val minutes.val

def maxNameAttempts : Nat := 50

/-- A name that is not taken, in so many attempts. -/
def freshName (make : Draw σ String) (taken : List String) : (attempts : Nat) → Draw σ String
  | 0 => throw .namesExhausted
  | attempts + 1 => do
    let name ← make
    if taken.contains name then freshName make taken attempts else return name

/-- So many records with names of their own. -/
def named {α : Type} (makeName : Draw σ String) (make : String → Draw σ α) :
    (count : Nat) → (taken : List String) → Draw σ (List α)
  | 0, _ => return []
  | count + 1, taken => do
    let name ← freshName makeName taken maxNameAttempts
    let r ← make name
    let rest ← named makeName make count (name :: taken)
    return r :: rest

def namespaces : Draw σ (List Namespace) :=
  namespacePool.mapM fun name => do
    let age ← age
    return { name, status := "Active", age }

def podName : Draw σ String := do
  let base ← pick podNames
  let first ← between 1000 9999
  let second ← between 100 999
  return s!"{base}-{first.val}-{second.val}"

/-- A problem or none, and the number of restarts. -/
def condition : Draw σ (Option PodProblem × Nat) := do
  if ← chance 1 2 then
    let problem ← pick PodProblem.all
    match restartsOf problem with
    | some (least, more) =>
      let restarts ← between least (least + more) (Nat.le_add_right ..)
      return (some problem, restarts.val)
    | none => return (some problem, 0)
  else if ← chance 1 5 then
    let restarts ← between 0 2
    return (none, restarts.val)
  else return (none, 0)

/-- Ready containers of two. -/
def podReady (problem : Option PodProblem) : Draw σ String :=
  match problem with
  | none => do
    let ready ← between 1 2
    return s!"{ready.val}/2"
  | some problem => return if statusOf problem = .running then "2/2" else "0/2"

def pod (home name : String) : Draw σ Pod := do
  let (problem, restarts) ← condition
  let ready ← podReady problem
  let age ← age
  let node ← between 1 nodeCount
  return {
    name, home, ready, restarts, age, problem
    status := (problem.map statusOf).getD .running
    node := s!"node-{node.val}"
    problemMessage := problem.map messageOf }

def pods : Draw σ (List Pod) := do
  let perNamespace ← namespacePool.mapM fun home => do
    let count ← between 3 8
    named podName (pod home) count.val []
  return perNamespace.flatten

def deploymentName : Draw σ String := do
  let base ← pick deploymentNames
  let number ← between 1 5
  return s!"{base}-{number.val}"

def deployment (home name : String) : Draw σ Deployment := do
  let replicas ← between 2 5
  let upToDate ← between 0 replicas.val (Nat.zero_le _)
  let available ← between 0 upToDate.val (Nat.zero_le _)
  let age ← age
  return {
    name, home, age
    ready := s!"{available.val}/{replicas.val}"
    upToDate := upToDate.val
    available := available.val }

def deployments : Draw σ (List Deployment) := do
  let perNamespace ← namespacePool.mapM fun home => do
    let count ← between 1 3
    named deploymentName (deployment home) count.val []
  return perNamespace.flatten

def daemonSet (home : String) : Draw σ DaemonSet := do
  let current ← between 2 nodeCount
  let ready ← between 1 current.val (by omega)
  let name ← pick daemonSetNames
  let age ← age
  return {
    name, home, age
    desired := nodeCount
    current := current.val
    ready := ready.val
    upToDate := current.val
    available := ready.val }

def daemonSets : Draw σ (List DaemonSet) := do
  let perNamespace ← namespacePool.mapM fun home => do
    if ← chance 2 5 then return [← daemonSet home] else return []
  return perNamespace.flatten

def cluster : Draw σ Cluster := do
  let namespaces ← namespaces
  let pods ← pods
  let deployments ← deployments
  let daemonsets ← daemonSets
  return { namespaces, pods, deployments, daemonsets }

end ClusterInspector.Generator
