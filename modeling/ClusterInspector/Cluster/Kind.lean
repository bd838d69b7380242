import ClusterInspector.Text.LowerCase

/-!
# Kinds of resources

The four kinds that a cluster holds, their names, and the words that a console line may use for
them.
-/
namespace ClusterInspector

inductive Kind where
  | namespaces | pods | deployments | daemonsets
  deriving DecidableEq, Repr

namespace Kind

def plural : Kind → String
  | namespaces => "namespaces"
  | pods => "pods"
  | deployments => "deployments"
  | daemonsets => "daemonsets"

def singular : Kind → String
  | namespaces => "namespace"
  | pods => "pod"
  | deployments => "deployment"
  | daemonsets => "daemonset"

def title : Kind → String
  | namespaces => "Namespaces"
  | pods => "Pods"
  | deployments => "Deployments"
  | daemonsets => "DaemonSets"

/-- The group that serves a kind, as it follows the kind's name in messages. -/
def group : Kind → String
  | deployments | daemonsets => ".apps"
  | namespaces | pods => ""

/-- Records of every kind but namespaces lie in a namespace. -/
def isNamespaced (k : Kind) : Bool := k ≠ namespaces

/-- The order in which a browser visits the kinds. -/
def all : List Kind := [namespaces, pods, deployments, daemonsets]

def next : Kind → Kind
  | namespaces => pods
  | pods => deployments
  | deployments => daemonsets
  | daemonsets => namespaces

def previous : Kind → Kind
  | namespaces => daemonsets
  | pods => namespaces
  | deployments => pods
  | daemonsets => deployments

def aliases : Kind → List String
  | namespaces => ["namespaces", "namespace", "ns"]
  | pods => ["pods", "pod", "po"]
  | deployments => ["deployments", "deployment", "deploy"]
  | daemonsets => ["daemonsets", "daemonset", "ds"]

/-- The kind that a word names, in letters of any case. -/
def ofWord? (word : String) : Option Kind :=
  all.find? fun k => k.aliases.contains (Text.lower word)

theorem mem_all (k : Kind) : k ∈ all := by cases k <;> decide

end Kind

end ClusterInspector
