import ClusterInspector.Cluster.Kind

/-!
# Records

The records of each kind. A record is never edited: a cluster changes only by losing records.
Numbers in a record can be any, even ones too long to be written; nothing relates them to each other.
-/
namespace ClusterInspector

structure Namespace where
  name : String
  status : String
  age : String
  deriving DecidableEq, Repr

inductive PodStatus where
  | running | pending | failed | succeeded | unknown
  | crashLoopBackOff | imagePullBackOff | errImagePull | oomKilled | cpuThrottled
  deriving DecidableEq, Repr

/-- Why a pod is not in its nominal state. -/
inductive PodProblem where
  | oomKilled | cpuThrottled | imagePullBackOff | errImagePull
  | unschedulable | crashLoopBackOff | containerCreating | initError
  deriving DecidableEq, Repr

/-- A pod; its home is the namespace it lies in. -/
structure Pod where
  name : String
  home : String
  status : PodStatus
  /-- Ready containers, as `x/y`. -/
  ready : String
  restarts : Int
  age : String
  node : Option String
  problem : Option PodProblem
  problemMessage : Option String
  deriving DecidableEq, Repr

structure Deployment where
  name : String
  home : String
  /-- Available replicas of those wanted, as `x/y`. -/
  ready : String
  upToDate : Int
  available : Int
  age : String
  deriving DecidableEq, Repr

structure DaemonSet where
  name : String
  home : String
  desired : Int
  current : Int
  ready : Int
  upToDate : Int
  available : Int
  age : String
  deriving DecidableEq, Repr

def PodStatus.text : PodStatus → String
  | running => "Running"
  | pending => "Pending"
  | failed => "Failed"
  | succeeded => "Succeeded"
  | unknown => "Unknown"
  | crashLoopBackOff => "CrashLoopBackOff"
  | imagePullBackOff => "ImagePullBackOff"
  | errImagePull => "ErrImagePull"
  | oomKilled => "OOMKilled"
  | cpuThrottled => "CPUThrottled"

def PodStatus.all : List PodStatus :=
  [running, pending, failed, succeeded, unknown, crashLoopBackOff, imagePullBackOff, errImagePull,
    oomKilled, cpuThrottled]

def PodProblem.text : PodProblem → String
  | oomKilled => "OOMKilled"
  | cpuThrottled => "CPUThrottled"
  | imagePullBackOff => "ImagePullBackOff"
  | errImagePull => "ErrImagePull"
  | unschedulable => "Unschedulable"
  | crashLoopBackOff => "CrashLoopBackOff"
  | containerCreating => "ContainerCreating"
  | initError => "Init:Error"

def PodProblem.all : List PodProblem :=
  [oomKilled, cpuThrottled, imagePullBackOff, errImagePull, unschedulable, crashLoopBackOff,
    containerCreating, initError]

/-- The records of a kind. -/
def Kind.Record : Kind → Type
  | .namespaces => Namespace
  | .pods => Pod
  | .deployments => Deployment
  | .daemonsets => DaemonSet

namespace Kind.Record

instance : {k : Kind} → DecidableEq k.Record
  | .namespaces => inferInstanceAs (DecidableEq Namespace)
  | .pods => inferInstanceAs (DecidableEq Pod)
  | .deployments => inferInstanceAs (DecidableEq Deployment)
  | .daemonsets => inferInstanceAs (DecidableEq DaemonSet)

instance : {k : Kind} → Repr k.Record
  | .namespaces => inferInstanceAs (Repr Namespace)
  | .pods => inferInstanceAs (Repr Pod)
  | .deployments => inferInstanceAs (Repr Deployment)
  | .daemonsets => inferInstanceAs (Repr DaemonSet)

def name : {k : Kind} → k.Record → String
  | .namespaces, r => Namespace.name r
  | .pods, r => Pod.name r
  | .deployments, r => Deployment.name r
  | .daemonsets, r => DaemonSet.name r

/-- The namespace that a record lies in; a namespace lies in none. -/
def home? : {k : Kind} → k.Record → Option String
  | .namespaces, _ => none
  | .pods, r => some (Pod.home r)
  | .deployments, r => some (Deployment.home r)
  | .daemonsets, r => some (DaemonSet.home r)

/-- The pod and its problem, if the record is a pod that has one. -/
def troubled? : {k : Kind} → k.Record → Option (Pod × PodProblem)
  | .pods, r => (Pod.problem r).map (Prod.mk r)
  | .namespaces, _ | .deployments, _ | .daemonsets, _ => none

theorem home?_isSome {k : Kind} (r : k.Record) : r.home?.isSome = k.isNamespaced := by
  cases k <;> rfl

end Kind.Record

end ClusterInspector
