import ClusterInspector.Cluster.Record

/-!
# What clusters are generated from

The namespaces every generated cluster has, the words its names are made of, and what each problem
does to a pod.
-/
namespace ClusterInspector.Generator

def namespacePool : List String :=
  ["default", "kube-system", "production", "staging", "monitoring", "logging"]

def podNames : List String :=
  ["web-server", "api-gateway", "auth-service", "database-proxy", "cache-service", "worker-pool",
    "scheduler", "notifier", "analytics", "frontend", "backend-api", "message-queue",
    "file-storage", "search-engine", "load-balancer"]

def deploymentNames : List String :=
  ["web-deployment", "api-deployment", "auth-deployment", "worker-deployment",
    "frontend-deployment", "backend-deployment"]

def daemonSetNames : List String := ["fluentd", "node-exporter", "log-collector", "network-proxy"]

def nodeCount : Nat := 3

def maxAgeDays : Nat := 30

/-- The status that a problem gives a pod. -/
def statusOf : PodProblem → PodStatus
  | .oomKilled => .failed
  | .cpuThrottled => .running
  | .crashLoopBackOff => .crashLoopBackOff
  | .imagePullBackOff | .errImagePull | .unschedulable | .containerCreating | .initError => .pending

/-- The least number of restarts that a problem causes, and how many more there may be. Problems
without restarts have none. -/
def restartsOf : PodProblem → Option (Nat × Nat)
  | .oomKilled => some (3, 12)
  | .crashLoopBackOff => some (5, 15)
  | .initError => some (1, 4)
  | .cpuThrottled | .imagePullBackOff | .errImagePull | .unschedulable | .containerCreating => none

def messageOf : PodProblem → String
  | .oomKilled => "Container killed due to memory limit"
  | .cpuThrottled => "CPU throttling detected"
  | .imagePullBackOff => "Back-off pulling image \"registry.example.com/image:v1.0\""
  | .errImagePull =>
    "Failed to pull image \"registry.example.com/image:v1.0\": network timeout"
  | .unschedulable => "0/3 nodes are available: insufficient cpu, memory"
  | .crashLoopBackOff => "Back-off restarting failed container"
  | .containerCreating => "Container is being created"
  | .initError => "Init container failed with exit code 1"

end ClusterInspector.Generator
