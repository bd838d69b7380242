import ClusterInspector.Age
import ClusterInspector.Calendar
import ClusterInspector.Digest
import ClusterInspector.Listing

/-!
# Reports

The report that describes one record. What a record does not carry is derived: addresses and
identifiers from a digest of its namespace and name, the time it began from its age and the time of
the report. A report is the same each time, and is refused only by a limit of arithmetic.
-/
namespace ClusterInspector.Report

def nothing : String := "<none>"

/-- The two numbers of `x/y`, both 0 where either cannot be read. -/
def readiness (ready : String) : Int × Int :=
  let cs := ready.toList
  let before := cs.takeWhile (· ≠ '/')
  let after := (cs.dropWhile (· ≠ '/')).drop 1
  match Text.Numeral.read? (String.ofList before), Text.Numeral.read? (String.ofList after) with
  | some x, some y => (x, y)
  | _, _ => (0, 0)

/-- The application a name belongs to: what stands before its first dash. -/
def application (name : String) : String := String.ofList (name.toList.takeWhile (· ≠ '-'))

/-- When something of an age began, seen from a moment. -/
def began (now : Nat) (age : String) : Except Fault String := do
  let seconds ← Age.read age
  if seconds ≤ now then .ok (Calendar.DateTime.ofSeconds (now - seconds)).stamp
  else .error .dateOutOfRange

def number (n : Int) : Except Fault String :=
  match Text.Numeral.write? n with
  | some text => .ok text
  | none => .error .numeralUnwritable

def digest {k : Kind} (r : k.Record) : List UInt8 :=
  let home := r.home?.getD ""
  Digest.sha256 s!"{home}/{r.name}".toUTF8.toList

def truth (b : Bool) : String := if b then "True" else "False"

def lines (ls : List String) : String := "\n".intercalate ls

def ofNamespace (r : Namespace) : String := lines [
  s!"Name:         {r.name}",
  s!"Labels:       {nothing}",
  s!"Annotations:  {nothing}",
  s!"Status:       {r.status}",
  "No resource quota.",
  "No resource limits."]

/-- What a pod's report says of its problem. -/
def events (r : Pod) : List String :=
  match r.problem with
  | none => []
  | some problem =>
    let message := r.problemMessage.getD ""
    ["Events:",
      "  Type     Reason          Message",
      s!"  Warning  {problem.text}    {message}"]

def ofPod (now : Nat) (r : Pod) : Except Fault String := do
  let app := application r.name
  let bytes := digest (k := .pods) r
  let (x, y) := readiness r.ready
  let ready := truth (x = y)
  let state := if r.status = .running then "Running" else "Waiting"
  let start ← began now r.age
  let restarts ← number r.restarts
  return lines <| [
    s!"Name:         {r.name}",
    s!"Namespace:    {r.home}",
    "Priority:     0",
    s!"Node:         {Listing.orElse r.node nothing}",
    s!"Start Time:   {start}",
    s!"Labels:       app={app}",
    s!"Annotations:  {nothing}",
    s!"Status:       {r.status.text}",
    s!"IP:           10.244.{bytes.getD 0 0}.{bytes.getD 1 0}",
    "Containers:",
    s!"  {app}:",
    s!"    Container ID:   docker://{Digest.hex ((bytes.drop 2).take 6)}",
    s!"    Image:          {app}:latest",
    s!"    Image ID:       docker-pullable://{app}@sha256:{Digest.hex ((bytes.drop 8).take 8)}",
    s!"    Port:           {nothing}",
    s!"    Host Port:      {nothing}",
    s!"    State:          {state}",
    s!"    Ready:          {ready}",
    s!"    Restart Count:  {restarts}",
    s!"    Environment:    {nothing}",
    s!"    Mounts:         {nothing}",
    "Conditions:",
    "  Type              Status",
    "  Initialized       True",
    s!"  Ready             {ready}",
    s!"  ContainersReady   {ready}",
    "  PodScheduled      True"] ++ events r

/-- The replicas wanted are those of the readiness; enough of them available make it available. -/
def ofDeployment (now : Nat) (r : Deployment) : Except Fault String := do
  let app := application r.name
  let (_, desired) := readiness r.ready
  let available := desired ≤ r.available
  let reason := if available then "MinimumReplicasAvailable" else "MinimumReplicasUnavailable"
  let start ← began now r.age
  let updated ← number r.upToDate
  let serving ← number r.available
  let unavailable ← number (desired - r.available)
  return lines [
    s!"Name:                   {r.name}",
    s!"Namespace:              {r.home}",
    s!"CreationTimestamp:      {start}",
    s!"Labels:                 app={app}",
    "Annotations:            deployment.kubernetes.io/revision: 1",
    s!"Selector:               app={app}",
    s!"Replicas:               {desired} desired | {updated} updated | " ++
      s!"{desired} total | {serving} available | {unavailable} unavailable",
    "StrategyType:           RollingUpdate",
    "MinReadySeconds:        0",
    "RollingUpdateStrategy:  25% max unavailable, 25% max surge",
    "Pod Template:",
    s!"  Labels:  app={app}",
    "  Containers:",
    s!"   {app}:",
    s!"    Image:        {app}:latest",
    s!"    Port:         {nothing}",
    s!"    Environment:  {nothing}",
    s!"    Mounts:       {nothing}",
    s!"  Volumes:        {nothing}",
    "Conditions:",
    "  Type           Status  Reason",
    s!"  Available      {Text.Table.pad 7 (truth available)} {reason}",
    "  Progressing    True    NewReplicaSetAvailable"]

def ofDaemonSet (r : DaemonSet) : Except Fault String := do
  let desired ← number r.desired
  let current ← number r.current
  let upToDate ← number r.upToDate
  let ready ← number r.ready
  let missing ← number (r.desired - r.current)
  let waiting ← number (r.current - r.ready)
  return lines [
    s!"Name:           {r.name}",
    s!"Namespace:      {r.home}",
    s!"Selector:       app={r.name}",
    s!"Node-Selector:  {nothing}",
    s!"Labels:         app={r.name}",
    s!"Annotations:    {nothing}",
    s!"Desired Number of Nodes Scheduled: {desired}",
    s!"Current Number of Nodes Scheduled: {current}",
    s!"Number of Nodes Scheduled with Up-to-date Pods: {upToDate}",
    s!"Number of Nodes Scheduled with Ready Pods: {ready}",
    s!"Number of Nodes Misscheduled: {missing}",
    s!"Pods Status:   {ready} Running / {waiting} Waiting / {missing} Succeeded / 0 Failed"]

def describe (now : Nat) : {k : Kind} → k.Record → Except Fault String
  | .namespaces, r => .ok (ofNamespace r)
  | .pods, r => ofPod now r
  | .deployments, r => ofDeployment now r
  | .daemonsets, r => ofDaemonSet r

end ClusterInspector.Report
