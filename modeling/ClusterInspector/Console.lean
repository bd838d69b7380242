import ClusterInspector.Command.Line
import ClusterInspector.Report
import ClusterInspector.Store

/-!
# The console

A command is answered from the store: `get` lists, `describe` reports on one record, `delete` takes
one away, `apply` and `help` have fixed answers. Only a deletion changes the store. Whatever a line
is refused for becomes an answer that is marked as an error; a fault does not.
-/
namespace ClusterInspector.Console

def helpAnswer : String := "\n".intercalate [
  "Available commands:",
  "  kubectl get <resource> [name] [-n namespace]",
  "  kubectl describe <resource> <name> [-n namespace]",
  "  kubectl delete <resource> <name> [-n namespace]",
  "  kubectl apply -f <file> (simulated)",
  "",
  "Resources: pods, deployments, daemonsets, namespaces",
  "Shortcuts: po, deploy, ds, ns",
  "",
  "Examples:",
  "  kubectl get pods",
  "  kubectl get pods -n default",
  "  kubectl describe pod <pod-name>",
  "  kubectl delete pod <pod-name> -n default",
  "  kubectl get deployments",
  "  kubectl get namespaces"]

def applyAnswer : String := "\n".intercalate [
  "Note: This is a mock cluster. Apply command is simulated.",
  "In a real cluster, this would apply the configuration from the specified file."]

/-- Why a command has no answer: it is refused, or it meets a fault. -/
inductive Failure where
  | refused (e : Command.Refusal)
  | fault (f : Fault)
  deriving DecidableEq, Repr

/-- The answer to a line. -/
structure Reply where
  text : String
  isError : Bool := false
  deriving DecidableEq, Repr

/-- What is answered when nothing is listed. -/
def nothingFound (k : Kind) (scope : Option String) : String :=
  match scope with
  | some s =>
    if k.isNamespaced then s!"No resources found in {s} namespace." else "No resources found."
  | none => "No resources found."

def list (c : Cluster) (k : Kind) (scope name : Option String) : Except Fault String :=
  match c.select k scope name with
  | [] => .ok (nothingFound k scope)
  | rs => if rs.all Listing.isWritable then .ok (Listing.render k rs) else .error .numeralUnwritable

/-- The record that a name addresses. Several records of a namespaced kind are told apart only by
the namespace flag; with it, or for namespaces, the first counts. -/
def resolve (c : Cluster) (k : Kind) (name : String) (scope : Option String) :
    Except Command.Refusal k.Record :=
  match c.select k scope (some name) with
  | [] => .error (.notFound k name)
  | r :: rest =>
    if !rest.isEmpty && scope.isNone && k.isNamespaced then
      .error (.ambiguous k name ((r :: rest).filterMap (·.home?)))
    else .ok r

/-- The record that a command addresses. It needs a kind and then a name, which is not empty. -/
def target (c : Cluster) (cmd : Command) : Except Command.Refusal ((k : Kind) × k.Record) :=
  match cmd.kind, cmd.name with
  | none, _ => .error (.missingKind cmd.verb)
  | some _, none | some _, some "" => .error (.missingName cmd.verb)
  | some k, some name => (resolve c k name cmd.scope).map (Sigma.mk k)

def refuse (s : Store) (e : Command.Refusal) : Step Store Failure String :=
  { state := s, events := e.diagnostics.map .diagnostic, result := .error (.refused e) }

/-- Answers a command, the reports being written at a given moment. -/
def answerCommand (now : Nat) (s : Store) (cmd : Command) : Step Store Failure String :=
  match cmd.verb with
  | .help => { state := s, result := .ok helpAnswer }
  | .apply => { state := s, result := .ok applyAnswer }
  | .get =>
    match cmd.kind with
    | none => refuse s (.missingKind .get)
    | some k => { state := s, result := (list s.cluster k cmd.scope cmd.name).mapError .fault }
  | .describe =>
    match target s.cluster cmd with
    | .error e => refuse s e
    | .ok ⟨_, r⟩ => { state := s, result := (Report.describe now r).mapError .fault }
  | .delete =>
    match target s.cluster cmd with
    | .error e => refuse s e
    | .ok ⟨k, r⟩ =>
      let deletion := s.delete k r.name r.home?
      { state := deletion.state
        events := deletion.events
        result := match deletion.result with
          | .ok _ => .ok s!"{k.singular}{k.group} \"{r.name}\" deleted"
          | .error f => .error (.fault f) }

/-- Answers a line. -/
def answerLine (now : Nat) (s : Store) (line : String) : Step Store Fault Reply :=
  match Command.ofLine line with
  | .error e =>
    { state := s, events := e.diagnostics.map .diagnostic, result := .ok ⟨e.message, true⟩ }
  | .ok cmd =>
    let answer := answerCommand now s cmd
    { state := answer.state
      events := answer.events
      result := match answer.result with
        | .ok text => .ok { text }
        | .error (.refused e) => .ok ⟨e.message, true⟩
        | .error (.fault f) => .error f }

end ClusterInspector.Console
