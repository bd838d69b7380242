import ClusterInspector.Cluster.Kind
import ClusterInspector.Diagnostic
import ClusterInspector.Text.Quoted

/-!
# Commands and why one is refused

A command is a verb with the kind, name and namespace it was given. The causes of refusal come from
reading a line or from looking up what it addresses; each has one wording, which is the answer.
-/
namespace ClusterInspector

inductive Verb where
  | get | describe | delete | apply | help
  deriving DecidableEq, Repr

def Verb.text : Verb → String
  | get => "get"
  | describe => "describe"
  | delete => "delete"
  | apply => "apply"
  | help => "help"

structure Command where
  verb : Verb
  kind : Option Kind := none
  name : Option String := none
  /-- The value of the namespace flag. -/
  scope : Option String := none
  /-- Words that are accepted and have no effect. -/
  extra : List String := []
  deriving DecidableEq, Repr

inductive Command.Refusal where
  | unknownCommand (line : String)
  | unknownVerb (word : String)
  | missingResource (verb : Verb)
  | unknownResource (word : String)
  | missingFlagValue
  | missingKind (verb : Verb)
  | missingName (verb : Verb)
  | notFound (kind : Kind) (name : String)
  | ambiguous (kind : Kind) (name : String) (homes : List String)
  deriving DecidableEq, Repr

namespace Command.Refusal

def message : Refusal → String
  | unknownCommand line => s!"Command not found: {line}. Type \"help\" for available commands."
  | unknownVerb word =>
    s!"Error: unknown kubectl command \"{word}\". Use \"help\" for available commands."
  | missingResource verb =>
    s!"error: you must specify the type of resource to {verb.text}. " ++
      "Use \"help\" for available commands."
  | unknownResource word => s!"Error: unknown resource type \"{word}\"."
  | missingFlagValue => "error: flag needs an argument: 'n' in -n"
  | missingKind verb => s!"Error: {verb.text} requires a resource type."
  | missingName verb => s!"Error: resource name is required for {verb.text} command."
  | notFound kind name =>
    s!"Error from server (NotFound): {kind.plural}{kind.group} \"{name}\" not found"
  | ambiguous kind name homes =>
    let found := ", ".intercalate homes
    s!"Error: {kind.plural}{kind.group} \"{name}\" is ambiguous: " ++
      s!"found in namespaces {found}. Use -n <namespace> to select one."

/-- What is noted when a command is refused. -/
def diagnostics : Refusal → List Diagnostic
  | unknownCommand line => [⟨.debug, "Rejected line: " ++ Text.quoted line⟩]
  | ambiguous kind name homes =>
    let found := ", ".intercalate homes
    [⟨.warning, s!"Ambiguous {kind.singular} {Text.quoted name} found in: {found}"⟩]
  | _ => []

end Command.Refusal

end ClusterInspector
