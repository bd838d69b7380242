import ClusterInspector.Command.Basic
import ClusterInspector.Text.Blank

/-!
# Console lines

A line asks for help, or is `kubectl` with a verb, a resource, at most a name, and a namespace flag
with its value anywhere after `kubectl`. Words are separated by blanks; the one after `kubectl` is a
space. Words after the name have no effect, nor have those after `apply`.
-/
namespace ClusterInspector.Command

def helpWords : List String := ["help", "?"]

/-- How a line for the cluster begins. -/
def opening : String := "kubectl "

def namespaceFlag : String := "-n"

/-- The words but for the first namespace flag and its value, and that value. -/
def extractScope (words : List String) : Except Refusal (List String × Option String) :=
  match words.span (· ≠ namespaceFlag) with
  | (before, _ :: value :: after) => .ok (before ++ after, some value)
  | (_, [_]) => .error .missingFlagValue
  | (before, []) => .ok (before, none)

def verbOfWord? : String → Option Verb
  | "get" => some .get
  | "describe" => some .describe
  | "delete" => some .delete
  | "apply" => some .apply
  | _ => none

/-- The command that words make once the namespace flag is gone. -/
def ofPositional (words : List String) (scope : Option String) : Except Refusal Command :=
  match verbOfWord? (words.headD "") with
  | none => .error (.unknownVerb (words.headD ""))
  | some .apply => .ok { verb := .apply, scope, extra := words.tail }
  | some verb =>
    match words.tail with
    | [] => .error (.missingResource verb)
    | resource :: rest =>
      match Kind.ofWord? resource with
      | none => .error (.unknownResource resource)
      | some kind => .ok { verb, kind := some kind, name := rest.head?, scope }

/-- The command that the words after `kubectl` make. A leading `apply` takes all words as they
are, the namespace flag too. -/
def ofWords (words : List String) : Except Refusal Command :=
  match words with
  | "apply" :: extra => .ok { verb := .apply, extra }
  | _ =>
    match extractScope words with
    | .error e => .error e
    | .ok (positional, scope) => ofPositional positional scope

def ofLine (line : String) : Except Refusal Command :=
  let text := Text.trim Text.isBlank line.toList
  if String.ofList text ∈ helpWords then .ok { verb := .help }
  else if opening.toList.isPrefixOf text then
    ofWords ((Text.words (text.drop opening.length)).map String.ofList)
  else .error (.unknownCommand (String.ofList text))

end ClusterInspector.Command
