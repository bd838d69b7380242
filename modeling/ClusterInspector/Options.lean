import ClusterInspector.Doctor
import ClusterInspector.Text.Digit
import ClusterInspector.Text.Quoted

/-!
# Command-line options

Options come first; the first argument that is none begins the command words, and all that follows
belongs to them. A long option may be shortened as long as one option is meant, and take its value
after an equals sign or as the next argument; short options may be written together, also with an
equals sign after the first. Help and version act where they are met. Every argument up to `--` is
classified before any of them acts.
-/
namespace ClusterInspector

/-- What an option that takes a value is given. The separator is no value: after an equals sign it
leaves the option with nothing. -/
inductive Options.Value where
  | text (t : String)
  | nothing
  deriving DecidableEq, Repr

structure Options where
  seed : Option Options.Value := none
  logLevel : Option Options.Value := none
  terminal : Bool := false
  words : List String := []
  deriving DecidableEq, Repr

namespace Options

def separator : String := "--"

def Value.ofText (t : String) : Value := if t = separator then .nothing else .text t

def Value.text? : Value → Option String
  | text t => some t
  | nothing => none

inductive Flag where
  | help | version | seed | logLevel | terminal
  deriving DecidableEq, Repr

def Flag.spellings : Flag → List String
  | help => ["-h", "--help"]
  | version => ["-V", "--version"]
  | seed => ["--seed"]
  | logLevel => ["--log-level"]
  | terminal => ["--terminal"]

def Flag.takesValue : Flag → Bool
  | seed | logLevel => true
  | help | version | terminal => false

def Flag.name (f : Flag) : String := "/".intercalate f.spellings

/-- All spellings of all options. -/
def spelled : List (String × Flag) :=
  [Flag.help, .version, .seed, .logLevel, .terminal].flatMap fun f => f.spellings.map (·, f)

/-- An argument as classified. -/
inductive Argument where
  /-- An option, with the text written together with it, if there is any. -/
  | option (spelling : String) (flag : Flag) (attached : Option String)
  | unknown (text : String)
  | plain (text : String)
  | separator
  deriving DecidableEq, Repr

inductive Refusal where
  | ambiguous (text : String) (spellings : List String)
  | valueMissing (flag : Flag)
  | valueIgnored (flag : Flag) (value : String)
  | unrecognized (texts : List String)
  deriving DecidableEq, Repr

inductive Outcome where
  | run (o : Options)
  | show (text : String)
  | refuse (r : Refusal)
  deriving DecidableEq, Repr

def Refusal.message : Refusal → String
  | ambiguous text spellings =>
    let listed := ", ".intercalate spellings
    s!"ambiguous option: {text} could match " ++ listed
  | valueMissing flag => s!"argument {flag.name}: expected one argument"
  | valueIgnored flag value =>
    s!"argument {flag.name}: ignored explicit argument {Text.quoted value}"
  | unrecognized texts => "unrecognized arguments: " ++ " ".intercalate texts

/-- A text before its first equals sign, and the text after it if there is one. -/
def splitEquals (cs : List Char) : List Char × Option (List Char) :=
  let before := cs.takeWhile (· ≠ '=')
  (before, (cs.drop before.length).tail?)

/-- The options that a text may stand for, with what is attached to them: those it begins, where it
begins with two dashes, up to an equals sign; else the short option it begins with, and those it
begins. -/
def candidates (cs : List Char) : List (String × Flag × Option String) :=
  match cs with
  | '-' :: '-' :: _ =>
    let (stem, value) := splitEquals cs
    (spelled.filter fun o => stem.isPrefixOf o.1.toList).map fun o =>
      (o.1, o.2, value.map String.ofList)
  | _ =>
    spelled.filterMap fun o =>
      if o.1.toList = cs.take 2 then some (o.1, o.2, some (String.ofList (cs.drop 2)))
      else if cs.isPrefixOf o.1.toList then some (o.1, o.2, none)
      else none

/-- The form of a negative number, whole or with a point; one line end may follow. -/
def isNegativeNumber (cs : List Char) : Bool :=
  match cs with
  | '-' :: rest =>
    let body := if rest.getLast? = some '\n' then rest.dropLast else rest
    let fraction := (body.dropWhile Text.isDigit).drop 1
    !body.isEmpty && body.all Text.isDigit ||
      (body.dropWhile Text.isDigit).head? = some '.' && !fraction.isEmpty &&
        fraction.all Text.isDigit
  | _ => false

def classify (text : String) : Except Refusal Argument :=
  let cs := text.toList
  let (stem, value) := splitEquals cs
  if cs.head? ≠ some '-' then .ok (.plain text)
  else
    match spelled.lookup text, cs.tail with
    | some flag, _ => .ok (.option text flag none)
    | none, [] => .ok (.plain text)
    | none, _ =>
      match spelled.lookup (String.ofList stem), value with
      | some flag, some v => .ok (.option (String.ofList stem) flag (some (String.ofList v)))
      | _, _ =>
        match candidates cs with
        | [(spelling, flag, attached)] => .ok (.option spelling flag attached)
        | [] =>
          if isNegativeNumber cs || cs.contains ' ' then .ok (.plain text)
          else .ok (.unknown text)
        | several => .error (.ambiguous text (several.map (·.1)))

/-- Each argument with its class; after a separator all are plain. -/
def classifyAll : List String → Except Refusal (List (String × Argument))
  | [] => .ok []
  | text :: rest =>
    if text = separator then .ok ((text, .separator) :: rest.map fun t => (t, .plain t))
    else do
      let argument ← classify text
      let others ← classifyAll rest
      return (text, argument) :: others

def usage : String := "\n".intercalate [
  "usage: kubesim [-h] [-V] [--seed SEED] [--log-level LOG_LEVEL] [--terminal]",
  "               ...",
  ""]

def helpText : String := usage ++ "\n".intercalate [
  "",
  "Simulated Kubernetes cluster inspector.",
  "",
  "positional arguments:",
  "  command               'doctor', or a console line such as 'kubectl get pods",
  "                        -n default'.",
  "",
  "options:",
  "  -h, --help            show this help message and exit",
  "  -V, --version         show program's version number and exit",
  "  --seed SEED           Seed for the generated cluster (env: KUBESIM_SEED).",
  "  --log-level LOG_LEVEL",
  "                        Log level: DEBUG, INFO, WARNING, ERROR (env:",
  "                        KUBESIM_LOG_LEVEL).",
  "  --terminal            Start in the kubectl console instead of the browser.",
  ""]

def versionText : String := s!"kubesim {Doctor.version}\n"

/-- Checks what is written together with an option that takes no value: a letter that makes a short
option, and what is written together with that one, where the option is itself a short one. -/
def checkAttached (flag : Flag) (isShort : Bool) : List Char → Except Refusal Unit
  | [] => .error (.valueIgnored flag "")
  | c :: cs =>
    match if isShort then spelled.lookup (String.ofList ['-', c]) else none with
    | none => .error (.valueIgnored flag (String.ofList (c :: cs)))
    | some next => if cs.isEmpty then .ok () else checkAttached next true cs

def isShort (spelling : String) : Bool := spelling.toList[1]? ≠ some '-'

def setValue (o : Options) (flag : Flag) (value : String) : Options :=
  match flag with
  | .seed => { o with seed := some (.ofText value) }
  | .logLevel => { o with logLevel := some (.ofText value) }
  | .help | .version | .terminal => o

/-- Takes arguments in turn; unknown options are gathered and refused at the end. -/
def take (o : Options) (unknown : List String) : List (String × Argument) → Outcome
  | [] => finish o unknown
  | (text, .plain _) :: rest | (text, .separator) :: rest =>
    finish { o with words := text :: rest.map (·.1) } unknown
  | (text, .unknown _) :: rest => take o (unknown ++ [text]) rest
  | (_, .option spelling flag attached) :: rest =>
    match flag.takesValue, attached with
    | true, some value => take (o.setValue flag value) unknown rest
    | true, none =>
      match rest with
      | (_, .plain value) :: later => take (o.setValue flag value) unknown later
      | _ => .refuse (.valueMissing flag)
    | false, _ =>
      match attached.mapM fun t => checkAttached flag (isShort spelling) t.toList with
      | .error r => .refuse r
      | .ok _ =>
        match flag with
        | .help => .show helpText
        | .version => .show versionText
        | _ => take { o with terminal := true } unknown rest
where
  finish (o : Options) (unknown : List String) : Outcome :=
    if unknown.isEmpty then .run o else .refuse (.unrecognized unknown)

def parse (arguments : List String) : Outcome :=
  match classifyAll arguments with
  | .error r => .refuse r
  | .ok classified => take {} [] classified

end Options

end ClusterInspector
