import ClusterInspector.Generator
import ClusterInspector.Interaction
import ClusterInspector.LogLevel
import ClusterInspector.Options
import ClusterInspector.Chance.Twister

/-!
# The program

One run of the program, from its arguments and surroundings to its output and exit code: the
doctor's checks, one console line, or a visit to the browser or the console. Every failure is
reported at this one place, except that of a report itself.
-/
namespace ClusterInspector

/-- Where the cluster comes from. -/
inductive Origin where
  | given (c : Cluster)
  /-- Drawn from the seed asked for, or else from this one. -/
  | generated (entropy : Int)
  deriving DecidableEq, Repr

/-- What a run begins with. -/
structure Setup where
  arguments : List String
  seedVariable : Option String := none
  levelVariable : Option String := none
  facilities : Facilities := {}
  host : Doctor.Host
  now : Calendar.DateTime
  origin : Origin
  answers : List Answer := []

inductive ExitCode where
  | success
  | generalError
  | unexpectedError
  | keyboardInterrupt
  /-- Of a failure that nothing catches. -/
  | uncaught
  deriving DecidableEq, Repr

def ExitCode.number : ExitCode → Nat
  | success => 0
  | generalError | uncaught => 1
  | unexpectedError => 2
  | keyboardInterrupt => 130

/-- What a run leaves behind. -/
structure Transcript where
  code : Nat
  stdout : String := ""
  stderr : String := ""
  /-- What was shown by other means than plain text. -/
  outputs : List Output := []
  /-- The seeds that clusters were asked for with. -/
  seeds : List (Option Int) := []
  deriving DecidableEq, Repr

namespace Program

/-- The seed asked for: the option's, else the variable's. An empty text asks for none. -/
def chooseSeed (option : Option Options.Value) (setting : Option String) :
    Except Failure (Option Int) :=
  match option.or (setting.map .text) with
  | none | some (.text "") => .ok none
  | some .nothing => .error .seedMissing
  | some (.text text) =>
    match Text.Numeral.read? text with
    | some n => .ok (some n)
    | none => .error (.invalidSeed text)

/-- What one line shows, and the exit code unless it fails. -/
structure Part where
  outputs : List Output
  result : Except Failure ExitCode

/-- The cluster that a run starts from, and what is noted while it is made. -/
def load (seed : Option Int) : Origin → List Diagnostic × Except Failure Cluster
  | .given c => ([Store.loaded c], .ok c)
  | .generated entropy =>
    let text := (seed.map toString).getD "None"
    let noted : Diagnostic := ⟨.debug, s!"Generating cluster (seed={text})"⟩
    match (Generator.cluster.run (Chance.Twister.ofSeed (seed.getD entropy))).1 with
    | .ok c => ([noted, Store.loaded c], .ok c)
    | .error f => ([noted], .error f)

/-- Runs one line and shows its answer. -/
def runLine (s : Session) (line : String) : Part :=
  let step := s.submit line
  let noted := step.events.filterMap Interaction.eventOutput?
  match step.result with
  | .error f => { outputs := noted, result := .error (.fault f) }
  | .ok () =>
    let added := (step.state.log.entries.drop s.log.entries.length).filter (·.role ≠ .command)
    { outputs := noted ++ added.map Interaction.entryOutput
      result := .ok (if added.any (·.role = .error) then .generalError else .success) }

/-- How what nobody expects is reported. -/
def unexpected (report : String) : List Output × ExitCode :=
  ([.diagnostic ⟨.debug, "Unexpected error"⟩,
    .markup ["[bold red]Unexpected error.[/bold red] Please report this issue.\n" ++ s!"  {report}"]],
    .unexpectedError)

/-- How a failure is reported. -/
def reportFailure (f : Failure) : List Output × ExitCode :=
  match f.explanation? with
  | some e =>
    (.markup [s!"[bold red]Error:[/bold red] {e.message}"] ::
      (e.hint.map fun hint => Output.markup [s!"[yellow]Hint:[/yellow] {hint}"]).toList,
      .generalError)
  | none => unexpected f.report

def aborted : Output := .markup ["\n[yellow]Aborted by user.[/yellow]"]

/-- What a run ends with. -/
def closing : Ending → List Output × ExitCode
  | .quit => ([], .success)
  | .interrupted => ([aborted], .keyboardInterrupt)
  | .failed f => reportFailure f
  | .refused complaint => unexpected s!"MarkupError: {complaint}"

/-- What a run shows in order, its exit code, and the seeds. -/
structure Performance where
  outputs : List Output
  code : ExitCode
  seeds : List (Option Int) := []

/-- Shows what a run ends with. Nothing catches it where a part of that is refused in turn. -/
def conclude (f : Facilities) (shown : List Output) (seeds : List (Option Int)) (ending : Ending) :
    Performance :=
  let (outputs, code) := closing ending
  let (last, complaint?) := f.paint outputs
  { outputs := shown ++ last, code := if complaint?.isSome then .uncaught else code, seeds }

/-- What a run has come to when it first needs the user, or at its end. -/
inductive Stage where
  | done (p : Performance)
  | visiting (shown : List Output) (first : Turn) (seeds : List (Option Int))

/-- A run on a cluster: one line, or a visit where there are no words. -/
def stageOn (setup : Setup) (o : Options) (seed : Option Int) : Stage :=
  let (diagnostics, loaded) := load seed setup.origin
  let noted := diagnostics.map .diagnostic
  let seeds := [seed]
  match loaded with
  | .error f => .done (conclude setup.facilities noted seeds (.failed f))
  | .ok cluster =>
    let now := setup.now.toSeconds
    let session := Session.start { cluster } { time := now } now
    if o.words.isEmpty then
      let enter := if o.terminal then Interaction.enterConsole else Interaction.enterBrowser
      .visiting noted (enter setup.facilities session) seeds
    else
      let part := runLine session (" ".intercalate o.words)
      match part.result with
      | .ok code => .done { outputs := noted ++ part.outputs, code, seeds }
      | .error f => .done (conclude setup.facilities (noted ++ part.outputs) seeds (.failed f))

def stage (setup : Setup) (o : Options) : Stage :=
  match chooseSeed o.seed setup.seedVariable with
  | .error f => .done (conclude setup.facilities [] [] (.failed f))
  | .ok seed =>
    if o.words = ["doctor"] then
      let checks := Doctor.checks setup.host
      match setup.facilities.paint (Doctor.outputs setup.facilities.styling checks) with
      | (shown, some complaint) => .done (conclude setup.facilities shown [] (.refused complaint))
      | (shown, none) =>
        .done {
          outputs := shown
          code := if Doctor.failed checks then .generalError else .success }
    else stageOn setup o seed

/-- The stage played to its end with the answers given. -/
def Stage.perform (facilities : Facilities) (answers : List Answer) : Stage → Performance
  | .done p => p
  | .visiting shown first seeds =>
    let visit := Interaction.visit facilities first answers
    conclude facilities (shown ++ visit.outputs) seeds visit.ending

def isLogged (threshold : Nat) : Output → Bool
  | .diagnostic d => d.weight.level ≥ threshold
  | .markup _ | .text .. | .table _ | .ask _ => true

/-- Sends outputs where they can be shown. -/
def present (f : Facilities) (threshold : Nat) (p : Performance) : Transcript :=
  let outputs := p.outputs.filter (isLogged threshold)
  if f.styling then { code := p.code.number, outputs, seeds := p.seeds }
  else
    { code := p.code.number
      stdout := String.join (outputs.map (·.plain))
      stderr := String.join (outputs.map (·.plainError))
      outputs := outputs.filter (·.isPrompt)
      seeds := p.seeds }

/-- What the arguments lead to: an end at once, or a stage and the least level that is logged. -/
inductive Opening where
  | closed (t : Transcript)
  | staged (threshold : Nat) (s : Stage)

/-- Refused arguments end a run with exit code 2, before anything else is looked at. -/
def start (setup : Setup) : Opening :=
  match Options.parse setup.arguments with
  | .show text => .closed { code := ExitCode.success.number, stdout := text }
  | .refuse r =>
    .closed { code := 2, stderr := Options.usage ++ s!"kubesim: error: {r.message}\n" }
  | .run o =>
    match LogLevel.choose (o.logLevel.bind (·.text?)) setup.levelVariable with
    | .error f =>
      .staged Weight.warning.level (.done (conclude setup.facilities [] [] (.failed f)))
    | .ok threshold => .staged threshold (stage setup o)

def run (setup : Setup) : Transcript :=
  match start setup with
  | .closed t => t
  | .staged threshold s =>
    present setup.facilities threshold (s.perform setup.facilities setup.answers)

end Program

end ClusterInspector
