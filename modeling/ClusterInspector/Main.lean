import ClusterInspector.Painting
import ClusterInspector.Program
import Std.Time

/-!
# The command line

Reads the surroundings, shows what a run shows, and asks what it asks, until the run ends. The end
of the input cancels a prompt.
-/
namespace ClusterInspector.CommandLine

/-- Days from the beginning of year 1 to that of 1970. -/
def daysToEpoch : Nat := 719162

def currentTime : IO Calendar.DateTime := do
  let now ← Std.Time.Timestamp.now
  let seconds := now.toSecondsSinceUnixEpoch.val
  return .ofSeconds (seconds + daysToEpoch * Calendar.secondsPerDay).toNat

def entropy : IO Int := do
  let bytes ← IO.getRandomBytes 8
  return bytes.toList.foldl (fun n b => 256 * n + b.toNat) 0

/-- Nobody is asked about the machine, so every check of it finds nothing. -/
def unknownHost : Doctor.Host where
  interpreter := "unknown"
  major := 0
  minor := 0
  packages := []
  system := "unknown"
  release := "unknown"
  machine := "unknown"

def display (threshold : Nat) (outputs : List Output) : IO Unit := do
  for o in outputs do
    match o with
    | .diagnostic d => if d.weight.level ≥ threshold then IO.eprintln s!"{d.weight.text} {d.text}"
    | _ => IO.print (Painting.text o)
  (← IO.getStdout).flush

def lastPrompt? (outputs : List Output) : Option Prompt :=
  match outputs.getLast? with
  | some (.ask p) => some p
  | _ => none

def ask (p : Prompt) : IO Answer := do
  let line ← (← IO.getStdin).getLine
  if line.isEmpty then return .cancelled
  return Painting.answerOf p (line.dropEndWhile (fun c => c = '\n' || c = '\r')).toString

partial def converse (f : Facilities) (threshold : Nat) (turn : Turn) : IO Ending := do
  display threshold turn.outputs
  match turn.next with
  | .stop ending => return ending
  | .ask place =>
    let answer ← match lastPrompt? turn.outputs with
      | some p => ask p
      | none => pure .cancelled
    converse f threshold (Interaction.answer f turn.session place answer)

def run (setup : Setup) : IO UInt32 := do
  match Program.start setup with
  | .closed t =>
    IO.print t.stdout
    IO.eprint t.stderr
    return t.code.toUInt32
  | .staged threshold (.done p) =>
    display threshold p.outputs
    return p.code.number.toUInt32
  | .staged threshold (.visiting shown first seeds) =>
    display threshold shown
    let ending ← converse setup.facilities threshold first
    let rest := Program.conclude setup.facilities [] seeds ending
    display threshold rest.outputs
    return rest.code.number.toUInt32

def start (arguments : List String) : IO UInt32 := do
  run {
    arguments
    seedVariable := ← IO.getEnv "KUBESIM_SEED"
    levelVariable := ← IO.getEnv "KUBESIM_LOG_LEVEL"
    host := unknownHost
    now := ← currentTime
    origin := .generated (← entropy) }

end ClusterInspector.CommandLine

def main (arguments : List String) : IO UInt32 :=
  ClusterInspector.CommandLine.start arguments
