import ClusterInspector.Calendar
import ClusterInspector.Event
import ClusterInspector.Fault

/-!
# The output log

Entries in the order they were made, each with the time of day that the clock showed, and those who
want to know of each new one. An entry is in the log before anyone is told.
-/
namespace ClusterInspector

/-- A clock that moves on by one tick with each reading, in seconds of the calendar. -/
structure Clock where
  time : Int
  tick : Int := 0
  deriving DecidableEq, Repr

def Clock.read (c : Clock) : Calendar.DateTime × Clock :=
  (.ofSeconds c.time.toNat, { c with time := c.time + c.tick })

structure Log where
  clock : Clock
  entries : List Entry := []
  watchers : Registry EntryWatcher := {}
  deriving DecidableEq, Repr

namespace Log

/-- Adds an entry and tells the watchers; one that names an unknown handle ends the step, and the
entry stands. -/
def append (l : Log) (role : EntryRole) (content : String) : Step Log Fault Entry :=
  let (time, clock) := l.clock.read
  let entry : Entry := ⟨role, content, time.clockText⟩
  let round := l.watchers.announce EntryWatcher.cancels
  { state := { clock, entries := l.entries ++ [entry], watchers := round.registry }
    events := round.told.map (.entryAdded · entry)
    result := match round.unknown with
      | none => .ok entry
      | some h => .error (.noSuchHandle h) }

def watch (l : Log) (who : EntryWatcher) : Log × Handle :=
  let (watchers, handle) := l.watchers.register who
  ({ l with watchers }, handle)

def unwatch (l : Log) (h : Handle) : Except Fault Log :=
  match l.watchers.cancel? h with
  | some watchers => .ok { l with watchers }
  | none => .error (.noSuchHandle h)

end Log

end ClusterInspector
