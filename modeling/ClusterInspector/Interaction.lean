import ClusterInspector.Session
import ClusterInspector.View

/-!
# Interaction

The browser and the console, one answer at a time. At each place the user is asked one thing; an
answer leads to output and to the next place, or ends the visit. The console shows the whole log
and then each new entry; it is opened by itself or from a browser, which it returns to. An answer of
the wrong type ends the visit where it is first used. However a visit ends, what it registered is
cancelled.
-/
namespace ClusterInspector

/-- A browser as it is visited. A filter given as a plain value is shown as its text, and can be
looked for in no name. -/
structure Viewer where
  browser : Browser
  /-- The filter, where it was given as a plain value. -/
  plainFilter : Option Scalar := none
  deriving DecidableEq, Repr

/-- Where the user is asked. -/
inductive Place where
  /-- The console, with its screen's registration, opened from a browser or by itself. -/
  | console (viewer : Option Viewer) (screen : Handle)
  | actions (viewer : Viewer)
  | rows (viewer : Viewer)
  | filter (viewer : Viewer)
  deriving DecidableEq, Repr

inductive Next where
  | ask (place : Place)
  | stop (ending : Ending)
  deriving DecidableEq, Repr

/-- What an answer leads to. -/
structure Turn where
  session : Session
  outputs : List Output := []
  next : Next
  deriving DecidableEq, Repr

/-- A visit from its beginning to its end. -/
structure Visit where
  session : Session
  outputs : List Output
  ending : Ending
  deriving DecidableEq, Repr

namespace Viewer

def act (v : Viewer) (c : Cluster) (a : Browser.Action) : Viewer where
  browser := v.browser.act c a
  plainFilter := match a with
    | .filter _ | .clear => none
    | .show _ | .next | .previous | .down | .up | .activate _ => v.plainFilter

/-- Filters by a plain value; one that stands for nothing is no filter. -/
def filterBy (v : Viewer) (c : Cluster) (value : Scalar) : Viewer :=
  if value.isNothing then v.act c (.filter "")
  else { browser := v.browser.act c (.filter value.text), plainFilter := some value }

/-- Why the rows cannot be looked at: there is a name in which a plain value is to be looked for.
Namespaces are not filtered. -/
def obstacle? (v : Viewer) (c : Cluster) : Option Failure :=
  let searches := v.browser.kind.isNamespaced &&
    !(c.select v.browser.kind v.browser.scope none).isEmpty
  if searches then v.plainFilter.map .filterNotText else none

def observe (v : Viewer) (c : Cluster) (events : List Event) : Viewer :=
  { v with browser := v.browser.observe c events }

/-- Events tell the browser that a namespace is gone. -/
def isTold (v : Viewer) (events : List Event) : Bool :=
  events.any fun
    | .namespaceGone watcher _ => v.browser.isOf watcher
    | .diagnostic _ | .entryAdded .. => false

/-- Why the browser cannot take notice of events: when it is told that a namespace is gone, it looks
at its rows. -/
def noticeObstacle? (v : Viewer) (c : Cluster) (events : List Event) : Option Failure :=
  if v.isTold events then (v.observe c events).obstacle? c else none

end Viewer

namespace Interaction

def entryStyle : EntryRole → Option String
  | .command => some "bold green"
  | .output => none
  | .error => some "red"

def entryOutput (e : Entry) : Output := .text e.content (entryStyle e.role)

/-- What an event shows: an entry on the screen, or a diagnostic. -/
def eventOutput? : Event → Option Output
  | .entryAdded .screen e => some (entryOutput e)
  | .diagnostic d => some (.diagnostic d)
  | .entryAdded (.observer _) _ | .namespaceGone .. => none

def linePrompt : Prompt := .text "$"

def filterPrompt : Prompt := .text "Filter:"

def actionPrompt : Prompt :=
  .select "Action:" [
    ("Next resource", .key "next"),
    ("Previous resource", .key "previous"),
    ("Select row…", .key "select"),
    ("Filter…", .key "filter"),
    ("Clear filter and namespace", .key "clear"),
    ("Open terminal", .key "terminal"),
    ("Quit", .key "quit")]

def rowPrompt (b : Browser) (c : Cluster) : Prompt :=
  .select "Select row:" ((b.rows c).mapIdx fun i r => (View.label r, .row i))

/-- Cancels what was registered to be at a place. -/
def leave (s : Session) : Place → Session
  | .console viewer screen =>
    let log := match s.log.unwatch screen with
      | .ok log => log
      | .error _ => s.log
    { s with log, store := (viewer.map (·.browser.close s.store)).getD s.store }
  | .actions v | .rows v | .filter v => { s with store := v.browser.close s.store }

def stop (s : Session) (place : Place) (ending : Ending) : Turn :=
  { session := leave s place, next := .stop ending }

/-- Shows a browser and asks for an action. -/
def browse (f : Facilities) (s : Session) (v : Viewer) : Turn :=
  match if f.styling then v.obstacle? s.store.cluster else none with
  | some failure => stop s (.actions v) (.failed failure)
  | none =>
    let view := View.display f v.browser s.store.cluster
    match view.ending? with
    | some ending => { stop s (.actions v) ending with outputs := view.outputs }
    | none =>
      { session := s, outputs := view.outputs ++ [.ask actionPrompt], next := .ask (.actions v) }

/-- Shows the log and asks for a line. -/
def openConsole (s : Session) (viewer : Option Viewer) : Turn :=
  let (log, screen) := s.log.watch .screen
  { session := { s with log }
    outputs := s.log.entries.map entryOutput ++ [.ask linePrompt]
    next := .ask (.console viewer screen) }

/-- Leaves the console for the browser it was opened from, or for good. -/
def closeConsole (f : Facilities) (s : Session) (viewer : Option Viewer) (screen : Handle) : Turn :=
  let s' := leave s (.console none screen)
  match viewer with
  | some v => browse f s' v
  | none => { session := s', next := .stop .quit }

/-- Submits a line. The browser that the console was opened from takes notice of deletions; where it
cannot, the visit ends before the answer to the line is logged. -/
def submit (s : Session) (viewer : Option Viewer) (screen : Handle) (line : String) : Turn :=
  let response := s.respond line
  match viewer.bind (·.noticeObstacle? response.state.store.cluster response.events) with
  | some failure =>
    { stop response.state (.console viewer screen) (.failed failure) with
      outputs := response.events.filterMap eventOutput? }
  | none =>
    let step := s.submit line
    let outputs := step.events.filterMap eventOutput?
    let place := .console (viewer.map (·.observe step.state.store.cluster step.events)) screen
    match step.result with
    | .ok () =>
      { session := step.state, outputs := outputs ++ [.ask linePrompt], next := .ask place }
    | .error fault => { stop step.state place (.failed (.fault fault)) with outputs }

def takeAction (f : Facilities) (s : Session) (v : Viewer) : String → Turn
  | "next" => browse f s (v.act s.store.cluster .next)
  | "previous" => browse f s (v.act s.store.cluster .previous)
  | "select" =>
    if (v.browser.rows s.store.cluster).isEmpty then browse f s v
    else
      { session := s
        outputs := [.ask (rowPrompt v.browser s.store.cluster)]
        next := .ask (.rows v) }
  | "filter" => { session := s, outputs := [.ask filterPrompt], next := .ask (.filter v) }
  | "clear" => browse f s (v.act s.store.cluster .clear)
  | "terminal" => openConsole s (some v)
  | "quit" => stop s (.actions v) .quit
  | _ => browse f s v

/-- What an answer at a place leads to. An unknown action does nothing. A line has to be a text and
a row a number; a plain value as a filter is found out when a name is searched. -/
def answer (f : Facilities) (s : Session) : Place → Answer → Turn
  | place, .interrupted => stop s place .interrupted
  | place, .failed message => stop s place (.failed (.promptBroken message))
  | .console viewer screen, .text line => submit s viewer screen line
  | .console viewer screen, .cancelled => closeConsole f s viewer screen
  | .console viewer screen, .scalar value =>
    stop s (.console viewer screen) (.failed (.lineNotText value))
  | .actions v, .text name => takeAction f s v name
  | .actions v, .cancelled => stop s (.actions v) .quit
  | .actions v, .scalar _ => browse f s v
  | .rows v, .scalar value => browse f s (v.act s.store.cluster (.activate value.toInt))
  | .rows v, .cancelled => browse f s v
  | .rows v, .text _ => stop s (.rows v) (.failed .rowNotNumber)
  | .filter v, .text t => browse f s (v.act s.store.cluster (.filter t))
  | .filter v, .cancelled => browse f s v
  | .filter v, .scalar value => browse f s (v.filterBy s.store.cluster value)

/-- The rest of a visit, for the answers given. -/
def follow (f : Facilities) : Turn → List Answer → Visit
  | ⟨session, outputs, .stop ending⟩, _ => ⟨session, outputs, ending⟩
  | ⟨session, outputs, .ask place⟩, [] => ⟨leave session place, outputs, .quit⟩
  | ⟨session, outputs, .ask place⟩, a :: rest =>
    let visit := follow f (answer f session place a) rest
    { visit with outputs := outputs ++ visit.outputs }

/-- A visit from its first turn. Once the answers are used up every prompt is cancelled: one
cancellation leads to a browser's actions at most, and a second quits. -/
def visit (f : Facilities) (first : Turn) (answers : List Answer) : Visit :=
  follow f first (answers ++ [.cancelled, .cancelled])

/-- The first turn at the console. -/
def enterConsole (f : Facilities) (s : Session) : Turn :=
  if f.prompting then openConsole s none
  else { session := s, next := .stop (.failed .promptsMissing) }

/-- The first turn at the browser. -/
def enterBrowser (f : Facilities) (s : Session) : Turn :=
  if f.prompting then
    let (store, b) := Browser.onto s.store
    browse f { s with store } { browser := b }
  else { session := s, next := .stop (.failed .promptsMissing) }

end Interaction

end ClusterInspector
