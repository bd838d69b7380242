import ClusterInspector.Proofs.Guests
import ClusterInspector.Proofs.Rounds
import ClusterInspector.Proofs.Visits

/-!
# What a visit registers

At every place of a visit the session is one that would be there without the visit, in which the same
lines were submitted, with a browser and a screen as guests. Which of them there are is told by the
place; when the visit stops, both have left.
-/
namespace ClusterInspector

namespace Place

/-- The browser that is open at a place. -/
def viewer? : Place → Option Viewer
  | .console viewer _ => viewer
  | .actions v | .rows v | .filter v => some v

/-- The screen that is open at a place. -/
def screen? : Place → Option Handle
  | .console _ screen => some screen
  | .actions _ | .rows _ | .filter _ => none

end Place

/-- A filter that was given as a text can be looked for in every name. -/
theorem Viewer.obstacle?_of_text (v : Viewer) (c : Cluster) (text : v.plainFilter = none) :
    v.obstacle? c = none := by
  unfold obstacle?
  rw [text]
  exact ite_self _

/-- The browser is the one with the registration, and its filter was given as a text. -/
structure Viewer.IsGuest (browser : Handle) (s : Store) (v : Viewer) : Prop where
  handle : v.browser.handle = browser
  text : v.plainFilter = none
  issued : s.watchers.issued[browser]? = some (.browser browser)

namespace Viewer.IsGuest

variable {browser : Handle} {s : Store} {v : Viewer}

theorem act (guest : v.IsGuest browser s) (c : Cluster) (a : Browser.Action) :
    (v.act c a).IsGuest browser s where
  handle := (Browser.handle_act v.browser c a).trans guest.handle
  text := by
    cases a with
    | filter t => rfl
    | clear => rfl
    | _ => exact guest.text
  issued := guest.issued

end Viewer.IsGuest

theorem Browser.handle_observe (b : Browser) (c : Cluster) (events : List Event) :
    (b.observe c events).handle = b.handle := by
  induction events generalizing b with
  | nil => rfl
  | cons event rest ih =>
    cases event with
    | diagnostic d => exact ih b
    | entryAdded w e => exact ih b
    | namespaceGone w name =>
      rw [observe, ih]
      split
      · exact b.handle_notice c name
      · rfl

namespace Viewer.IsGuest

variable {browser : Handle} {s : Store} {v : Viewer}

theorem observe (guest : v.IsGuest browser s) (c : Cluster) (events : List Event) :
    (v.observe c events).IsGuest browser s where
  handle := (v.browser.handle_observe c events).trans guest.handle
  text := guest.text
  issued := guest.issued

theorem noticeObstacle? (guest : v.IsGuest browser s) (c : Cluster) (events : List Event) :
    v.noticeObstacle? c events = none := by
  unfold Viewer.noticeObstacle?
  rw [Viewer.obstacle?_of_text _ c (guest.observe c events).text]
  exact ite_self _

end Viewer.IsGuest

/-- At the place the session is the host with what is open there as guests. -/
structure Lodges (browser : Handle) (host s : Session) (place : Place) : Prop where
  houses : host.Houses browser place.viewer?.toList.length place.screen?.toList.length s
  viewer : ∀ v ∈ place.viewer?, v.IsGuest browser s.store
  screen : ∀ h ∈ place.screen?, s.log.watchers.issued[h]? = some .screen

/-- Where a turn asks, its session is the host with guests; where it stops they have left. -/
def Turn.IsHoused (browser : Handle) (host : Session) (t : Turn) : Prop :=
  match t.next with
  | .ask place => Lodges browser host t.session place
  | .stop _ => host.Houses browser 0 0 t.session

theorem Store.Houses.close {s s' : Store} (b : Browser) (houses : s.Houses b.handle 1 s')
    (own : s'.watchers.issued[b.handle]? = some (.browser b.handle)) :
    s.Houses b.handle 0 (b.close s') := by
  obtain ⟨r, gone, watchers⟩ := houses.watchers.leave b.handle own
  have closed : b.close s' = { s' with watchers := r } := by simp [Browser.close, Store.unwatch, gone]
  rw [closed]
  exact ⟨houses.cluster, watchers⟩

theorem Log.Houses.unwatch {l l' : Log} (houses : l.Houses 1 l') (h : Handle)
    (own : l'.watchers.issued[h]? = some .screen) :
    ∃ l'', l'.unwatch h = .ok l'' ∧ l.Houses 0 l'' := by
  obtain ⟨r, gone, watchers⟩ := houses.watchers.leave h own
  refine ⟨{ l' with watchers := r }, by simp [Log.unwatch, gone], ?_⟩
  exact ⟨houses.clock, houses.entries, watchers⟩

namespace Interaction

variable {browser : Handle} {host s : Session} {place : Place} {viewer : Option Viewer} {v : Viewer}
  {screen : Handle}

theorem leave_actions (lodges : Lodges browser host s (.actions v)) :
    host.Houses browser 0 0 (leave s (.actions v)) := by
  obtain ⟨rfl, _, issued⟩ := lodges.viewer v rfl
  exact { lodges.houses with store := Store.Houses.close v.browser lodges.houses.store issued }

/-- Without its screen the console is the browser's actions, or nothing. -/
theorem leave_screen (lodges : Lodges browser host s (.console viewer screen)) :
    host.Houses browser viewer.toList.length 0 (leave s (.console none screen)) := by
  obtain ⟨log, gone, left⟩ := lodges.houses.log.unwatch screen (lodges.screen screen rfl)
  have without : leave s (.console none screen) = { s with log } := by simp [leave, gone]
  rw [without]
  exact { lodges.houses with log := left }

theorem leave_lodges (lodges : Lodges browser host s place) :
    host.Houses browser 0 0 (leave s place) := by
  cases place with
  | console viewer screen =>
    have left := leave_screen lodges
    cases viewer with
    | none => exact left
    | some v =>
      have still : Lodges browser host (leave s (.console none screen)) (.actions v) :=
        ⟨left, lodges.viewer, nofun⟩
      exact leave_actions still
  | actions v => exact leave_actions lodges
  | rows v => exact leave_actions ⟨lodges.houses, lodges.viewer, nofun⟩
  | filter v => exact leave_actions ⟨lodges.houses, lodges.viewer, nofun⟩

variable (f : Facilities)

/-- The screen is the last to be registered. -/
theorem openConsole_isHoused (houses : host.Houses browser viewer.toList.length 0 s)
    (guests : ∀ v ∈ viewer, v.IsGuest browser s.store)
    (apart : host.log.IsApart (openConsole s viewer).session.log) :
    (openConsole s viewer).IsHoused browser host where
  houses := by
    refine { houses with log := { houses.log with watchers := houses.log.watchers.register ?_ } }
    intro w member cancelled
    have longer : host.log.watchers.issued.length ≤ s.log.watchers.issued.length :=
      houses.log.watchers.issued.length_le
    have registered : (openConsole s viewer).session.log.watchers.issued.length =
        s.log.watchers.issued.length + 1 := List.length_append
    rcases apart w member s.log.watchers.issued.length cancelled with known | unknown
    · exact absurd longer (Nat.not_le.mpr known)
    · rw [registered] at unknown
      exact absurd unknown (Nat.not_succ_le_self _)
  viewer := guests
  screen := by
    rintro h ⟨⟩
    exact List.getElem?_concat_length

theorem lodges_submit (lodges : Lodges browser host s (.console viewer screen)) (line : String) :
    Lodges browser (host.submit line).state (s.submit line).state
      (.console (viewer.map (·.observe (s.submit line).state.store.cluster (s.submit line).events))
        screen) := by
  obtain ⟨_, still⟩ := lodges.houses.submit line
  have handles := s.sharesHandles_submit line
  refine ⟨?_, ?_, ?_⟩
  · cases viewer <;> exact still
  · intro v' here
    obtain ⟨v, was, rfl⟩ := Option.map_eq_some_iff.mp here
    have guest := (lodges.viewer v was).observe (s.submit line).state.store.cluster
      (s.submit line).events
    exact { guest with issued := by rw [handles.store]; exact guest.issued }
  · intro h here
    rw [handles.log]
    exact lodges.screen h here

/-- A browser whose filter is a text can always take notice of a deletion. -/
theorem submit_eq (lodges : Lodges browser host s (.console viewer screen)) (line : String) :
    submit s viewer screen line =
      let step := s.submit line
      let outputs := step.events.filterMap eventOutput?
      let place := .console (viewer.map (·.observe step.state.store.cluster step.events)) screen
      match step.result with
      | .ok () =>
        { session := step.state, outputs := outputs ++ [.ask linePrompt], next := .ask place }
      | .error fault => { stop step.state place (.failed (.fault fault)) with outputs } := by
  have unhindered : (viewer.bind fun v => v.noticeObstacle? (s.respond line).state.store.cluster
      (s.respond line).events) = none := by
    cases viewer with
    | none => rfl
    | some v => exact (lodges.viewer v rfl).noticeObstacle? _ _
  unfold submit
  dsimp only
  rewrite [unhindered]
  rfl

end Interaction

end ClusterInspector
