import ClusterInspector.Proofs.Lodging
import ClusterInspector.Proofs.Showing

/-!
# The screen at the console

The console shows the log as it finds it, and then each entry that is added while it is open. The two
together are the log as it is when the visit stops: no entry is left out and none is shown twice, also
where the last line ends in a fault after its echo. The screen leaves with the visit.
-/
namespace ClusterInspector.Interaction

variable {f : Facilities} {host s : Session} {place : Place} {before : List Output}

/-- The console is open by itself, its screen is registered once, and all of the log has been shown. -/
structure Mirrors (host : Session) (shown : List Output) (s : Session) (place : Place) : Prop where
  alone : place.viewer? = none
  lodges : Lodges 0 host s place
  once : s.log.watchers.active.count .screen = place.screen?.toList.length
  entries : printed shown = s.log.entries.map entryOutput

/-- What holds of visits to the console from a session: along them the screen mirrors the log of the
session in which the same lines are submitted, and in the end it has done so and left. -/
def mirroring (first : Session) : Contract where
  during said shown s place := Mirrors (first.run (submissions said)) shown s place
  after said shown s _ := (first.run (submissions said)).Houses 0 0 0 s ∧
    printed shown = s.log.entries.map entryOutput

theorem Mirrors.leave (mirrors : Mirrors host before s place) :
    printed before = (leave s place).log.entries.map entryOutput := by
  rw [mirrors.entries, mirrors.lodges.houses.log.entries, (leave_lodges mirrors.lodges).log.entries]

/-- What a submission adds to the log is what it prints, and the screen stays registered. -/
theorem Mirrors.submit (quiet : host.log.IsQuiet)
    (spared : host.log.watchers.Spares EntryWatcher.cancels .screen) {screen : Handle}
    (mirrors : Mirrors host before s (.console none screen)) (line : String) :
    Mirrors (host.submit line).state (before ++ (s.submit line).events.filterMap eventOutput?)
      (s.submit line).state (.console none screen) := by
  have houses := mirrors.lodges.houses.log.watchers
  have spared' := houses.spares rfl spared
  obtain ⟨added, entries, prints⟩ := s.submit_shown line (houses.isSound rfl quiet) spared'
  rw [mirrors.once] at prints
  have each : shown (s.submit line).events = added.map entryOutput :=
    prints.trans List.map_eq_flatMap.symm
  have kept := s.submit_preserves (P := fun r _ =>
      r.Spares EntryWatcher.cancels .screen ∧ r.active.count .screen = 1) line
    (fun r _ ⟨spared, once⟩ =>
      ⟨r.spares_announce _ _ spared, (r.count_announce _ _ spared).trans once⟩)
    (fun _ _ still => still) ⟨spared', mirrors.once⟩
  refine ⟨rfl, lodges_submit mirrors.lodges line, kept.2, ?_⟩
  rw [printed_append, mirrors.entries, entries, List.map_append, ← each]
  rfl

/-- Every answer keeps the screen true to the log. -/
theorem mirroring_step (first : Session) (quiet : first.log.IsQuiet)
    (spared : first.log.watchers.Spares EntryWatcher.cancels .screen) (said : List (Place × Answer))
    (before : List Output) (s : Session) (place : Place) (a : Answer)
    (mirrors : Mirrors (first.run (submissions said)) before s place) :
    (mirroring first).Holds (said ++ [(place, a)]) before (answer f s place a) := by
  have quiet' := (first.run_continues (submissions said) quiet).quiet
  have spared' := first.run_preserves (P := fun r _ => r.Spares EntryWatcher.cancels .screen)
    (submissions said) (fun r _ spared => r.spares_announce _ _ spared) (fun _ _ still => still) spared
  have run : first.run (submissions (said ++ [(place, a)])) =
      (first.run (submissions said)).run (submissions [(place, a)]) := by
    rw [submissions_append, Session.run_append]
  unfold Contract.Holds mirroring
  dsimp only
  rw [run]
  cases place with
  | console viewer screen =>
    obtain rfl : viewer = none := mirrors.alone
    cases a with
    | text line =>
      have after := mirrors.submit quiet' spared' line
      rw [answer, submit_eq mirrors.lodges line]
      dsimp only
      cases (s.submit line).result with
      | ok _ =>
        refine ⟨rfl, after.lodges, after.once, ?_⟩
        rw [← List.append_assoc, printed_append, after.entries]
        exact List.append_nil _
      | error fault => exact ⟨leave_lodges after.lodges, after.leave⟩
    | _ =>
      refine ⟨leave_lodges mirrors.lodges, ?_⟩
      change printed (before ++ []) = _
      rw [List.append_nil]
      exact mirrors.leave
  | _ => cases mirrors.alone

theorem mirroring_begins (prompting : f.prompting = true) (quiet : host.log.IsQuiet)
    (absent : .screen ∉ host.log.watchers.active) :
    (mirroring host).Holds [] [] (enterConsole f host) := by
  have houses := Session.Houses.refl 0 host
  have housed : (openConsole host none).IsHoused 0 host :=
    openConsole_isHoused houses nofun (quiet.isApart _)
  have once : (host.log.watchers.register .screen).1.active.count .screen = 1 := by
    rw [Registry.register, List.count_append, List.count_eq_zero.mpr absent, List.count_singleton_self]
  unfold enterConsole
  rw [if_pos prompting]
  refine ⟨rfl, housed, once, ?_⟩
  change printed (host.log.entries.map entryOutput ++ [.ask linePrompt]) = _
  rw [printed_append, printed_entries]
  exact List.append_nil _

/-- The console shows the log, all of it, once. Whatever is answered, a visit to it comes to a stop, and
what was printed till then are the entries of the log in their order and styles, as the lines alone
would have made them. The watchers of the log are then those that the lines alone would have left: all
that there were before, but for what they cancel themselves when they are told. The screen must not be
registered already, and no watcher raise a fault or cancel it. -/
theorem console_shows_log (f : Facilities) (s : Session) (answers : List Answer)
    (prompting : f.prompting = true) (quiet : s.log.IsQuiet)
    (spared : s.log.watchers.Spares EntryWatcher.cancels .screen)
    (absent : .screen ∉ s.log.watchers.active) :
    let first := enterConsole f s
    let v := visit f first answers
    let alone := s.run (submissions (talk f first answers))
    (play f first (answers ++ [.cancelled, .cancelled])).next = .stop v.ending ∧
    List.Forall₂ Entry.IsShownBy v.session.log.entries (printed v.outputs) ∧
    v.session.log.entries = alone.log.entries ∧
    v.session.log.watchers.active = alone.log.watchers.active ∧
    ((∀ w ∈ s.log.watchers.active, w.cancels = none) →
      v.session.log.watchers.active = s.log.watchers.active) := by
  intro first v alone
  obtain ⟨houses, shows⟩ := (mirroring s).visit (fun _ => True)
    (fun said before t place a mirrors _ => mirroring_step s quiet spared said before t place a mirrors)
    first answers (mirroring_begins prompting quiet absent) (fun _ _ => trivial)
  have absent' : .screen ∉ alone.log.watchers.active := fun member =>
    absent ((s.run_sublist _).1.subset member)
  have active : v.session.log.watchers.active = alone.log.watchers.active :=
    houses.log.watchers.active_eq absent'
  refine ⟨visit_stops f first answers, ?_, houses.log.entries, active, ?_⟩
  · rw [shows]
    exact shownBy_entries _
  · intro harmless
    rw [active, s.run_log_watchers _ harmless]

/-- The crowded session with one who looks on and cancels nothing, after a first visit to the console. -/
def reopenedSession : Session :=
  let onlooker : EntryWatcher := .observer { id := "onlooker" }
  (visit {} (enterConsole {} (Session.crowdedSession.watchedBy
    { active := [onlooker], issued := [onlooker] })) [.text "kubectl delete po old"]).session

/-- The screen was registered before. What was shown then is shown again; then a line is refused, and the
last one ends in a fault, its echo the last that is shown. -/
theorem console_shows_log_reopened :
    let v := visit {} (enterConsole {} reopenedSession)
      [.text "kubectl delete po old", .text " \u3000", .text "kubectl describe po job", .text "help"]
    .screen ∈ reopenedSession.log.watchers.issued ∧
    v.ending = .failed (.fault .dateOutOfRange) ∧
    printed v.outputs = [.text Session.welcome, .text "$ kubectl delete po old" "bold green",
      .text "pod \"old\" deleted", .text "$ kubectl delete po old" "bold green",
      .text "Error from server (NotFound): pods \"old\" not found" "red",
      .text "$ kubectl describe po job" "bold green"] ∧
    List.Forall₂ Entry.IsShownBy v.session.log.entries (printed v.outputs) ∧
    v.session.log.watchers.active = reopenedSession.log.watchers.active := by
  intro v
  have onlooker : ∀ w ∈ reopenedSession.log.watchers.active, w.cancels = none := by
    decide +kernel
  have quiet : reopenedSession.log.IsQuiet := by
    intro w member h cancelled
    rw [onlooker w member] at cancelled
    cases cancelled
  have spared : reopenedSession.log.watchers.Spares EntryWatcher.cancels .screen := by
    intro w member h cancelled
    rw [onlooker w member] at cancelled
    cases cancelled
  obtain ⟨_, shows, _, _, same⟩ := console_shows_log {} reopenedSession
    [.text "kubectl delete po old", .text " \u3000", .text "kubectl describe po job", .text "help"]
    rfl quiet spared (by decide +kernel)
  exact ⟨by decide +kernel, by decide +kernel, by decide +kernel, shows, same onlooker⟩

end ClusterInspector.Interaction
