import ClusterInspector.Proofs.Generated
import ClusterInspector.Proofs.Run
import ClusterInspector.Proofs.Transcript

/-!
# Sessions that never fail

A line fails only at a record that meets a limit of arithmetic, and lines only take records away. So
a session whose records are all within limits answers whatever is submitted, for as long as it goes
on. A generated cluster is within limits once a month of the calendar has passed: no age in it is of
thirty-one days, and its numbers are small.
-/
namespace ClusterInspector

/-- Every record can be listed and reported on. -/
def Cluster.IsWithinLimits (c : Cluster) (now : Nat) : Prop :=
  ∀ k, ∀ r ∈ c.records k, Listing.isWritable r = true ∧ Report.IsDescribable now r

theorem Cluster.Pruned.isWithinLimits {before after : Cluster} (pruned : before.Pruned after)
    {now : Nat} (within : before.IsWithinLimits now) : after.IsWithinLimits now :=
  fun k r member => within k r ((pruned.records_sublist k).subset member)

namespace Console

theorem not_lineMeetsLimit {now : Nat} {c : Cluster} (within : c.IsWithinLimits now)
    (line : String) : ¬ LineMeetsLimit now c line := by
  rintro ⟨cmd, _, limit⟩
  cases limit with
  | listing k r _ _ listed unwritable =>
    obtain ⟨held, _⟩ := Cluster.mem_select.mp listed
    rw [(within k r held).1] at unwritable
    cases unwritable
  | report k r _ found refused =>
    obtain ⟨_, name, _, _, resolved⟩ := (target_eq_ok_iff c cmd k r).mp found
    obtain ⟨held, _⟩ := resolve_mem c k name cmd.scope r resolved
    exact refused (within k r held).2

theorem storeAfter_pruned (now : Nat) (s : Store) (lines : List String) :
    s.cluster.Pruned (storeAfter now s lines).cluster := by
  induction lines generalizing s with
  | nil => exact .refl
  | cons line rest ih => exact (answerLine_pruned now s line).trans (ih _)

theorem isQuiet_storeAfter (now : Nat) (s : Store) (lines : List String) (quiet : s.IsQuiet) :
    (storeAfter now s lines).IsQuiet := by
  induction lines generalizing s with
  | nil => exact quiet
  | cons line rest ih => exact ih _ (isQuiet_answerLine now s line quiet)

end Console

namespace Session

/-- No record that the session holds meets a limit, and no watcher raises a fault. -/
structure IsUnfailing (s : Session) : Prop where
  within : s.store.cluster.IsWithinLimits s.now
  quietStore : s.store.IsQuiet
  quietLog : s.log.IsQuiet

theorem IsUnfailing.run {s : Session} (unfailing : s.IsUnfailing) (ops : List Operation) :
    (s.run ops).IsUnfailing := by
  have continues := s.run_continues ops unfailing.quietLog
  exact {
    within := by
      rw [continues.store, continues.now]
      exact (Console.storeAfter_pruned s.now s.store (linesOf ops)).isWithinLimits unfailing.within
    quietStore := by
      rw [continues.store]
      exact Console.isQuiet_storeAfter s.now s.store (linesOf ops) unfailing.quietStore
    quietLog := continues.quiet }

theorem IsUnfailing.answers {s : Session} (unfailing : s.IsUnfailing) (line : String)
    (written : isBlank line = false) :
    (s.submit line).result = .ok () ∧
    ∃ echo answer : Entry, (s.submit line).state.log.entries = s.log.entries ++ [echo, answer] ∧
      echo.role = .command ∧ echo.content = s!"$ {line}" ∧ answer.role ≠ .command := by
  have free := Console.not_lineMeetsLimit unfailing.within line
  obtain ⟨reply, replied⟩ :=
    (Console.answerLine_succeeds_iff s.now s.store line unfailing.quietStore).mpr free
  obtain ⟨echo, answer, echoes, content, answers, _, ok, entries⟩ :=
    submit_of_reply s line reply written unfailing.quietLog replied
  refine ⟨ok, echo, answer, entries, echoes, content, ?_⟩
  rw [answers]
  cases reply.isError <;> decide

end Session

/-- The beginning of the second month of year 1. -/
def firstFebruary : Nat := (⟨⟨1, 2, 1⟩, 0, 0, 0⟩ : Calendar.DateTime).toSeconds

theorem Age.kept_le_firstFebruary {days hours minutes : Nat} (fewDays : days ≤ Generator.maxAgeDays)
    (fewHours : hours ≤ 23) (fewMinutes : minutes ≤ 59) :
    kept days hours minutes ≤ firstFebruary := by
  have month : firstFebruary = 31 * 86400 := by decide
  rw [month, kept]
  simp only [Generator.maxAgeDays] at fewDays
  split <;> omega

theorem IsRecent.reachesBack {age : String} (recent : IsRecent age) {now : Nat}
    (late : firstFebruary ≤ now) : Age.ReachesBack now age := by
  obtain ⟨days, hours, minutes, fewDays, fewHours, fewMinutes, _, read⟩ := recent
  obtain ⟨readable, short, total⟩ := (Age.read_eq_ok_iff age _).mp read
  refine ⟨readable, short, ?_⟩
  rw [total]
  exact Nat.le_trans (Age.kept_le_firstFebruary fewDays fewHours fewMinutes) late

namespace Kind.Record.IsCoherent

open Text.Numeral (isWritable_of_nine_digits)

variable {k : Kind} {r : k.Record}

theorem isWritable (coherent : r.IsCoherent) : Listing.isWritable r = true := by
  refine List.all_eq_true.mpr fun n listed => isWritable_of_nine_digits ?_
  cases k with
  | namespaces => cases listed
  | pods =>
    obtain rfl : n = r.restarts := by simpa [Listing.numbers] using listed
    have restarts := Pod.IsCoherent.restarts coherent
    omega
  | deployments =>
    obtain ⟨replicas, _, least, served, updated, _, most⟩ := Deployment.IsCoherent.ready coherent
    obtain rfl | rfl : n = r.upToDate ∨ n = r.available := by simpa [Listing.numbers] using listed
    · omega
    · omega
  | daemonsets =>
    obtain ⟨desired, current, upToDate, ready, available, _⟩ := coherent
    simp only [Generator.nodeCount] at desired
    obtain rfl | rfl | rfl | rfl | rfl : n = r.desired ∨ n = r.current ∨ n = r.ready ∨
        n = r.upToDate ∨ n = r.available := by simpa [Listing.numbers] using listed
    all_goals omega

theorem isDescribable (coherent : r.IsCoherent) {now : Nat} (late : firstFebruary ≤ now) :
    Report.IsDescribable now r := by
  cases k with
  | namespaces => exact trivial
  | pods =>
    have restarts := Pod.IsCoherent.restarts coherent
    exact ⟨(Pod.IsCoherent.age coherent).reachesBack late, isWritable_of_nine_digits (by omega)⟩
  | deployments =>
    obtain ⟨⟨replicas, ready, least, served, updated, _, most⟩, recent⟩ := coherent
    refine ⟨recent.reachesBack late, fun n written => isWritable_of_nine_digits ?_⟩
    simp only [ready, List.mem_cons, List.not_mem_nil, or_false] at written
    omega
  | daemonsets =>
    obtain ⟨desired, current, upToDate, ready, available, _⟩ := coherent
    simp only [Generator.nodeCount] at desired
    intro n written
    simp only [List.mem_cons, List.not_mem_nil, or_false] at written
    exact isWritable_of_nine_digits (by omega)

end Kind.Record.IsCoherent

theorem Cluster.IsCoherent.isWithinLimits {c : Cluster} (coherent : c.IsCoherent) {now : Nat}
    (late : firstFebruary ≤ now) : c.IsWithinLimits now := by
  intro k r held
  have each : r.IsCoherent := (coherent k).each r held
  exact ⟨each.isWritable, each.isDescribable late⟩

namespace Session

/-- A session over a generated cluster never fails, at any moment from the first of February of year 1
on, provided that no watcher does: whatever was submitted or looked up before, each text that is not
blank adds its echo and one answer to the log, and a blank one nothing. -/
theorem generated_never_fails {σ : Type} [Chance.Source σ] (source : σ) (store : Store)
    (generated : (Generator.cluster.run source).1 = .ok store.cluster) (quiet : store.IsQuiet)
    (watchers : Registry EntryWatcher) (quietLog : watchers.IsSound EntryWatcher.cancels)
    (clock : Clock) (now : Nat) (late : firstFebruary ≤ now) (greeting : Bool)
    (past : List Operation) (text : String) :
    let s := ((start store clock now greeting).watchedBy watchers).run past
    (s.submit text).result = .ok () ∧
    (isBlank text = true → (s.submit text).state = s) ∧
    (isBlank text = false → ∃ echo answer : Entry,
      (s.submit text).state.log.entries = s.log.entries ++ [echo, answer] ∧
      echo.role = .command ∧ echo.content = s!"$ {text}" ∧ answer.role ≠ .command) := by
  intro s
  have coherent : store.cluster.IsCoherent :=
    Generator.yields_cluster.of_ok source store.cluster generated
  have fresh : ((start store clock now greeting).watchedBy watchers).IsUnfailing :=
    { within := coherent.isWithinLimits late, quietStore := quiet, quietLog }
  have unfailing : s.IsUnfailing := fresh.run past
  cases blank : isBlank text with
  | true =>
    rw [submit_of_isBlank s text blank]
    exact ⟨rfl, fun _ => rfl, nofun⟩
  | false =>
    obtain ⟨ok, gained⟩ := unfailing.answers text blank
    exact ⟨ok, nofun, fun _ => gained⟩

/-- Of a pod that is a day old something can still be said on the first of February. -/
theorem generated_never_fails_rota :
    firstFebruary ≤ firstFebruary ∧ passerBy.IsSound EntryWatcher.cancels ∧
    ∃ c : Cluster, (Generator.cluster.run Generator.rota).1 = .ok c ∧ ({ cluster := c } : Store).IsQuiet ∧
      let s := ((start { cluster := c } { time := noon } firstFebruary).watchedBy passerBy).run
        [.submit "kubectl delete ns staging", .submit " ", .previous]
      (s.submit "kubectl describe po api-gateway-1002-103 -n default").result = .ok () ∧
      (s.submit "kubectl describe po api-gateway-1002-103 -n default").state.log.entries.length =
        s.log.entries.length + 2 := by
  obtain ⟨c, generated⟩ := succeeds_of_toBool (Generator.cluster.run Generator.rota).1 (by decide +kernel)
  have quiet : ({ cluster := c } : Store).IsQuiet := nofun
  refine ⟨Nat.le_refl _, passerBy_isSound, c, generated, quiet, ?_⟩
  intro s
  obtain ⟨ok, _, gained⟩ := generated_never_fails Generator.rota { cluster := c } generated quiet passerBy
    passerBy_isSound { time := noon } firstFebruary (Nat.le_refl _) true
    [.submit "kubectl delete ns staging", .submit " ", .previous]
    "kubectl describe po api-gateway-1002-103 -n default"
  obtain ⟨echo, answer, entries, _⟩ := gained rfl
  refine ⟨ok, ?_⟩
  rw [entries, List.length_append]
  rfl

end Session

end ClusterInspector
