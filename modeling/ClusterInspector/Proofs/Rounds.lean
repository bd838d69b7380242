import ClusterInspector.Proofs.Notices
import ClusterInspector.Proofs.Transcript

/-!
# Lines and registrations

Whatever is submitted, registrations change only in rounds of notices, in which those who are told may
cancel others. No line issues a handle.
-/
namespace ClusterInspector

theorem Step.andThen_preserves {σ ε α β : Type} {P : σ → Prop} (step : Step σ ε α)
    (next : σ → α → Step σ ε β) (first : P step.state) (later : ∀ t a, P t → P (next t a).state) :
    P (step.andThen next).state := by
  cases ended : step.result with
  | error e =>
    rw [Step.andThen_of_error ended]
    exact first
  | ok a =>
    rw [Step.andThen_of_ok ended]
    exact later _ _ first

/-- A step leaves the registrations as they were or as a round leaves them. -/
theorem Store.delete_watchers (s : Store) (k : Kind) (name : String) (scope : Option String) :
    (s.delete k name scope).state.watchers = s.watchers ∨
    (s.delete k name scope).state.watchers =
      (s.watchers.announce NamespaceWatcher.cancels).registry := by
  rw [Store.delete_eq]
  cases s.cluster.find? k name scope with
  | none => exact Or.inl rfl
  | some target =>
    dsimp only
    split
    · exact Or.inl rfl
    · exact Or.inr rfl

theorem Console.answerLine_watchers (now : Nat) (s : Store) (line : String) :
    (answerLine now s line).state.watchers = s.watchers ∨
    (answerLine now s line).state.watchers =
      (s.watchers.announce NamespaceWatcher.cancels).registry := by
  have amounts := answerLine_amountsTo now s line
  generalize (Command.ofLine line).toOption.bind (deleted? s.cluster) = t at amounts
  cases amounts with
  | deletion r found state events =>
    rw [state]
    exact s.delete_watchers _ r.name r.home?
  | notes ds state events => exact Or.inl (by rw [state])

namespace Session

theorem answer_store (s : Session) (line : String) :
    (s.answer line).state.store = (Console.answerLine s.now s.store line).state := by
  rw [answer, Step.state_within]

section

variable {P : Registry EntryWatcher → Registry NamespaceWatcher → Prop} (s : Session) (line : String)
  (logs : ∀ r q, P r q → P (r.announce EntryWatcher.cancels).registry q)
  (stores : ∀ r q, P r q → P r (q.announce NamespaceWatcher.cancels).registry)
  (holds : P s.log.watchers s.store.watchers)

include logs stores holds

theorem respond_preserves :
    P (s.respond line).state.log.watchers (s.respond line).state.store.watchers := by
  refine Step.andThen_preserves (P := fun t : Session => P t.log.watchers t.store.watchers) _ _
    (logs s.log.watchers s.store.watchers holds) ?_
  intro t _ still
  rw [answer_log, answer_store]
  rcases Console.answerLine_watchers t.now t.store line with same | told
  · rw [same]
    exact still
  · rw [told]
    exact stores t.log.watchers t.store.watchers still

/-- What rounds keep of the registrations, a submission keeps. -/
theorem submit_preserves :
    P (s.submit line).state.log.watchers (s.submit line).state.store.watchers := by
  unfold submit
  split
  · exact holds
  · exact Step.andThen_preserves (P := fun t : Session => P t.log.watchers t.store.watchers) _ _
      (s.respond_preserves line logs stores holds)
      fun t _ still => logs t.log.watchers t.store.watchers still

end

/-- What rounds keep of the registrations holds after a run; looking through the history tells
nobody. -/
theorem run_preserves {P : Registry EntryWatcher → Registry NamespaceWatcher → Prop} (s : Session)
    (ops : List Operation)
    (logs : ∀ r q, P r q → P (r.announce EntryWatcher.cancels).registry q)
    (stores : ∀ r q, P r q → P r (q.announce NamespaceWatcher.cancels).registry)
    (holds : P s.log.watchers s.store.watchers) :
    P (s.run ops).log.watchers (s.run ops).store.watchers := by
  induction ops generalizing s with
  | nil => exact holds
  | cons op rest ih =>
    refine ih (s.perform op) ?_
    cases op with
    | submit line => exact s.submit_preserves line logs stores holds
    | previous => exact holds
    | next => exact holds

/-- The same handles have been issued in both sessions. -/
structure SharesHandles (s t : Session) : Prop where
  log : t.log.watchers.issued = s.log.watchers.issued
  store : t.store.watchers.issued = s.store.watchers.issued

theorem sharesHandles_run (s : Session) (ops : List Operation) : s.SharesHandles (s.run ops) := by
  obtain ⟨log, store⟩ := s.run_preserves (P := fun r q => r.issued = s.log.watchers.issued ∧
      q.issued = s.store.watchers.issued) ops
    (by
      rintro r _ ⟨log, store⟩
      exact ⟨(Registry.tell_registry _ r r.active).2.trans log, store⟩)
    (by
      rintro _ q ⟨log, store⟩
      exact ⟨log, (Registry.tell_registry _ q q.active).2.trans store⟩)
    ⟨rfl, rfl⟩
  exact ⟨log, store⟩

theorem sharesHandles_submit (s : Session) (line : String) :
    s.SharesHandles (s.submit line).state :=
  s.sharesHandles_run [.submit line]

/-- A run registers nobody. -/
theorem run_sublist (s : Session) (ops : List Operation) :
    (s.run ops).log.watchers.active.Sublist s.log.watchers.active ∧
    (s.run ops).store.watchers.active.Sublist s.store.watchers.active := by
  refine s.run_preserves (P := fun r q => r.active.Sublist s.log.watchers.active ∧
    q.active.Sublist s.store.watchers.active) ops ?_ ?_ ⟨List.Sublist.refl _, List.Sublist.refl _⟩
  · rintro r _ ⟨log, store⟩
    exact ⟨(Registry.tell_registry _ r r.active).1.trans log, store⟩
  · rintro _ q ⟨log, store⟩
    exact ⟨log, (Registry.tell_registry _ q q.active).1.trans store⟩

/-- Where nobody who is told cancels anything, everyone is still registered after a run. -/
theorem run_log_watchers (s : Session) (ops : List Operation)
    (harmless : ∀ w ∈ s.log.watchers.active, w.cancels = none) :
    (s.run ops).log.watchers = s.log.watchers := by
  refine s.run_preserves (P := fun r _ => r = s.log.watchers) ops ?_ (fun _ _ same => same) rfl
  rintro _ _ rfl
  exact Registry.announce_harmless _ _ harmless

end Session

end ClusterInspector
