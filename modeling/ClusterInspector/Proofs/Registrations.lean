import ClusterInspector.Registry

/-!
# Rounds of notices

A round of notices stops early only at a watcher that cancels a handle never issued. Where every
watcher keeps to issued handles, each round tells all who were registered when it began. It leaves
everyone registered whom nobody who is told cancels.
-/
namespace ClusterInspector.Registry

variable {α : Type} [DecidableEq α] (cancels : α → Option Handle)

/-- Each watcher cancels a handle that was issued, or none. -/
def IsSound (r : Registry α) : Prop :=
  ∀ a ∈ r.active, ∀ h, cancels a = some h → h < r.issued.length

theorem cancel?_of_issued (r : Registry α) (h : Handle) (issued : h < r.issued.length) :
    ∃ r', r.cancel? h = some r' ∧ r'.issued = r.issued := by
  refine ⟨{ r with active := r.active.erase r.issued[h] }, ?_, rfl⟩
  simp [cancel?, List.getElem?_eq_getElem issued]

/-- The watchers of a round need not be registered any more when their turn comes; it is enough that
the handles they cancel were issued. -/
theorem unknown_tell (r : Registry α) (watchers : List α)
    (issued : ∀ a ∈ watchers, ∀ h, cancels a = some h → h < r.issued.length) :
    (tell cancels r watchers).unknown = none := by
  induction watchers generalizing r with
  | nil => rfl
  | cons a rest ih =>
    have others : ∀ b ∈ rest, ∀ h, cancels b = some h → h < r.issued.length := by
      intro b member
      exact issued b (List.mem_cons_of_mem _ member)
    cases cancelled : cancels a with
    | none =>
      simp only [tell, cancelled]
      exact ih r others
    | some h =>
      obtain ⟨r', removed, same⟩ :=
        cancel?_of_issued r h (issued a List.mem_cons_self h cancelled)
      simp only [tell, cancelled, removed]
      exact ih r' (by rw [same]; exact others)

/-- A round only drops registrations. -/
theorem tell_registry (r : Registry α) (watchers : List α) :
    (tell cancels r watchers).registry.active.Sublist r.active ∧
    (tell cancels r watchers).registry.issued = r.issued := by
  induction watchers generalizing r with
  | nil => exact ⟨List.Sublist.refl _, rfl⟩
  | cons a rest ih =>
    rw [tell]
    split
    · exact ih r
    · split
      · exact ⟨List.Sublist.refl _, rfl⟩
      · rename_i r' removed
        obtain ⟨active, issued⟩ := ih r'
        exact ⟨active.trans (active_cancel? removed), issued.trans (issued_cancel? removed)⟩

theorem isSound_announce (r : Registry α) (sound : r.IsSound cancels) :
    (announce cancels r).registry.IsSound cancels := by
  obtain ⟨active, issued⟩ := tell_registry cancels r r.active
  intro a member h cancelled
  rw [announce, issued]
  exact sound a (active.subset member) h cancelled

theorem unknown_announce (r : Registry α) (sound : r.IsSound cancels) :
    (announce cancels r).unknown = none :=
  unknown_tell cancels r r.active sound

/-- No registered watcher cancels a registration of the one in question. -/
def Spares (r : Registry α) (x : α) : Prop :=
  ∀ a ∈ r.active, ∀ h, cancels a = some h → r.issued[h]? ≠ some x

theorem count_tell (r : Registry α) (watchers : List α) (x : α)
    (spared : ∀ a ∈ watchers, ∀ h, cancels a = some h → r.issued[h]? ≠ some x) :
    (tell cancels r watchers).registry.active.count x = r.active.count x := by
  induction watchers generalizing r with
  | nil => rfl
  | cons a rest ih =>
    have others : ∀ b ∈ rest, ∀ h, cancels b = some h → r.issued[h]? ≠ some x := by
      intro b member
      exact spared b (List.mem_cons_of_mem _ member)
    rw [tell]
    split
    · exact ih r others
    · rename_i h cancelled
      split
      · rfl
      · rename_i r' removed
        have issued := issued_cancel? removed
        obtain ⟨y, dropped, rfl⟩ := Option.map_eq_some_iff.1 removed
        have different : x ≠ y := by
          rintro rfl
          exact spared a List.mem_cons_self h cancelled dropped
        exact (ih _ (by rw [issued]; exact others)).trans (List.count_erase_of_ne different)

theorem count_announce (r : Registry α) (x : α) (spared : r.Spares cancels x) :
    (announce cancels r).registry.active.count x = r.active.count x :=
  count_tell cancels r r.active x spared

theorem spares_announce (r : Registry α) (x : α) (spared : r.Spares cancels x) :
    (announce cancels r).registry.Spares cancels x := by
  obtain ⟨active, issued⟩ := tell_registry cancels r r.active
  intro a member h cancelled
  rw [announce, issued]
  exact spared a (active.subset member) h cancelled

theorem tell_harmless (r : Registry α) (watchers : List α)
    (harmless : ∀ a ∈ watchers, cancels a = none) : (tell cancels r watchers).registry = r := by
  induction watchers with
  | nil => rfl
  | cons a rest ih =>
    rw [tell, harmless a List.mem_cons_self]
    exact ih fun b member => harmless b (List.mem_cons_of_mem _ member)

/-- Where nobody cancels anything when told, a round changes nothing. -/
theorem announce_harmless (r : Registry α) (harmless : ∀ a ∈ r.active, cancels a = none) :
    (announce cancels r).registry = r :=
  tell_harmless cancels r r.active harmless

end ClusterInspector.Registry
