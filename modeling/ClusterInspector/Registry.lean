/-!
# Registrations

Who is told of an event, in order of registration. Each registration is issued a handle, the count
of registrations before it. Cancelling a handle drops the first registration that equals the one
the handle was issued for, if there is one: a watcher registered twice leaves once at a time, from
the front, and cancelling a handle again can drop its twin.
-/
namespace ClusterInspector

abbrev Handle := Nat

structure Registry (α : Type) where
  active : List α := []
  /-- The watcher behind each handle. -/
  issued : List α := []
  deriving DecidableEq, Repr

/-- How a round of notices went. -/
structure Round (α : Type) where
  registry : Registry α
  /-- Those told, in order. -/
  told : List α := []
  /-- The handle that stopped the round, if one did. -/
  unknown : Option Handle := none
  deriving DecidableEq, Repr

namespace Registry

variable {α : Type}

def register (r : Registry α) (a : α) : Registry α × Handle :=
  (⟨r.active ++ [a], r.issued ++ [a]⟩, r.issued.length)

/-- Refused only for a handle that was never issued. -/
def cancel? [DecidableEq α] (r : Registry α) (h : Handle) : Option (Registry α) :=
  r.issued[h]?.map fun a => { r with active := r.active.erase a }

/-- Tells the watchers given; each may then cancel a handle. One that cancels a handle never
issued has been told, and stops the round. -/
def tell [DecidableEq α] (cancels : α → Option Handle) : Registry α → List α → Round α
  | r, [] => { registry := r }
  | r, a :: rest =>
    match cancels a with
    | none =>
      let round := tell cancels r rest
      { round with told := a :: round.told }
    | some h =>
      match r.cancel? h with
      | none => { registry := r, told := [a], unknown := some h }
      | some r' =>
        let round := tell cancels r' rest
        { round with told := a :: round.told }

/-- A round tells those registered when it begins, whatever is cancelled meanwhile. -/
def announce [DecidableEq α] (cancels : α → Option Handle) (r : Registry α) : Round α :=
  tell cancels r r.active

variable [DecidableEq α] (cancels : α → Option Handle)

/-- A round that nothing stops tells everyone. -/
theorem told_eq_of_unknown_eq_none (r : Registry α) (as : List α)
    (h : (tell cancels r as).unknown = none) : (tell cancels r as).told = as := by
  induction as generalizing r with
  | nil => rfl
  | cons a rest ih =>
    rw [tell] at h ⊢
    split at h
    · exact congrArg (a :: ·) (ih r h)
    · split at h
      · contradiction
      · next r' _ => exact congrArg (a :: ·) (ih r' h)

theorem issued_cancel? {r r' : Registry α} {h : Handle} (e : r.cancel? h = some r') :
    r'.issued = r.issued := by
  obtain ⟨a, _, rfl⟩ := Option.map_eq_some_iff.1 e
  rfl

theorem active_cancel? {r r' : Registry α} {h : Handle} (e : r.cancel? h = some r') :
    r'.active.Sublist r.active := by
  obtain ⟨a, _, rfl⟩ := Option.map_eq_some_iff.1 e
  exact List.erase_sublist

end Registry

end ClusterInspector
