import ClusterInspector.Proofs.Run

/-!
# What operations come to

Console lines, commands and direct deletions come to the deletion of one record, or to nothing that
browsers could see. When the record is a namespace, the browsers that are registered are told once
the cluster is what is left of it; of any other record they are not told.
-/
namespace ClusterInspector

namespace Registry

variable {α : Type} [DecidableEq α] (cancels : α → Option Handle)

/-- A round that nothing stops tells exactly those who were registered when it began. -/
theorem told_announce (r : Registry α) (sound : r.IsSound cancels) :
    (announce cancels r).told = r.active :=
  told_eq_of_unknown_eq_none cancels r r.active (unknown_announce cancels r sound)

end Registry

namespace Browser

/-- The browser out of the namespace, if that was its scope. -/
def leave (b : Browser) (gone : String) : Browser :=
  if b.scope = some gone then { b with scope := none } else b

/-- The browser with its index at a row, or at the last one. -/
def clamp (b : Browser) (c : Cluster) : Browser :=
  { b with index := min b.index ((b.rows c).length - 1) }

theorem notice_eq_clamp_leave (b : Browser) (c : Cluster) (gone : String) :
    b.notice c gone = (b.leave gone).clamp c := rfl

theorem scope_leave (b : Browser) (gone : String) :
    (b.leave gone).scope = if b.scope = some gone then none else b.scope := by
  unfold leave
  split <;> rfl

theorem leave_leave (b : Browser) (gone : String) : (b.leave gone).leave gone = b.leave gone := by
  have left : (b.leave gone).scope ≠ some gone := by
    rw [scope_leave]
    split
    · nofun
    · assumption
  rw [leave, if_neg left]

theorem clamp_clamp (b : Browser) (c : Cluster) : (b.clamp c).clamp c = b.clamp c := by
  have settled : min (b.clamp c).index ((b.rows c).length - 1) = (b.clamp c).index := by
    rw [clamp, Nat.min_assoc, Nat.min_self]
  exact congrArg (fun index => { b with index }) settled

theorem clamp_leave_comm (b : Browser) (c : Cluster) (gone : String) :
    (b.clamp c).leave gone = { b.leave gone with index := (b.clamp c).index } := by
  unfold leave clamp
  dsimp only
  split <;> rfl

@[simp] theorem handle_notice (b : Browser) (c : Cluster) (gone : String) :
    (b.notice c gone).handle = b.handle := by
  rw [notice_eq_clamp_leave, clamp, leave]
  split <;> rfl

@[simp] theorem handle_act (b : Browser) (c : Cluster) (a : Action) :
    (b.act c a).handle = b.handle := by
  cases a with
  | activate row =>
    simp only [act, activate]
    split
    · rfl
    · split
      · rfl
      · split <;> rfl
  | _ => rfl

@[simp] theorem scope_notice (b : Browser) (c : Cluster) (gone : String) :
    (b.notice c gone).scope = if b.scope = some gone then none else b.scope :=
  b.scope_leave gone

/-- Being told twice of the same namespace is being told once. -/
theorem notice_notice (b : Browser) (c : Cluster) (gone : String) :
    (b.notice c gone).notice c gone = b.notice c gone := by
  have left : ((b.leave gone).clamp c).leave gone = (b.leave gone).clamp c := by
    rw [clamp_leave_comm, leave_leave]
    rfl
  rw [notice_eq_clamp_leave, notice_eq_clamp_leave, left, clamp_clamp]

/-- Diagnostics are not for browsers. -/
theorem observe_diagnostics (b : Browser) (c : Cluster) (events : List Event) (ds : List Diagnostic) :
    b.observe c (ds.map .diagnostic ++ events) = b.observe c events := by
  induction ds with
  | nil => rfl
  | cons d rest ih => exact ih

theorem observe_round (b : Browser) (c : Cluster) (gone : String) (told : List NamespaceWatcher) :
    b.observe c (told.map (.namespaceGone · gone)) =
      if .browser b.handle ∈ told then b.notice c gone else b := by
  induction told generalizing b with
  | nil => simp [observe]
  | cons w rest ih =>
    rw [List.map_cons, observe, ih]
    by_cases own : b.isOf w = true
    · have same : w = .browser b.handle := by
        cases w <;> simp_all [isOf]
      simp only [own, if_true, handle_notice, notice_notice, ite_self]
      rw [if_pos (same ▸ List.mem_cons_self)]
    · have other : w ≠ .browser b.handle := by
        rintro rfl
        simp [isOf] at own
      simp [own, Ne.symm other]

end Browser

namespace Store

/-- A deletion is one of the record that it finds. -/
theorem delete_eq_delete_found (s : Store) (k : Kind) (name : String) (scope : Option String)
    (target : k.Record) (found : s.cluster.find? k name scope = some target) :
    s.delete k name scope = s.delete k target.name target.home? := by
  have again := Cluster.find?_self s.cluster k name scope target found
  simp only [delete_eq, found, again]

/-- Nobody is told when a record that lies in a namespace is gone. -/
theorem delete_named (s : Store) (k : Kind) (name : String) (scope : Option String) (t : k.Record)
    (found : s.cluster.find? k name scope = some t) (namespaced : k ≠ .namespaces) :
    s.delete k name scope =
      { state := { s with cluster := s.cluster.without t }
        events := [.diagnostic (deleted s.cluster t)]
        result := .ok (some t) } := by
  simp only [delete_eq, found, (Cluster.isNamespaced_iff k).mpr namespaced, if_true]

/-- When a namespace is gone, those who are registered are told, each in its turn. -/
theorem delete_namespace (s : Store) (name : String) (scope : Option String)
    (t : Kind.namespaces.Record) (found : s.cluster.find? .namespaces name scope = some t)
    (quiet : s.IsQuiet) :
    s.delete .namespaces name scope =
      { state := ⟨s.cluster.without t, (s.watchers.announce NamespaceWatcher.cancels).registry⟩
        events := .diagnostic (deleted s.cluster t) ::
          s.watchers.active.map (.namespaceGone · t.name)
        result := .ok (some t) } := by
  have clusterWide : ¬ Kind.namespaces.isNamespaced = true := by decide
  simp only [delete_eq, found, if_neg clusterWide,
    Registry.told_announce NamespaceWatcher.cancels s.watchers quiet,
    Registry.unknown_announce NamespaceWatcher.cancels s.watchers quiet]

end Store

namespace Console

/-- The record that a command deletes, if it deletes one. -/
def deleted? (c : Cluster) (cmd : Command) : Option ((k : Kind) × k.Record) :=
  if cmd.verb = .delete then (target c cmd).toOption else none

theorem deleted?_eq_some_iff (c : Cluster) (cmd : Command) (t : (k : Kind) × k.Record) :
    deleted? c cmd = some t ↔ cmd.verb = .delete ∧ target c cmd = .ok t := by
  cases h : target c cmd <;> simp [deleted?, h, Except.toOption]

/-- What a step of the store amounts to, by the record that it deletes: the deletion of that record,
in what it does and in what it makes known, or nothing that is more than noted. -/
inductive AmountsTo {ε α : Type} (s : Store) (step : Step Store ε α) :
    Option ((k : Kind) × k.Record) → Prop
  | deletion {k : Kind} (r : k.Record) (found : s.cluster.find? k r.name r.home? = some r)
    (state : step.state = (s.delete k r.name r.home?).state)
    (events : step.events = (s.delete k r.name r.home?).events) : AmountsTo s step (some ⟨k, r⟩)
  | notes (ds : List Diagnostic) (state : step.state = s)
    (events : step.events = ds.map Event.diagnostic) : AmountsTo s step none

theorem AmountsTo.congr {ε ε' α α' : Type} {s : Store} {step : Step Store ε α}
    {step' : Step Store ε' α'} {t : Option ((k : Kind) × k.Record)} (amounts : AmountsTo s step t)
    (state : step'.state = step.state) (events : step'.events = step.events) :
    AmountsTo s step' t := by
  cases amounts with
  | deletion r found after noted => exact .deletion r found (state.trans after) (events.trans noted)
  | notes ds after noted => exact .notes ds (state.trans after) (events.trans noted)

theorem answerCommand_amountsTo (now : Nat) (s : Store) (cmd : Command) :
    AmountsTo s (answerCommand now s cmd) (deleted? s.cluster cmd) := by
  cases deletes : deleted? s.cluster cmd with
  | some t =>
    obtain ⟨k, r⟩ := t
    obtain ⟨verb, found⟩ := (deleted?_eq_some_iff s.cluster cmd ⟨k, r⟩).mp deletes
    obtain ⟨_, name, _, _, resolved⟩ := (target_eq_ok_iff s.cluster cmd k r).mp found
    have again := Cluster.find?_self s.cluster k name cmd.scope r
      (resolve_find? s.cluster k name cmd.scope r resolved)
    refine .deletion r again (answerCommand_deletes now s cmd k r verb found).1 ?_
    simp only [answerCommand, verb, found]
  | none =>
    have kept : cmd.verb = .delete → ∀ t, target s.cluster cmd ≠ .ok t := by
      intro verb t found
      rw [(deleted?_eq_some_iff s.cluster cmd t).mpr ⟨verb, found⟩] at deletes
      cases deletes
    suffices ∃ ds : List Diagnostic, (answerCommand now s cmd).events = ds.map Event.diagnostic by
      obtain ⟨ds, events⟩ := this
      exact .notes ds (answerCommand_keeps now s cmd kept) events
    unfold answerCommand
    cases verb : cmd.verb with
    | get =>
      cases cmd.kind with
      | none => exact ⟨_, rfl⟩
      | some k => exact ⟨[], rfl⟩
    | describe =>
      cases target s.cluster cmd with
      | error e => exact ⟨_, rfl⟩
      | ok t => exact ⟨[], rfl⟩
    | delete =>
      cases found : target s.cluster cmd with
      | error e => exact ⟨_, rfl⟩
      | ok t => exact absurd found (kept verb t)
    | apply => exact ⟨[], rfl⟩
    | help => exact ⟨[], rfl⟩

theorem answerLine_amountsTo (now : Nat) (s : Store) (line : String) :
    AmountsTo s (answerLine now s line)
      ((Command.ofLine line).toOption.bind (deleted? s.cluster)) := by
  unfold answerLine
  cases Command.ofLine line with
  | error e => exact .notes e.diagnostics rfl rfl
  | ok cmd =>
    exact (answerCommand_amountsTo now s cmd).congr rfl rfl

theorem delete_amountsTo (s : Store) (k : Kind) (name : String) (scope : Option String) :
    AmountsTo s (s.delete k name scope) ((s.cluster.find? k name scope).map (Sigma.mk k)) := by
  cases found : s.cluster.find? k name scope with
  | some r =>
    have same := s.delete_eq_delete_found k name scope r found
    exact .deletion r (Cluster.find?_self s.cluster k name scope r found)
      (congrArg Step.state same) (congrArg Step.events same)
  | none =>
    refine .notes [] ?_ ?_
    · simp only [Store.delete_eq, found]
    · simp only [Store.delete_eq, found, List.map_nil]

end Console

namespace Desk

open Console

/-- The record that an operation deletes, if it deletes one. -/
def deleted? (d : Desk) : Operation → Option ((k : Kind) × k.Record)
  | .line text => (Command.ofLine text).toOption.bind (Console.deleted? d.store.cluster)
  | .command cmd => Console.deleted? d.store.cluster cmd
  | .delete k name scope => (d.store.cluster.find? k name scope).map (Sigma.mk k)
  | .openBrowser | .act .. | .close _ => none

theorem settle_cases {ε α : Type} (d : Desk) (step : Step Store ε α)
    (t : Option ((k : Kind) × k.Record)) (amounts : AmountsTo d.store step t) :
    (∃ (k : Kind) (r : k.Record), t = some ⟨k, r⟩ ∧
      d.store.cluster.find? k r.name r.home? = some r ∧
      (d.settle step).state = (d.delete k r.name r.home?).state) ∨
    (t = none ∧ (d.settle step).state = d) := by
  cases amounts with
  | @deletion k r found state events =>
    refine Or.inl ⟨k, r, rfl, found, ?_⟩
    simp only [settle, delete, Step.state_within, state, events]
  | notes ds state events =>
    have unmoved : ∀ b : Browser, b.observe d.store.cluster (ds.map .diagnostic) = b := by
      intro b
      have seen := b.observe_diagnostics d.store.cluster [] ds
      rwa [List.append_nil] at seen
    refine Or.inr ⟨rfl, ?_⟩
    simp only [settle, Step.state_within, state, events, unmoved, List.map_id']

/-- What an operation comes to: the deletion of a record, or else nothing, or what users do with
browsers. -/
theorem perform_cases (d : Desk) (op : Operation) :
    (∃ (k : Kind) (r : k.Record), d.deleted? op = some ⟨k, r⟩ ∧
      d.store.cluster.find? k r.name r.home? = some r ∧
      d.perform op = (d.delete k r.name r.home?).state) ∨
    (d.deleted? op = none ∧ (d.perform op = d ∨ op = .openBrowser ∨ (∃ i a, op = .act i a) ∨
      ∃ i, op = .close i)) := by
  cases op with
  | line text =>
    refine (d.settle_cases _ _ (answerLine_amountsTo d.now d.store text)).imp_right ?_
    exact And.imp_right Or.inl
  | command cmd =>
    refine (d.settle_cases _ _ (answerCommand_amountsTo d.now d.store cmd)).imp_right ?_
    exact And.imp_right Or.inl
  | delete k name scope =>
    refine (d.settle_cases _ _ (delete_amountsTo d.store k name scope)).imp_right ?_
    exact And.imp_right Or.inl
  | openBrowser => exact Or.inr ⟨rfl, Or.inr (Or.inl rfl)⟩
  | act i a => exact Or.inr ⟨rfl, Or.inr (Or.inr (Or.inl ⟨i, a, rfl⟩))⟩
  | close i => exact Or.inr ⟨rfl, Or.inr (Or.inr (Or.inr ⟨i, rfl⟩))⟩

/-- Browsers are not told when a single record is gone. -/
theorem delete_namespaced (d : Desk) (k : Kind) (r : k.Record)
    (found : d.store.cluster.find? k r.name r.home? = some r) (namespaced : k ≠ .namespaces) :
    (d.delete k r.name r.home?).state =
      { d with store := { d.store with cluster := d.store.cluster.without r } } := by
  rw [delete, d.store.delete_named k r.name r.home? r found namespaced]
  simp only [settle, Step.state_within, Browser.observe, List.map_id']

/-- When a namespace is gone, the browsers that are registered are told, and find the cluster that
is left. -/
theorem delete_namespace (d : Desk) (r : Kind.namespaces.Record)
    (found : d.store.cluster.find? .namespaces r.name r.home? = some r) (quiet : d.store.IsQuiet) :
    (d.delete .namespaces r.name r.home?).state =
      { d with
        store := ⟨d.store.cluster.without r,
          (d.store.watchers.announce NamespaceWatcher.cancels).registry⟩
        browsers := d.browsers.map fun b =>
          if .browser b.handle ∈ d.store.watchers.active then
            b.notice (d.store.cluster.without r) r.name
          else b } := by
  rw [delete, d.store.delete_namespace r.name r.home? r found quiet]
  simp only [settle, Step.state_within, Browser.observe, Browser.observe_round]

end Desk

end ClusterInspector
