import ClusterInspector.Proofs.Transcript

/-!
# Guests

A browser or a screen that is registered for a time is a guest there: it cancels nobody, and nobody
cancels it. A store, a log or a session with guests does what it does without them, and once they have
left nothing tells that they were there.
-/
namespace ClusterInspector

namespace Registry

variable {α : Type} [DecidableEq α] (cancels : α → Option Handle) (guest : α)

/-- The second registry is the first with a guest registered so many times more. The guest may have
been registered there before, and then be cancelled by others, so there can be fewer of it. -/
structure Houses (extra : Nat) (r r' : Registry α) : Prop where
  others : r'.active.filter (· ≠ guest) = r.active.filter (· ≠ guest)
  guests : r'.active.count guest - extra = r.active.count guest
  issued : r.issued <+: r'.issued
  /-- Nobody cancels what was registered since. -/
  apart : ∀ a ∈ r.active, ∀ h, cancels a = some h → h < r.issued.length ∨ r'.issued.length ≤ h

variable {cancels guest} {extra : Nat} {r r' : Registry α}

theorem Houses.refl (r : Registry α) : Houses cancels guest 0 r r where
  others := rfl
  guests := Nat.sub_zero _
  issued := List.prefix_refl _
  apart := fun _ _ h _ => Nat.lt_or_ge h r.issued.length

theorem Houses.register (houses : Houses cancels guest 0 r r')
    (free : ∀ a ∈ r.active, cancels a ≠ some r'.issued.length) :
    Houses cancels guest 1 r (r'.register guest).1 where
  others := by simpa [Registry.register] using houses.others
  guests := by
    have same := houses.guests
    simp only [Registry.register, List.count_append, List.count_singleton_self]
    omega
  issued := houses.issued.trans (List.prefix_append _ _)
  apart := by
    intro a member h cancelled
    have other : h ≠ r'.issued.length := by
      rintro rfl
      exact free a member cancelled
    rw [Registry.register, List.length_append, List.length_singleton]
    rcases houses.apart a member h cancelled with known | unknown
    · exact Or.inl known
    · exact Or.inr (Nat.lt_of_le_of_ne unknown (Ne.symm other))

theorem Houses.leave (houses : Houses cancels guest 1 r r') (h : Handle)
    (own : r'.issued[h]? = some guest) :
    ∃ r'', r'.cancel? h = some r'' ∧ Houses cancels guest 0 r r'' := by
  refine ⟨{ r' with active := r'.active.erase guest }, by rw [cancel?, own]; rfl, ?_, ?_, ?_, ?_⟩
  · have gone : guest ∉ r'.active.filter (· ≠ guest) := by simp
    rw [← List.erase_filter, List.erase_of_not_mem gone, houses.others]
  · have same := houses.guests
    rw [List.count_erase_self]
    omega
  · exact houses.issued
  · exact houses.apart

/-- Where it does not say otherwise, all others are still there, and the guest as often as before. -/
theorem Houses.perm (houses : Houses cancels guest 0 r r') : r'.active.Perm r.active := by
  refine List.perm_iff_count.mpr fun a => ?_
  by_cases same : a = guest
  · rw [same, ← houses.guests, Nat.sub_zero]
  · have kept : ∀ as : List α, (as.filter (· ≠ guest)).count a = as.count a :=
      fun _ => List.count_filter (decide_eq_true same)
    rw [← kept, houses.others, kept]

theorem Houses.active_eq (houses : Houses cancels guest 0 r r') (absent : guest ∉ r.active) :
    r'.active = r.active := by
  have absent' : guest ∉ r'.active := fun member => absent (houses.perm.mem_iff.mp member)
  have others := houses.others
  rwa [List.filter_eq_self.mpr, List.filter_eq_self.mpr] at others
  · intro a member
    exact decide_eq_true fun same => absent (same ▸ member)
  · intro a member
    exact decide_eq_true fun same => absent' (same ▸ member)

theorem Houses.cancel? (houses : Houses cancels guest extra r r') (h : Handle)
    (apart : h < r.issued.length ∨ r'.issued.length ≤ h) :
    Option.Rel (Houses cancels guest extra) (r.cancel? h) (r'.cancel? h) := by
  rcases apart with known | unknown
  · obtain ⟨x, here⟩ : ∃ x, r.issued[h]? = some x := ⟨_, List.getElem?_eq_getElem known⟩
    have there : r'.issued[h]? = some x := by
      obtain ⟨since, longer⟩ := houses.issued
      rw [← longer, List.getElem?_append_left known, here]
    rw [Registry.cancel?, Registry.cancel?, here, there]
    refine .some ⟨?_, ?_, houses.issued, ?_⟩
    · dsimp only
      rw [← List.erase_filter, ← List.erase_filter, houses.others]
    · have same := houses.guests
      dsimp only
      rw [List.count_erase, List.count_erase]
      omega
    · intro a member
      exact houses.apart a (List.mem_of_mem_erase member)
  · have unknown' : r.issued.length ≤ h := Nat.le_trans houses.issued.length_le unknown
    rw [Registry.cancel?, Registry.cancel?, List.getElem?_eq_none unknown, List.getElem?_eq_none unknown']
    exact .none

/-- Whom a guest is told among, it does nothing. -/
theorem tell_filter (harmless : cancels guest = none) (r : Registry α) (watchers : List α) :
    (tell cancels r (watchers.filter (· ≠ guest))).registry = (tell cancels r watchers).registry ∧
    (tell cancels r (watchers.filter (· ≠ guest))).unknown = (tell cancels r watchers).unknown := by
  induction watchers generalizing r with
  | nil => exact ⟨rfl, rfl⟩
  | cons a rest ih =>
    by_cases same : a = guest
    · subst same
      rw [List.filter_cons_of_neg (by simp)]
      simpa [tell, harmless] using ih r
    · rw [List.filter_cons_of_pos (by simpa using same), tell, tell]
      cases cancels a with
      | none => exact ih r
      | some h =>
        dsimp only
        cases r.cancel? h with
        | none => exact ⟨rfl, rfl⟩
        | some r' => exact ih r'

theorem Houses.tell (houses : Houses cancels guest extra r r') (watchers : List α)
    (apart : ∀ a ∈ watchers, ∀ h, cancels a = some h → h < r.issued.length ∨ r'.issued.length ≤ h) :
    (Registry.tell cancels r' watchers).unknown = (Registry.tell cancels r watchers).unknown ∧
    Houses cancels guest extra (Registry.tell cancels r watchers).registry
      (Registry.tell cancels r' watchers).registry := by
  induction watchers generalizing r r' with
  | nil => exact ⟨rfl, houses⟩
  | cons a rest ih =>
    have later : ∀ b ∈ rest, ∀ h, cancels b = some h → h < r.issued.length ∨ r'.issued.length ≤ h := by
      intro b member
      exact apart b (List.mem_cons_of_mem _ member)
    rw [Registry.tell, Registry.tell]
    cases cancelled : cancels a with
    | none => exact ih houses later
    | some h =>
      have alike := houses.cancel? h (apart a List.mem_cons_self h cancelled)
      dsimp only
      cases here : r.cancel? h with
      | none =>
        cases there : r'.cancel? h with
        | none => exact ⟨rfl, houses⟩
        | some _ => rw [here, there] at alike; cases alike
      | some s =>
        cases there : r'.cancel? h with
        | none => rw [here, there] at alike; cases alike
        | some s' =>
          rw [here, there] at alike
          cases alike with
          | some still =>
            refine ih still ?_
            rw [issued_cancel? here, issued_cancel? there]
            exact later

/-- A round goes as it does without the guest. -/
theorem Houses.announce (houses : Houses cancels guest extra r r') (harmless : cancels guest = none) :
    (Registry.announce cancels r').unknown = (Registry.announce cancels r).unknown ∧
    Houses cancels guest extra (Registry.announce cancels r).registry
      (Registry.announce cancels r').registry := by
  obtain ⟨registry, unknown⟩ := tell_filter harmless r r.active
  obtain ⟨registry', unknown'⟩ := tell_filter harmless r' r'.active
  rw [houses.others] at registry' unknown'
  obtain ⟨alike, still⟩ := houses.tell (r.active.filter (· ≠ guest)) fun a member =>
    houses.apart a (List.mem_filter.mp member).1
  rw [registry, registry'] at still
  rw [unknown, unknown'] at alike
  exact ⟨alike, still⟩

/-- Whoever cancels a registration is no guest. -/
theorem Houses.mem_of_cancels (houses : Houses cancels guest extra r r') (harmless : cancels guest = none)
    {a : α} {h : Handle} (member : a ∈ r'.active) (cancelled : cancels a = some h) : a ∈ r.active := by
  have other : a ≠ guest := by
    rintro rfl
    rw [harmless] at cancelled
    cases cancelled
  have kept : a ∈ r'.active.filter (· ≠ guest) := List.mem_filter.mpr ⟨member, decide_eq_true other⟩
  rw [houses.others] at kept
  exact (List.mem_filter.mp kept).1

theorem Houses.isSound (houses : Houses cancels guest extra r r') (harmless : cancels guest = none)
    (sound : r.IsSound cancels) : r'.IsSound cancels := by
  intro a member h cancelled
  have known := sound a (houses.mem_of_cancels harmless member cancelled) h cancelled
  exact Nat.lt_of_lt_of_le known houses.issued.length_le

/-- Whoever did not cancel the guest does not when it is registered more often. -/
theorem Houses.spares (houses : Houses cancels guest extra r r') (harmless : cancels guest = none)
    (spared : r.Spares cancels guest) : r'.Spares cancels guest := by
  intro a member h cancelled own
  have registered := houses.mem_of_cancels harmless member cancelled
  obtain ⟨since, longer⟩ := houses.issued
  rcases houses.apart a registered h cancelled with known | unknown
  · rw [← longer, List.getElem?_append_left known] at own
    exact spared a registered h cancelled own
  · rw [List.getElem?_eq_none unknown] at own
    cases own

end Registry

/-- The second step comes to the same as the first, and leaves a state that is to the other as it was
before. -/
def Step.Agrees {σ ε α : Type} (R : σ → σ → Prop) (step step' : Step σ ε α) : Prop :=
  step'.result = step.result ∧ R step.state step'.state

namespace Step.Agrees

variable {σ τ ε α β : Type} {R : σ → σ → Prop} {step step' : Step σ ε α}

theorem andThen (agrees : Agrees R step step') (next : σ → α → Step σ ε β)
    (later : ∀ a t t', R t t' → Agrees R (next t a) (next t' a)) :
    Agrees R (step.andThen next) (step'.andThen next) := by
  obtain ⟨result, state⟩ := agrees
  cases ended : step.result with
  | error e =>
    rw [ended] at result
    rw [andThen_of_error ended, andThen_of_error result]
    exact ⟨rfl, state⟩
  | ok a =>
    rw [ended] at result
    rw [andThen_of_ok ended, andThen_of_ok result]
    exact later a _ _ state

theorem within {S : τ → τ → Prop} (agrees : Agrees R step step') (into into' : σ → τ)
    (lifts : ∀ t t', R t t' → S (into t) (into' t')) :
    Agrees S (step.within into) (step'.within into') :=
  ⟨agrees.1, lifts _ _ agrees.2⟩

end Step.Agrees

/-- The second store has the same cluster, and a browser is registered with it so many times more. -/
structure Store.Houses (browser : Handle) (extra : Nat) (s s' : Store) : Prop where
  cluster : s'.cluster = s.cluster
  watchers : Registry.Houses NamespaceWatcher.cancels (.browser browser) extra s.watchers s'.watchers

theorem Store.Houses.delete {browser : Handle} {extra : Nat} {s s' : Store}
    (houses : s.Houses browser extra s') (k : Kind) (name : String) (scope : Option String) :
    Step.Agrees (Store.Houses browser extra) (s.delete k name scope) (s'.delete k name scope) := by
  rw [Store.delete_eq, Store.delete_eq, houses.cluster]
  cases s.cluster.find? k name scope with
  | none => exact ⟨rfl, houses⟩
  | some target =>
    dsimp only
    split
    · exact ⟨rfl, rfl, houses.watchers⟩
    · obtain ⟨unknown, still⟩ := houses.watchers.announce rfl
      rw [unknown]
      exact ⟨rfl, rfl, still⟩

namespace Console

variable {browser : Handle} {extra : Nat} {s s' : Store}

theorem answerCommand_houses (now : Nat) (houses : s.Houses browser extra s') (cmd : Command) :
    Step.Agrees (Store.Houses browser extra) (answerCommand now s cmd) (answerCommand now s' cmd) := by
  unfold answerCommand
  cases cmd.verb with
  | help => exact ⟨rfl, houses⟩
  | apply => exact ⟨rfl, houses⟩
  | get =>
    cases cmd.kind with
    | none => exact ⟨rfl, houses⟩
    | some k => exact ⟨by rw [houses.cluster], houses⟩
  | describe =>
    rw [houses.cluster]
    cases target s.cluster cmd with
    | error e => exact ⟨rfl, houses⟩
    | ok t => exact ⟨rfl, houses⟩
  | delete =>
    rw [houses.cluster]
    cases target s.cluster cmd with
    | error e => exact ⟨rfl, houses⟩
    | ok t =>
      obtain ⟨result, state⟩ := houses.delete t.1 t.2.name t.2.home?
      refine ⟨?_, state⟩
      dsimp only
      rw [result]

theorem answerLine_houses (now : Nat) (houses : s.Houses browser extra s') (line : String) :
    Step.Agrees (Store.Houses browser extra) (answerLine now s line) (answerLine now s' line) := by
  unfold answerLine
  cases Command.ofLine line with
  | error e => exact ⟨rfl, houses⟩
  | ok cmd =>
    obtain ⟨result, state⟩ := answerCommand_houses now houses cmd
    refine ⟨?_, state⟩
    dsimp only
    rw [result]

end Console

/-- The second log has the same entries, and screens are registered with it so many times more. -/
structure Log.Houses (extra : Nat) (l l' : Log) : Prop where
  clock : l'.clock = l.clock
  entries : l'.entries = l.entries
  watchers : Registry.Houses EntryWatcher.cancels .screen extra l.watchers l'.watchers

/-- No watcher of the one log cancels what was registered between it and the other. -/
def Log.IsApart (before after : Log) : Prop :=
  ∀ w ∈ before.watchers.active, ∀ h, w.cancels = some h →
    h < before.watchers.issued.length ∨ after.watchers.issued.length ≤ h

theorem Log.IsQuiet.isApart {before : Log} (quiet : before.IsQuiet) (after : Log) :
    before.IsApart after :=
  fun w member h cancelled => Or.inl (quiet w member h cancelled)

theorem Log.IsApart.mono {before after later : Log} (apart : before.IsApart later)
    (grows : after.watchers.issued.length ≤ later.watchers.issued.length) : before.IsApart after :=
  fun w member h cancelled => (apart w member h cancelled).imp_right (Nat.le_trans grows)

theorem Log.Houses.append {extra : Nat} {l l' : Log} (houses : l.Houses extra l') (role : EntryRole)
    (content : String) :
    Step.Agrees (Log.Houses extra) (l.append role content) (l'.append role content) := by
  obtain ⟨unknown, still⟩ := houses.watchers.announce rfl
  unfold Log.append
  rw [houses.clock, houses.entries]
  dsimp only
  rw [unknown]
  exact ⟨rfl, rfl, rfl, still⟩

/-- The second session is the first with guests: so many browsers at its store, and so many screens at
its log. -/
structure Session.Houses (browser : Handle) (browsers screens : Nat) (s s' : Session) : Prop where
  store : s.store.Houses browser browsers s'.store
  log : s.log.Houses screens s'.log
  history : s'.history = s.history
  now : s'.now = s.now

namespace Session.Houses

variable {browser : Handle} {browsers screens : Nat} {s s' : Session}

theorem refl (browser : Handle) (s : Session) : s.Houses browser 0 0 s where
  store := ⟨rfl, .refl _⟩
  log := ⟨rfl, rfl, .refl _⟩
  history := rfl
  now := rfl

theorem append (houses : s.Houses browser browsers screens s') (role : EntryRole) (content : String) :
    Step.Agrees (Session.Houses browser browsers screens) (s.append role content)
      (s'.append role content) :=
  (houses.log.append role content).within _ _ fun _ _ log => { houses with log }

theorem answer (houses : s.Houses browser browsers screens s') (line : String) :
    Step.Agrees (Session.Houses browser browsers screens) (s.answer line) (s'.answer line) := by
  unfold Session.answer
  rw [houses.now]
  exact (Console.answerLine_houses s.now houses.store line).within _ _ fun _ _ store =>
    ⟨store, houses.log, houses.history, rfl⟩

theorem respond (houses : s.Houses browser browsers screens s') (line : String) :
    Step.Agrees (Session.Houses browser browsers screens) (s.respond line) (s'.respond line) := by
  have remembered : Session.Houses browser browsers screens
      { s with history := s.history.record line } { s' with history := s'.history.record line } :=
    { houses with history := congrArg (·.record line) houses.history }
  exact (remembered.append .command _).andThen _ fun _ _ _ still => still.answer line

theorem submit (houses : s.Houses browser browsers screens s') (line : String) :
    Step.Agrees (Session.Houses browser browsers screens) (s.submit line) (s'.submit line) := by
  unfold Session.submit
  split
  · exact ⟨rfl, houses⟩
  · refine (houses.respond line).andThen _ fun reply t t' still => ?_
    obtain ⟨result, state⟩ := still.append (if reply.isError then .error else .output) reply.text
    refine ⟨?_, state⟩
    dsimp only
    rw [result]

end Session.Houses

end ClusterInspector
