import ClusterInspector.Interaction
import ClusterInspector.Proofs.Transcript

/-!
# Visits

A visit is a sequence of turns, each the answer to the one before, until one of them stops. With the
two cancellations that follow the answers given it always comes to a stop, so that what every answer
keeps of an invariant holds at the end of the visit.
-/
namespace ClusterInspector.Interaction

variable (f : Facilities)

/-- The turn that an answer leads to. Once a visit has stopped no answer counts. -/
def reply (t : Turn) (a : Answer) : Turn :=
  match t.next with
  | .ask place => answer f t.session place a
  | .stop _ => t

def play (first : Turn) (answers : List Answer) : Turn := answers.foldl (reply f) first

/-- The answers that count, each with the place where it is given. -/
def dialogue : Turn → List Answer → List (Place × Answer)
  | _, [] => []
  | t, a :: rest =>
    match t.next with
    | .ask place => (place, a) :: dialogue (answer f t.session place a) rest
    | .stop _ => []

/-- What is said in a visit, with the cancellations once the answers are used up. -/
def talk (first : Turn) (answers : List Answer) : List (Place × Answer) :=
  dialogue f first (answers ++ [.cancelled, .cancelled])

/-- What is submitted at the console. -/
def submissions (said : List (Place × Answer)) : List Session.Operation :=
  said.filterMap fun
    | (.console .., .text line) => some (.submit line)
    | _ => none

theorem submissions_append (past future : List (Place × Answer)) :
    submissions (past ++ future) = submissions past ++ submissions future :=
  List.filterMap_append

theorem browse_next (s : Session) (v : Viewer) :
    (∃ ending, (browse f s v).next = .stop ending) ∨ (browse f s v).next = .ask (.actions v) := by
  unfold browse
  split
  · exact Or.inl ⟨_, rfl⟩
  · dsimp only
    split
    · exact Or.inl ⟨_, rfl⟩
    · exact Or.inr rfl

theorem reply_stopped (t : Turn) (a : Answer) (ending : Ending) (stopped : t.next = .stop ending) :
    reply f t a = t := by
  unfold reply
  rw [stopped]

theorem reply_asked (t : Turn) (a : Answer) (place : Place) (asks : t.next = .ask place) :
    reply f t a = answer f t.session place a := by
  unfold reply
  rw [asks]

theorem play_append (first : Turn) (past future : List Answer) :
    play f first (past ++ future) = play f (play f first past) future :=
  List.foldl_append

theorem play_stopped (t : Turn) (answers : List Answer) (ending : Ending)
    (stopped : t.next = .stop ending) : play f t answers = t := by
  induction answers with
  | nil => rfl
  | cons a rest ih =>
    rw [play, List.foldl_cons, reply_stopped f t a ending stopped]
    exact ih

/-- A cancellation ends a visit or leads to the browser's actions. -/
theorem reply_cancelled (t : Turn) :
    (∃ ending, (reply f t .cancelled).next = .stop ending) ∨
      ∃ v, (reply f t .cancelled).next = .ask (.actions v) := by
  unfold reply
  cases next : t.next with
  | stop ending => exact Or.inl ⟨ending, next⟩
  | ask place =>
    cases place with
    | console viewer screen =>
      cases viewer with
      | none => exact Or.inl ⟨_, rfl⟩
      | some v => exact (browse_next f _ v).imp_right fun asks => ⟨v, asks⟩
    | actions v => exact Or.inl ⟨_, rfl⟩
    | rows v => exact (browse_next f _ v).imp_right fun asks => ⟨v, asks⟩
    | filter v => exact (browse_next f _ v).imp_right fun asks => ⟨v, asks⟩

theorem play_cancelled (t : Turn) : ∃ ending, (play f t [.cancelled, .cancelled]).next = .stop ending := by
  change ∃ ending, (reply f (reply f t .cancelled) .cancelled).next = .stop ending
  rcases reply_cancelled f t with ⟨ending, stopped⟩ | ⟨v, asks⟩
  · rw [reply_stopped f _ _ ending stopped]
    exact ⟨ending, stopped⟩
  · rw [reply_asked f _ _ (.actions v) asks]
    exact ⟨.quit, rfl⟩

/-- Once the turns have come to a stop, the visit has nothing to add. -/
theorem follow_ending (t : Turn) (answers : List Answer) (ending : Ending)
    (stops : (play f t answers).next = .stop ending) : (follow f t answers).ending = ending := by
  induction answers generalizing t with
  | nil =>
    obtain ⟨session, outputs, next⟩ := t
    cases (show next = .stop ending from stops)
    rfl
  | cons a rest ih =>
    obtain ⟨session, outputs, next⟩ := t
    cases next with
    | stop ending' =>
      rw [play_stopped f _ _ ending' rfl] at stops
      cases stops
      rfl
    | ask place => exact ih (answer f session place a) stops

/-- The cancellations after the answers are enough to end a visit from anywhere. -/
theorem visit_stops (first : Turn) (answers : List Answer) :
    (play f first (answers ++ [.cancelled, .cancelled])).next =
      .stop (visit f first answers).ending := by
  obtain ⟨ending, stops⟩ := play_cancelled f (play f first answers)
  rw [← play_append] at stops
  have same := follow_ending f first _ ending stops
  rw [visit, same]
  exact stops

/-- What holds while a visit goes on and when it has stopped, of what was said, what was shown, and
the session. -/
structure Contract where
  during : List (Place × Answer) → List Output → Session → Place → Prop
  after : List (Place × Answer) → List Output → Session → Ending → Prop

/-- The turn keeps the contract, given what was said and shown before. -/
def Contract.Holds (c : Contract) (said : List (Place × Answer)) (before : List Output) (t : Turn) :
    Prop :=
  match t.next with
  | .ask place => c.during said (before ++ t.outputs) t.session place
  | .stop ending => c.after said (before ++ t.outputs) t.session ending

variable {f}

theorem Contract.follow {c : Contract} (Admitted : Place × Answer → Prop)
    (step : ∀ said before s place a, c.during said before s place → Admitted (place, a) →
      c.Holds (said ++ [(place, a)]) before (answer f s place a))
    (t : Turn) (answers : List Answer) (said : List (Place × Answer)) (before : List Output)
    (first : c.Holds said before t) (admitted : ∀ x ∈ dialogue f t answers, Admitted x)
    (ending : Ending) (stops : (play f t answers).next = .stop ending) :
    c.after (said ++ dialogue f t answers) (before ++ (Interaction.follow f t answers).outputs)
      (Interaction.follow f t answers).session (Interaction.follow f t answers).ending := by
  induction answers generalizing t said before with
  | nil =>
    obtain ⟨session, outputs, next⟩ := t
    cases (show next = .stop ending from stops)
    rw [dialogue, List.append_nil]
    exact first
  | cons a rest ih =>
    obtain ⟨session, outputs, next⟩ := t
    cases next with
    | stop ending' =>
      rw [show dialogue f ⟨session, outputs, .stop ending'⟩ (a :: rest) = [] from rfl, List.append_nil]
      exact first
    | ask place =>
      have now : Admitted (place, a) := admitted _ List.mem_cons_self
      have later := ih (answer f session place a) (said ++ [(place, a)]) (before ++ outputs)
        (step said (before ++ outputs) session place a first now)
        (fun x member => admitted x (List.mem_cons_of_mem _ member)) stops
      rw [List.append_assoc, List.append_assoc] at later
      exact later

/-- What the first turn and every answer keep of a contract holds at the end of the visit. -/
theorem Contract.visit {c : Contract} (Admitted : Place × Answer → Prop)
    (step : ∀ said before s place a, c.during said before s place → Admitted (place, a) →
      c.Holds (said ++ [(place, a)]) before (answer f s place a))
    (first : Turn) (answers : List Answer) (begins : c.Holds [] [] first)
    (admitted : ∀ x ∈ talk f first answers, Admitted x) :
    c.after (talk f first answers) (Interaction.visit f first answers).outputs
      (Interaction.visit f first answers).session (Interaction.visit f first answers).ending :=
  c.follow Admitted step first _ [] [] begins admitted _ (visit_stops f first answers)

end ClusterInspector.Interaction
