import ClusterInspector.Proofs.Writing

/-!
# Surplus words

A command for resources is made of three words at most, its verb, a resource and a name, and of the
first namespace flag with its value. A line can hold more words than that. Nothing refuses those after
the third, be they a second flag with its value, and they leave no trace in the command.
-/
namespace ClusterInspector.Command

/-- The words of a command for resources, but for the namespace flag and its value. -/
def IsMadeOf (cmd : Command) (positional : List String) : Prop :=
  ∃ k resource, k.IsNamedBy resource ∧ positional = cmd.verb.text :: resource :: cmd.name.toList ∧
    cmd = { verb := cmd.verb, kind := some k, name := cmd.name, scope := cmd.scope }

/-- Every word has a part in the command: there are its verb, a resource, its name if it has one, and
the flag with its namespace, if it has one, at any place. -/
def Accounts (cmd : Command) (words : List String) : Prop :=
  ∃ k resource place, k.IsNamedBy resource ∧ cmd.kind = some k ∧
    words = spelling cmd.verb resource cmd.name cmd.scope place

theorem Unflags.length_eq {words p : List String} {scope : Option String}
    (unflags : Unflags words p scope) : words.length = p.length + 2 * scope.toList.length := by
  cases unflags with
  | absent => simp
  | given before after value =>
    simp only [List.length_append, List.length_cons, Option.toList_some, List.length_nil]
    omega

theorem length_spelling (v : Verb) (resource : String) (name scope : Option String) (place : Nat) :
    (spelling v resource name scope place).length =
      2 + name.toList.length + 2 * scope.toList.length := by
  cases scope with
  | none =>
    simp only [spelling, List.length_cons, Option.toList_none, List.length_nil]
    omega
  | some value =>
    have parts := congrArg List.length
      (List.take_append_drop place (v.text :: resource :: name.toList))
    simp only [List.length_append, List.length_cons] at parts
    simp only [spelling, List.length_append, List.length_cons, Option.toList_some, List.length_nil]
    omega

/-- Words without the flag, put together with it again. -/
theorem Unflags.eq_spelling {words : List String} {scope : Option String} {v : Verb}
    {resource : String} {name : Option String}
    (unflags : Unflags words (v.text :: resource :: name.toList) scope) :
    ∃ place, words = spelling v resource name scope place := by
  generalize same : v.text :: resource :: name.toList = p at unflags
  cases unflags with
  | absent => exact ⟨0, same.symm⟩
  | given before after value =>
    refine ⟨before.length, ?_⟩
    simp only [spelling, same, List.take_left, List.drop_left]

theorem Unflags.unique {words p p' : List String} {scope scope' : Option String}
    (unflags : Unflags words p scope) (unflags' : Unflags words p' scope') : p = p' := by
  have same := (extractScope_of_unflags unflags).symm.trans (extractScope_of_unflags unflags')
  exact congrArg Prod.fst (Except.ok.inj same)

theorem Unflags.head?_eq {words p : List String} {scope : Option String}
    (unflags : Unflags words p scope) :
    words.head? = p.head? ∨ words.head? = some namespaceFlag := by
  cases unflags with
  | absent => exact Or.inl rfl
  | given before after value =>
    cases before with
    | nil => exact Or.inr rfl
    | cons w before => exact Or.inl rfl

theorem Makes.accepted_of {p : List String} {scope : Option String} {cmd : Command}
    (makes : Makes p scope (.ok cmd)) (takes : cmd.verb.TakesResource) :
    ∃ k resource rest, k.IsNamedBy resource ∧ p = cmd.verb.text :: resource :: rest ∧
      cmd = { verb := cmd.verb, kind := some k, name := rest.head?, scope } := by
  cases makes with
  | apply extra => simp [Verb.TakesResource] at takes
  | accepted rest _ _ named => exact ⟨_, _, rest, named, rfl, rfl⟩

/-- Of the words without the flag, the first three make the command. -/
theorem makes_ok_iff (p : List String) (cmd : Command) (takes : cmd.verb.TakesResource) :
    Makes p cmd.scope (.ok cmd) ↔ cmd.IsMadeOf (p.take 3) := by
  constructor
  · intro makes
    obtain ⟨k, resource, rest, named, rfl, same⟩ := makes.accepted_of takes
    have name : cmd.name = rest.head? := congrArg Command.name same
    refine ⟨k, resource, named, ?_, by rw [name]; exact same⟩
    rw [name, List.take_succ_cons, List.take_succ_cons, List.take_one]
  · rintro ⟨k, resource, named, words, same⟩
    match p with
    | [] => cases words
    | [_] => cases words
    | verb :: word :: rest =>
      rw [List.take_succ_cons, List.take_succ_cons, List.take_one] at words
      obtain ⟨rfl, rfl, name⟩ : verb = cmd.verb.text ∧ word = resource ∧
          rest.head?.toList = cmd.name.toList := by
        simpa only [List.cons_eq_cons] using words
      have head := congrArg List.head? name
      rw [Option.head?_toList, Option.head?_toList] at head
      have makes := Makes.accepted rest cmd.scope takes named
      rwa [head, ← same] at makes

theorem ofLine_eq_ok_iff (line : String) (cmd : Command) (takes : cmd.verb.TakesResource) :
    ofLine line = .ok cmd ↔ IsOpened line ∧ ofWords (arguments line) = .ok cmd := by
  by_cases opened : IsOpened line
  · rw [ofLine_of_isOpened line opened, and_iff_right opened]
  · refine iff_of_false ?_ (fun both => opened both.1)
    by_cases asks : stripped line ∈ helpWords
    · rw [ofLine_of_help line asks]
      intro accepted
      rw [← Except.ok.inj accepted] at takes
      simp [Verb.TakesResource] at takes
    · rw [ofLine_of_foreign line asks opened]
      intro accepted
      cases accepted

theorem ofWords_eq_ok_iff (words : List String) (cmd : Command) (takes : cmd.verb.TakesResource) :
    ofWords words = .ok cmd ↔ ∃ positional, Unflags words positional cmd.scope ∧
      cmd.IsMadeOf (positional.take 3) := by
  constructor
  · intro accepted
    rcases ofWords_cases words with
      ⟨extra, _, outcome⟩ | ⟨_, outcome⟩ | ⟨p, scope, unflags, makes⟩
    · cases outcome.symm.trans accepted
      simp [Verb.TakesResource] at takes
    · cases outcome.symm.trans accepted
    · rw [accepted] at makes
      obtain ⟨_, _, _, _, _, same⟩ := makes.accepted_of takes
      obtain rfl : cmd.scope = scope := congrArg Command.scope same
      exact ⟨p, unflags, (makes_ok_iff p cmd takes).mp makes⟩
  · rintro ⟨p, unflags, made⟩
    have notApply : words.head? ≠ some Verb.apply.text := by
      obtain ⟨_, _, _, first, _⟩ := made
      have verb : p.head? = some cmd.verb.text := by
        simpa [List.head?_take] using congrArg List.head? first
      rcases unflags.head?_eq with same | flag
      · rw [same, verb, ne_eq, Option.some_inj]
        exact takes.text_ne_apply
      · rw [flag]
        decide
    have makes := (makes_ok_iff p cmd takes).mpr made
    exact (ofWords_eq_iff words p cmd.scope notApply unflags _).mpr makes

/-- A second flag is not among the first two words, so its value is not among the first three. -/
theorem IsMadeOf.long_of_flag {cmd : Command} {p : List String} (made : cmd.IsMadeOf (p.take 3))
    (value : String) (flagged : [namespaceFlag, value] <:+: p) : 3 < p.length := by
  obtain ⟨front, back, rfl⟩ := flagged
  obtain ⟨k, resource, named, words, _⟩ := made
  match front with
  | [] => simp [cmd.verb.text_ne_namespaceFlag.symm] at words
  | [_] => simp [named.ne_namespaceFlag.symm] at words
  | _ :: _ :: front =>
    simp only [List.length_append, List.length_cons]
    omega

theorem accounts_iff (words p : List String) (cmd : Command) (unflags : Unflags words p cmd.scope)
    (made : cmd.IsMadeOf (p.take 3)) : cmd.Accounts words ↔ p.length ≤ 3 := by
  have count := unflags.length_eq
  constructor
  · rintro ⟨k, resource, place, _, _, spelled⟩
    have few := length_spelling cmd.verb resource cmd.name cmd.scope place
    have name : cmd.name.toList.length ≤ 1 := by cases cmd.name <;> simp
    rw [← spelled] at few
    omega
  · intro short
    rw [List.take_of_length_le short] at made
    obtain ⟨k, resource, named, rfl, same⟩ := made
    obtain ⟨place, spelled⟩ := unflags.eq_spelling
    exact ⟨k, resource, place, named, congrArg Command.kind same, spelled⟩

/-- A line is accepted as a command for resources by the first namespace flag and by the first three
of the other words, whatever comes after these. So each of its words has a part in the command if and
only if the others are three at most, and none has where a second flag with a value is among them. -/
theorem words_accounted_iff (line : String) (cmd : Command) (takes : cmd.verb.TakesResource) :
    (ofLine line = .ok cmd ↔ IsOpened line ∧ ∃ positional,
      Unflags (arguments line) positional cmd.scope ∧ cmd.IsMadeOf (positional.take 3)) ∧
    ∀ positional, Unflags (arguments line) positional cmd.scope → ofLine line = .ok cmd →
      (cmd.Accounts (arguments line) ↔ positional.length ≤ 3) ∧
      ∀ value, [namespaceFlag, value] <:+: positional → ¬ cmd.Accounts (arguments line) := by
  have accepts := ofLine_eq_ok_iff line cmd takes
  rw [ofWords_eq_ok_iff _ cmd takes] at accepts
  refine ⟨accepts, fun p unflags accepted => ?_⟩
  have made : cmd.IsMadeOf (p.take 3) := by
    obtain ⟨_, p', unflags', made⟩ := accepts.mp accepted
    rwa [unflags.unique unflags']
  have accounts := accounts_iff _ p cmd unflags made
  refine ⟨accounts, fun value flagged => ?_⟩
  rw [accounts, Nat.not_le]
  exact made.long_of_flag value flagged

/-- A second name, then a second flag, between words that are accounted for. -/
theorem words_accounted_iff_green :
    let line := "kubectl delete -n blue pods web old -n green"
    let cmd : Command :=
      { verb := .delete, kind := some .pods, name := some "web", scope := some "blue" }
    cmd.verb.TakesResource ∧ ofLine line = .ok cmd ∧ ¬ cmd.Accounts (arguments line) := by
  intro line cmd
  have takes : cmd.verb.TakesResource := Or.inr (Or.inr rfl)
  have accepted : ofLine line = .ok cmd := by decide +kernel
  let rest := ["pods", "web", "old", "-n", "green"]
  have words : arguments line = ["delete"] ++ namespaceFlag :: "blue" :: rest := by decide +kernel
  have unflags : Unflags (arguments line) (["delete"] ++ rest) cmd.scope := by
    rw [words]
    exact .given _ _ _ (by decide)
  obtain ⟨_, accounts⟩ := words_accounted_iff line cmd takes
  refine ⟨takes, accepted, (accounts _ unflags accepted).2 "green" ?_⟩
  exact ⟨["delete", "pods", "web", "old"], [], rfl⟩

/-- Two pods are named, and the command is to delete the first. -/
theorem second_name_dropped :
    let line := "kubectl delete pods web old"
    let cmd : Command := { verb := .delete, kind := some .pods, name := some "web" }
    ofLine line = .ok cmd ∧ arguments line = ["delete", "pods", "web", "old"] ∧
    ¬ cmd.Accounts (arguments line) := by
  intro line cmd
  have words : arguments line = ["delete", "pods", "web", "old"] := by decide +kernel
  refine ⟨by decide +kernel, words, ?_⟩
  rintro ⟨k, resource, place, _, _, spelled⟩
  have count := congrArg List.length spelled
  rw [words, length_spelling] at count
  cases count

end ClusterInspector.Command
