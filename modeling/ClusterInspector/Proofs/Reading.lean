import ClusterInspector.Proofs.Deletion
import ClusterInspector.Proofs.Naming
import Mathlib.Data.List.TakeDrop

/-!
# How lines are read

What a line comes to depends on the text between its blank ends, and, where that begins with `kubectl`
and a space, on the words after it alone. Several causes of refusal can apply to the same words; which
one is given follows from the order in which the words are looked at: a leading `apply`, then the
namespace flag, then the verb, then the resource.
-/
namespace ClusterInspector

namespace Text

/-- A trimmed text does not end in a character of the class. -/
theorem not_getLast?_trim (p : Char → Bool) (cs : List Char) (c : Char)
    (last : (trim p cs).getLast? = some c) : p c = false := by
  rw [trim, List.getLast?_reverse] at last
  have first := List.head?_dropWhile_not p (cs.dropWhile p).reverse
  rw [last] at first
  exact first

theorem isBlank_of_words_eq_nil (cs : List Char) (none : words cs = []) :
    ∀ c ∈ cs, isBlank c = true := by
  induction cs with
  | nil => nofun
  | cons c rest ih =>
    rw [words, List.splitOnP_cons_eq_if_modifyHead] at none
    split at none
    · rename_i blank
      exact List.forall_mem_cons.mpr ⟨blank, ih none⟩
    · -- the first word begins with `c`
      obtain ⟨first, others, split⟩ := List.exists_cons_of_ne_nil (List.splitOnP_ne_nil isBlank rest)
      rw [split, List.modifyHead_cons, List.filter_cons_of_pos (by simp)] at none
      cases none

theorem ne_nil_of_mem_words (cs word : List Char) (member : word ∈ words cs) : word ≠ [] := by
  rw [words, List.mem_filter] at member
  exact of_decide_eq_true member.2

end Text

/-- The verbs that are for resources of one kind. -/
def Verb.TakesResource (v : Verb) : Prop := v = .get ∨ v = .describe ∨ v = .delete

theorem Verb.takesResource_or (v : Verb) : v.TakesResource ∨ v = .apply ∨ v = .help := by
  cases v <;> simp [TakesResource]

namespace Command

/-- The text of a line between its blank ends. -/
def stripped (line : String) : String := String.ofList (Text.trim Text.isBlank line.toList)

/-- The words of a line after `kubectl` and the space. -/
def arguments (line : String) : List String :=
  (Text.words ((stripped line).toList.drop opening.length)).map String.ofList

/-- The line addresses the cluster. -/
def IsOpened (line : String) : Prop := opening.toList <+: (stripped line).toList

theorem ofLine_of_help (line : String) (asks : stripped line ∈ helpWords) :
    ofLine line = .ok { verb := .help } :=
  if_pos asks

theorem not_help_of_isOpened (line : String) (opened : IsOpened line) : stripped line ∉ helpWords := by
  intro asks
  have short : ∀ word ∈ helpWords, ¬ opening.toList <+: word.toList := by decide
  exact short _ asks opened

theorem ofLine_of_isOpened (line : String) (opened : IsOpened line) :
    ofLine line = ofWords (arguments line) := by
  have notHelp := not_help_of_isOpened line opened
  unfold IsOpened stripped at *
  rw [String.toList_ofList] at opened
  simp only [ofLine, if_neg notHelp, List.isPrefixOf_iff_prefix.mpr opened, if_true, arguments,
    stripped, String.toList_ofList]

theorem ofLine_of_foreign (line : String) (silent : stripped line ∉ helpWords)
    (foreign : ¬ IsOpened line) : ofLine line = .error (.unknownCommand (stripped line)) := by
  have unopened : ¬ opening.toList.isPrefixOf (Text.trim Text.isBlank line.toList) = true := by
    rw [List.isPrefixOf_iff_prefix]
    simpa only [IsOpened, stripped, String.toList_ofList] using foreign
  simp only [ofLine, ← stripped.eq_def, if_neg silent, if_neg unopened]

/-- Something follows `kubectl` and the space, since the space is not at the end. -/
theorem arguments_ne_nil (line : String) (opened : IsOpened line) : arguments line ≠ [] := by
  intro none
  obtain ⟨rest, split⟩ := opened
  have dropped : (stripped line).toList.drop opening.length = rest := by
    rw [← split]
    exact List.drop_left
  rw [arguments, dropped, List.map_eq_nil_iff] at none
  have blank : ∀ c ∈ ' ' :: rest, Text.isBlank c = true :=
    List.forall_mem_cons.mpr ⟨rfl, Text.isBlank_of_words_eq_nil rest none⟩
  obtain ⟨c, last⟩ : ∃ c, (' ' :: rest).getLast? = some c :=
    ⟨_, List.getLast?_eq_some_getLast (List.cons_ne_nil ' ' rest)⟩
  have ends : (stripped line).toList.getLast? = some c := by
    rw [← split, show opening.toList = "kubectl".toList ++ [' '] from rfl, List.append_assoc,
      List.getLast?_append, List.singleton_append, last, Option.some_or]
  have notBlank := Text.not_getLast?_trim Text.isBlank line.toList c
    (by simpa only [stripped, String.toList_ofList] using ends)
  rw [blank c (List.mem_of_getLast? last)] at notBlank
  cases notBlank

/-- The words without the first namespace flag and the word after it, and that word. -/
inductive Unflags : List String → List String → Option String → Prop
  | absent (words : List String) (unflagged : namespaceFlag ∉ words) : Unflags words words none
  | given (before after : List String) (value : String) (first : namespaceFlag ∉ before) :
    Unflags (before ++ namespaceFlag :: value :: after) (before ++ after) (some value)

/-- The first namespace flag is the last word. -/
def LacksValue (words : List String) : Prop :=
  ∃ before, namespaceFlag ∉ before ∧ words = before ++ [namespaceFlag]

theorem span_of_not_mem (before rest : List String) (first : namespaceFlag ∉ before)
    (flagged : ∀ w ∈ rest.head?, w = namespaceFlag) :
    (before ++ rest).span (· ≠ namespaceFlag) = (before, rest) := by
  have passed : ∀ w ∈ before, decide (w ≠ namespaceFlag) = true := by
    intro w member
    exact decide_eq_true (ne_of_mem_of_not_mem member first)
  rw [List.span_eq_takeWhile_dropWhile, List.takeWhile_append_of_pos passed,
    List.dropWhile_append_of_pos passed]
  cases rest with
  | nil => simp
  | cons w rest => simp [flagged w rfl]

theorem extractScope_of_unflags {words p : List String} {scope : Option String}
    (unflags : Unflags words p scope) : extractScope words = .ok (p, scope) := by
  cases unflags with
  | absent _ unflagged =>
    have all := span_of_not_mem words [] unflagged nofun
    rw [List.append_nil] at all
    simp only [extractScope, all]
  | given before after value first =>
    have split := span_of_not_mem before (namespaceFlag :: value :: after) first
      (fun w first => (Option.some.inj first).symm)
    simp only [extractScope, split]

theorem extractScope_of_lacksValue {words : List String} (lacks : LacksValue words) :
    extractScope words = .error .missingFlagValue := by
  obtain ⟨before, first, rfl⟩ := lacks
  have split := span_of_not_mem before [namespaceFlag] first
    (fun w first => (Option.some.inj first).symm)
  simp only [extractScope, split]

theorem unflags_or_lacksValue (words : List String) :
    (∃ p scope, Unflags words p scope) ∨ LacksValue words := by
  by_cases flagged : namespaceFlag ∈ words
  · obtain ⟨before, rest, rfl, first⟩ := List.eq_append_cons_of_mem flagged
    cases rest with
    | nil => exact Or.inr ⟨before, first, rfl⟩
    | cons value after => exact Or.inl ⟨_, _, .given before after value first⟩
  · exact Or.inl ⟨_, _, .absent words flagged⟩

theorem eq_text_of_verbOfWord? (word : String) (v : Verb) (isVerb : verbOfWord? word = some v) :
    v ≠ .help ∧ word = v.text := by
  unfold verbOfWord? at isVerb
  split at isVerb <;> cases isVerb <;> exact ⟨nofun, rfl⟩

/-- The words do not begin with a verb. -/
def LacksVerb (words : List String) : Prop := ∀ v : Verb, v ≠ .help → words.head? ≠ some v.text

theorem verbOfWord?_of_lacksVerb (words : List String) (lacks : LacksVerb words) :
    verbOfWord? (words.headD "") = none := by
  cases words with
  | nil => rfl
  | cons word rest =>
    refine Option.eq_none_iff_forall_ne_some.mpr fun v isVerb => ?_
    obtain ⟨notHelp, rfl⟩ := eq_text_of_verbOfWord? word v isVerb
    exact lacks v notHelp rfl

/-- What words come to, once the namespace flag is gone. -/
inductive Makes : List String → Option String → Except Refusal Command → Prop
  | unknownVerb {words : List String} {scope : Option String} (lacks : LacksVerb words) :
    Makes words scope (.error (.unknownVerb (words.headD "")))
  | apply (extra : List String) (scope : Option String) :
    Makes (Verb.apply.text :: extra) scope (.ok { verb := .apply, scope, extra })
  | missingResource {v : Verb} (scope : Option String) (takes : v.TakesResource) :
    Makes [v.text] scope (.error (.missingResource v))
  | unknownResource {v : Verb} {word : String} (rest : List String) (scope : Option String)
    (takes : v.TakesResource) (nameless : ∀ k : Kind, ¬ k.IsNamedBy word) :
    Makes (v.text :: word :: rest) scope (.error (.unknownResource word))
  | accepted {v : Verb} {k : Kind} {word : String} (rest : List String) (scope : Option String)
    (takes : v.TakesResource) (named : k.IsNamedBy word) :
    Makes (v.text :: word :: rest) scope
      (.ok { verb := v, kind := some k, name := rest.head?, scope })

theorem ofPositional_of_takesResource (v : Verb) (takes : v.TakesResource) (rest : List String)
    (scope : Option String) :
    ofPositional (v.text :: rest) scope =
      match rest with
      | [] => .error (.missingResource v)
      | resource :: rest =>
        match Kind.ofWord? resource with
        | none => .error (.unknownResource resource)
        | some kind => .ok { verb := v, kind := some kind, name := rest.head?, scope } := by
  rcases takes with rfl | rfl | rfl <;> rfl

theorem ofPositional_of_makes {words : List String} {scope : Option String}
    {outcome : Except Refusal Command} (makes : Makes words scope outcome) :
    ofPositional words scope = outcome := by
  cases makes with
  | unknownVerb lacks => simp only [ofPositional, verbOfWord?_of_lacksVerb words lacks]
  | apply extra => rfl
  | missingResource _ takes => rw [ofPositional_of_takesResource _ takes]
  | unknownResource rest _ takes nameless =>
    simp only [ofPositional_of_takesResource _ takes, (Kind.ofWord?_eq_none_iff _).mpr nameless]
  | accepted rest _ takes named =>
    simp only [ofPositional_of_takesResource _ takes, (Kind.ofWord?_eq_some_iff _ _).mpr named]

/-- Words come to something, whatever they are. -/
theorem exists_makes (words : List String) (scope : Option String) :
    ∃ outcome, Makes words scope outcome := by
  by_cases lacks : LacksVerb words
  · exact ⟨_, .unknownVerb lacks⟩
  · obtain ⟨v, notHelp, begins⟩ : ∃ v : Verb, v ≠ .help ∧ words.head? = some v.text := by
      simpa [LacksVerb] using lacks
    obtain ⟨rest, rfl⟩ := List.head?_eq_some_iff.mp begins
    rcases v.takesResource_or with takes | rfl | rfl
    · cases rest with
      | nil => exact ⟨_, .missingResource scope takes⟩
      | cons word rest =>
        by_cases named : ∃ k : Kind, k.IsNamedBy word
        · obtain ⟨k, named⟩ := named
          exact ⟨_, .accepted rest scope takes named⟩
        · exact ⟨_, .unknownResource rest scope takes (not_exists.mp named)⟩
    · exact ⟨_, .apply rest scope⟩
    · exact absurd rfl notHelp

theorem ofPositional_eq_iff (words : List String) (scope : Option String)
    (outcome : Except Refusal Command) :
    ofPositional words scope = outcome ↔ Makes words scope outcome := by
  constructor
  · rintro rfl
    obtain ⟨outcome, makes⟩ := exists_makes words scope
    rwa [ofPositional_of_makes makes]
  · exact ofPositional_of_makes

theorem ofWords_of_not_apply (words : List String) (notApply : words.head? ≠ some Verb.apply.text) :
    ofWords words =
      match extractScope words with
      | .error e => .error e
      | .ok (positional, scope) => ofPositional positional scope := by
  unfold ofWords
  split
  · exact absurd rfl notApply
  · rfl

theorem ofWords_of_lacksValue (words : List String) (notApply : words.head? ≠ some Verb.apply.text)
    (lacks : LacksValue words) : ofWords words = .error .missingFlagValue := by
  simp only [ofWords_of_not_apply words notApply, extractScope_of_lacksValue lacks]

theorem ofWords_eq_iff (words p : List String) (scope : Option String)
    (notApply : words.head? ≠ some Verb.apply.text) (unflags : Unflags words p scope)
    (outcome : Except Refusal Command) :
    ofWords words = outcome ↔ Makes p scope outcome := by
  simp only [ofWords_of_not_apply words notApply, extractScope_of_unflags unflags,
    ofPositional_eq_iff]

theorem ofWords_cases (words : List String) :
    (∃ extra, words = Verb.apply.text :: extra ∧ ofWords words = .ok { verb := .apply, extra }) ∨
    (LacksValue words ∧ ofWords words = .error .missingFlagValue) ∨
    ∃ p scope, Unflags words p scope ∧ Makes p scope (ofWords words) := by
  by_cases apply : words.head? = some Verb.apply.text
  · obtain ⟨extra, rfl⟩ := List.head?_eq_some_iff.mp apply
    exact Or.inl ⟨extra, rfl, rfl⟩
  · rcases unflags_or_lacksValue words with ⟨p, scope, unflags⟩ | lacks
    · exact Or.inr (Or.inr ⟨p, scope, unflags,
        (ofWords_eq_iff words p scope apply unflags _).mp rfl⟩)
    · exact Or.inr (Or.inl ⟨lacks, ofWords_of_lacksValue words apply lacks⟩)

theorem ofWords_eq_missingFlagValue_iff (words : List String)
    (notApply : words.head? ≠ some Verb.apply.text) :
    ofWords words = .error .missingFlagValue ↔ LacksValue words := by
  constructor
  · intro refused
    rcases ofWords_cases words with ⟨extra, rfl, _⟩ | ⟨lacks, _⟩ | ⟨p, scope, _, makes⟩
    · exact absurd rfl notApply
    · exact lacks
    · rw [refused] at makes
      cases makes
  · exact ofWords_of_lacksValue words notApply

/-- The words after `kubectl` never ask for help, and are never taken for another program's. -/
theorem ofWords_opened (words : List String) :
    ofWords words ≠ .ok { verb := .help } ∧
    ∀ shown, ofWords words ≠ .error (.unknownCommand shown) := by
  rcases ofWords_cases words with ⟨extra, _, outcome⟩ | ⟨_, outcome⟩ | ⟨p, scope, _, makes⟩
  · rw [outcome]
    exact ⟨nofun, nofun⟩
  · rw [outcome]
    exact ⟨nofun, nofun⟩
  · constructor
    · intro help
      rw [help] at makes
      cases makes
    · intro shown unknown
      rw [unknown] at makes
      cases makes

theorem ofLine_eq_help_iff (line : String) :
    ofLine line = .ok { verb := .help } ↔ stripped line ∈ helpWords := by
  constructor
  · intro help
    by_contra silent
    by_cases opened : IsOpened line
    · rw [ofLine_of_isOpened line opened] at help
      exact (ofWords_opened _).1 help
    · rw [ofLine_of_foreign line silent opened] at help
      cases help
  · exact ofLine_of_help line

theorem ofLine_eq_unknownCommand_iff (line shown : String) :
    ofLine line = .error (.unknownCommand shown) ↔
      shown = stripped line ∧ stripped line ∉ helpWords ∧ ¬ IsOpened line := by
  constructor
  · intro unknown
    have silent : stripped line ∉ helpWords := by
      intro asks
      rw [ofLine_of_help line asks] at unknown
      cases unknown
    have foreign : ¬ IsOpened line := by
      intro opened
      rw [ofLine_of_isOpened line opened] at unknown
      exact (ofWords_opened _).2 shown unknown
    rw [ofLine_of_foreign line silent foreign] at unknown
    cases unknown
    exact ⟨rfl, silent, foreign⟩
  · rintro ⟨rfl, silent, foreign⟩
    exact ofLine_of_foreign line silent foreign

theorem Unflags.subset {words p : List String} {scope : Option String}
    (unflags : Unflags words p scope) : p ⊆ words := by
  cases unflags with
  | absent => exact List.Subset.refl _
  | given before after value first =>
    refine List.append_subset.mpr ⟨List.subset_append_left _ _, ?_⟩
    exact List.Subset.trans (List.subset_append_right [namespaceFlag, value] after)
      (List.subset_append_right before _)

theorem ne_empty_of_mem_arguments (line word : String) (member : word ∈ arguments line) :
    word ≠ "" := by
  obtain ⟨cs, among, rfl⟩ := List.mem_map.mp member
  intro empty
  refine Text.ne_nil_of_mem_words _ cs among ?_
  rw [← String.toList_ofList (l := cs), empty]
  rfl

/-- A command for resources has a kind when it is read from a line, and no empty name. -/
theorem accepted_of_ofLine (line : String) (cmd : Command) (accepted : ofLine line = .ok cmd)
    (takes : cmd.verb.TakesResource) : (∃ k, cmd.kind = some k) ∧ cmd.name ≠ some "" := by
  by_cases opened : IsOpened line
  · rw [ofLine_of_isOpened line opened] at accepted
    rcases ofWords_cases (arguments line) with
      ⟨extra, _, outcome⟩ | ⟨_, outcome⟩ | ⟨p, scope, unflags, makes⟩
    · cases outcome.symm.trans accepted
      simp [Verb.TakesResource] at takes
    · cases outcome.symm.trans accepted
    · rw [accepted] at makes
      cases makes with
      | apply extra => simp [Verb.TakesResource] at takes
      | accepted rest _ _ named =>
        refine ⟨⟨_, rfl⟩, fun empty => ?_⟩
        have member : "" ∈ rest := List.mem_of_head? empty
        exact ne_empty_of_mem_arguments line "" (unflags.subset (by simp [member])) rfl
  · by_cases asks : stripped line ∈ helpWords
    · cases (ofLine_of_help line asks).symm.trans accepted
      simp [Verb.TakesResource] at takes
    · cases (ofLine_of_foreign line asks opened).symm.trans accepted

end Command

namespace Console

/-- Looking for the target of a command with a kind fails for the want of a name where there is none,
and otherwise only in the cluster. -/
theorem target_eq_error_cases (c : Cluster) (cmd : Command) (k : Kind) (kind : cmd.kind = some k)
    (named : cmd.name ≠ some "") (e : Command.Refusal) (refused : target c cmd = .error e) :
    (cmd.name = none ∧ e = .missingName cmd.verb) ∨
    ∃ name, cmd.name = some name ∧
      (e = .notFound k name ∨ ∃ homes, e = .ambiguous k name homes) := by
  cases name : cmd.name with
  | none =>
    simp only [target, kind, name] at refused
    exact Or.inl ⟨rfl, (Except.error.inj refused).symm⟩
  | some name' =>
    have nonempty : name' ≠ "" := fun empty => named (by rw [name, empty])
    refine Or.inr ⟨name', rfl, ?_⟩
    have sought : target c cmd = (resolve c k name' cmd.scope).map (Sigma.mk k) := by
      simp only [target, kind, name]
    rw [sought] at refused
    rcases resolve_cases c k name' cmd.scope with
      ⟨_, missed⟩ | ⟨r, other, rest, _, _, _, several⟩ | ⟨r, rest, _, _, found⟩
    · rw [missed] at refused
      exact Or.inl (Except.error.inj refused).symm
    · rw [several] at refused
      exact Or.inr ⟨_, (Except.error.inj refused).symm⟩
    · rw [found] at refused
      cases refused

/-- A command with a kind, and with no empty name, is not refused for the want of a kind, and is
refused for the want of a name only where it is to have one and has none. -/
theorem answerCommand_lacks_iff (now : Nat) (s : Store) (cmd : Command) (k : Kind)
    (kind : cmd.kind = some k) (named : cmd.name ≠ some "") (takes : cmd.verb.TakesResource)
    (v : Verb) :
    (answerCommand now s cmd).result ≠ .error (.refused (.missingKind v)) ∧
    ((answerCommand now s cmd).result = .error (.refused (.missingName v)) ↔
      v = cmd.verb ∧ v ≠ .get ∧ cmd.name = none) := by
  by_cases get : cmd.verb = .get
  · have unrefused : ∀ e, (answerCommand now s cmd).result ≠ .error (.refused e) := by
      intro e
      rw [answerCommand_lists now s cmd k get kind]
      exact mapError_ne_refused _ e
    refine ⟨unrefused _, iff_of_false (unrefused _) ?_⟩
    rintro ⟨rfl, notGet, _⟩
    exact notGet get
  · have verb := takes.resolve_left get
    rw [ne_eq, answerCommand_refused_iff now s cmd _ verb, answerCommand_refused_iff now s cmd _ verb]
    have causes := target_eq_error_cases s.cluster cmd k kind named
    refine ⟨?_, ?_, ?_⟩
    · intro refused
      rcases causes _ refused with ⟨_, same⟩ | ⟨name, _, same | ⟨homes, same⟩⟩ <;> cases same
    · intro refused
      rcases causes _ refused with ⟨nameless, same⟩ | ⟨name, _, same | ⟨homes, same⟩⟩ <;> cases same
      exact ⟨rfl, get, nameless⟩
    · rintro ⟨rfl, _, nameless⟩
      simp only [target, kind, nameless]

end Console

namespace Command

/-- What a line comes to. It asks for help, or is not for the cluster, or else something follows
`kubectl` and decides alone: a leading `apply` takes all words as they are, a namespace flag at the
end is refused first, and the rest follows from the words without the flag and its value. No word with
a character outside ASCII names a kind. A command for resources has a kind, so that it lacks a name at
most when it is answered. -/
theorem ofLine_outcomes (line : String) :
    (ofLine line = .ok { verb := .help } ↔ stripped line = "help" ∨ stripped line = "?") ∧
    (∀ shown, ofLine line = .error (.unknownCommand shown) ↔
      shown = stripped line ∧ ¬ (stripped line = "help" ∨ stripped line = "?") ∧
        ¬ "kubectl ".toList <+: (stripped line).toList) ∧
    ("kubectl ".toList <+: (stripped line).toList →
      arguments line ≠ [] ∧ ofLine line = ofWords (arguments line) ∧
      (∀ extra, arguments line = "apply" :: extra → ofLine line = .ok { verb := .apply, extra }) ∧
      ((arguments line).head? ≠ some "apply" →
        (ofLine line = .error .missingFlagValue ↔ LacksValue (arguments line)) ∧
        (¬ LacksValue (arguments line) → ∃ p scope, Unflags (arguments line) p scope) ∧
        ∀ p scope, Unflags (arguments line) p scope →
          ∀ outcome, ofLine line = outcome ↔ Makes p scope outcome)) ∧
    (∀ word : String, (∃ c ∈ word.toList, 0x80 ≤ c.toNat) → Kind.ofWord? word = none) ∧
    ∀ cmd, ofLine line = .ok cmd → cmd.verb.TakesResource →
      (∃ k, cmd.kind = some k) ∧ cmd.name ≠ some "" ∧
      ∀ (now : Nat) (s : Store) (v : Verb),
        (Console.answerCommand now s cmd).result ≠ .error (.refused (.missingKind v)) ∧
        ((Console.answerCommand now s cmd).result = .error (.refused (.missingName v)) ↔
          v = cmd.verb ∧ v ≠ .get ∧ cmd.name = none) := by
  have asks_iff : stripped line ∈ helpWords ↔ stripped line = "help" ∨ stripped line = "?" := by
    simp [helpWords]
  refine ⟨?_, ?_, ?_, Kind.ofWord?_of_foreign, ?_⟩
  · rw [ofLine_eq_help_iff, asks_iff]
  · intro shown
    rw [ofLine_eq_unknownCommand_iff, asks_iff]
    rfl
  · intro opened
    rw [ofLine_of_isOpened line opened]
    refine ⟨arguments_ne_nil line opened, rfl, ?_, ?_⟩
    · intro extra led
      rw [led]
      rfl
    · intro notApply
      refine ⟨ofWords_eq_missingFlagValue_iff _ notApply, ?_, ?_⟩
      · exact (unflags_or_lacksValue _).resolve_right
      · intro p scope unflags
        exact ofWords_eq_iff _ p scope notApply unflags
  · intro cmd accepted takes
    obtain ⟨⟨k, kind⟩, named⟩ := accepted_of_ofLine line cmd accepted takes
    exact ⟨⟨k, kind⟩, named, fun now s v =>
      Console.answerCommand_lacks_iff now s cmd k kind named takes v⟩

end Command

end ClusterInspector
