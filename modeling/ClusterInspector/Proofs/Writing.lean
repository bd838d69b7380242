import ClusterInspector.Proofs.Reading

/-!
# How commands are written

A command for resources can be written down in many ways: any alias in letters of any case, the
namespace flag with its value at any place among the words, any blanks between the words and around
the line. Reading any of them gives the command back.
-/
namespace ClusterInspector

namespace Text

def AreBlank (cs : List Char) : Prop := ∀ c ∈ cs, isBlank c = true

/-- Something without a blank. -/
structure IsWord (word : List Char) : Prop where
  nonempty : word ≠ []
  unbroken : ∀ c ∈ word, isBlank c = false

theorem isWord_iff (word : List Char) :
    IsWord word ↔ word.isEmpty = false ∧ word.any isBlank = false :=
  ⟨fun ⟨nonempty, unbroken⟩ => by simpa using ⟨nonempty, unbroken⟩,
    fun checks => ⟨by simpa using checks.1, by simpa using checks.2⟩⟩

instance (word : List Char) : Decidable (IsWord word) := decidable_of_iff _ (isWord_iff word).symm

/-- The text holds the words in this order, with some blanks before each. -/
inductive Spaced : List (List Char) → List Char → Prop
  | nil : Spaced [] []
  | cons {words : List (List Char)} {rest : List Char} (gap word : List Char) (apart : gap ≠ [])
    (blank : AreBlank gap) (others : Spaced words rest) :
    Spaced (word :: words) (gap ++ (word ++ rest))

theorem words_cons_of_isBlank (c : Char) (cs : List Char) (blank : isBlank c = true) :
    words (c :: cs) = words cs := by
  rw [words, List.splitOnP_cons_eq_if_modifyHead, if_pos blank, List.filter_cons_of_neg (by simp),
    words]

theorem words_append_of_areBlank (gap cs : List Char) (blank : AreBlank gap) :
    words (gap ++ cs) = words cs := by
  induction gap with
  | nil => rfl
  | cons c gap ih =>
    obtain ⟨first, others⟩ := List.forall_mem_cons.mp blank
    rw [List.cons_append, words_cons_of_isBlank c _ first, ih others]

theorem words_of_isWord (word : List Char) (isWord : IsWord word) : words word = [word] := by
  rw [words, List.splitOnP_eq_singleton isWord.unbroken]
  simp [isWord.nonempty]

theorem words_append_cons (word rest : List Char) (c : Char) (isWord : IsWord word)
    (blank : isBlank c = true) : words (word ++ c :: rest) = word :: words (c :: rest) := by
  rw [words_cons_of_isBlank c rest blank, words,
    List.splitOnP_append_cons_of_forall_mem isWord.unbroken c blank,
    List.filter_cons_of_pos (by simp [isWord.nonempty]), words]

/-- What follows a word in such a text begins with a blank. -/
theorem Spaced.eq_nil_or_blank {ws : List (List Char)} {cs : List Char} (spaced : Spaced ws cs) :
    (ws = [] ∧ cs = []) ∨ ∃ c rest, cs = c :: rest ∧ isBlank c = true := by
  cases spaced with
  | nil => exact Or.inl ⟨rfl, rfl⟩
  | cons gap word apart blank others =>
    obtain ⟨c, gap, rfl⟩ := List.exists_cons_of_ne_nil apart
    exact Or.inr ⟨c, _, rfl, blank c List.mem_cons_self⟩

theorem Spaced.words_eq {ws : List (List Char)} {cs : List Char} (spaced : Spaced ws cs)
    (areWords : ∀ w ∈ ws, IsWord w) : words cs = ws := by
  induction spaced with
  | nil => rfl
  | cons gap word apart blank others ih =>
    obtain ⟨isWord, areWords⟩ := List.forall_mem_cons.mp areWords
    rw [words_append_of_areBlank gap _ blank]
    rcases others.eq_nil_or_blank with ⟨rfl, rfl⟩ | ⟨c, rest, rfl, first⟩
    · rw [List.append_nil, words_of_isWord word isWord]
    · rw [words_append_cons word rest c isWord first, ih areWords]

/-- The end of such a text is that of its last word. -/
theorem Spaced.getLast?_not_blank {ws : List (List Char)} {cs : List Char} (spaced : Spaced ws cs)
    (areWords : ∀ w ∈ ws, IsWord w) : ∀ c ∈ cs.getLast?, isBlank c = false := by
  induction spaced with
  | nil => nofun
  | cons gap word apart blank others ih =>
    obtain ⟨isWord, areWords⟩ := List.forall_mem_cons.mp areWords
    intro c last
    rw [List.getLast?_append, List.getLast?_append] at last
    rcases Option.or_eq_some_iff.mp last with within | ⟨none, _⟩
    · rcases Option.or_eq_some_iff.mp within with among | ⟨_, among⟩
      · exact ih areWords c among
      · exact isWord.unbroken c (List.mem_of_getLast? among)
    · rw [Option.or_eq_none_iff, List.getLast?_eq_none_iff, List.getLast?_eq_none_iff] at none
      exact absurd none.2 isWord.nonempty

theorem toLower_of_isBlank {c : Char} (blank : isBlank c = true) : c.toLower = c := by
  unfold Char.toLower
  refine dif_neg ?_
  rintro ⟨first, last⟩
  have from_A : 'A'.toNat ≤ c.toNat := UInt32.le_iff_toNat_le.mp first
  have to_Z : c.toNat ≤ 'Z'.toNat := UInt32.le_iff_toNat_le.mp last
  have letters : 'A'.toNat = 65 ∧ 'Z'.toNat = 90 := by decide
  simp only [isBlank, Bool.or_eq_true, Bool.and_eq_true, decide_eq_true_eq, beq_iff_eq] at blank
  omega

end Text

theorem Verb.isWord_text (v : Verb) : Text.IsWord v.text.toList := by
  cases v <;> decide

theorem Verb.text_ne_namespaceFlag (v : Verb) : v.text ≠ Command.namespaceFlag := by
  cases v <;> decide

theorem Verb.TakesResource.text_ne_apply {v : Verb} (takes : v.TakesResource) :
    v.text ≠ Verb.apply.text := by
  rcases takes with rfl | rfl | rfl <;> decide

namespace Kind

theorem alias_isWord (k : Kind) : ∀ a ∈ k.aliases, Text.IsWord a.toList := by
  cases k <;> decide

theorem IsNamedBy.isWord {k : Kind} {word : String} (named : k.IsNamedBy word) :
    Text.IsWord word.toList := by
  obtain ⟨a, isAlias, same⟩ := named
  have isWord := alias_isWord k a isAlias
  rw [← same] at isWord
  refine ⟨by simpa using isWord.nonempty, ?_⟩
  intro c member
  by_contra blank
  rw [Bool.not_eq_false] at blank
  have kept := isWord.unbroken c.toLower (List.mem_map_of_mem member)
  rw [Text.toLower_of_isBlank blank, blank] at kept
  cases kept

theorem IsNamedBy.ne_namespaceFlag {k : Kind} {word : String} (named : k.IsNamedBy word) :
    word ≠ Command.namespaceFlag := by
  rintro rfl
  obtain ⟨a, isAlias, same⟩ := named
  have noAlias : ∀ a ∈ k.aliases, a.toList ≠ Command.namespaceFlag.toList := by
    cases k <;> decide
  exact noAlias a isAlias same.symm

end Kind

namespace Command

/-- The words of a command for resources, with the flag and its value after the first so many. -/
def spelling (v : Verb) (resource : String) (name scope : Option String) (place : Nat) :
    List String :=
  let positional := v.text :: resource :: name.toList
  match scope with
  | none => positional
  | some value => positional.take place ++ namespaceFlag :: value :: positional.drop place

/-- The line is `kubectl`, a space, perhaps more blanks, and the words, with blanks between them and
around the whole. -/
def Renders (words : List String) (line : String) : Prop :=
  ∃ lead body trail, Text.AreBlank lead ∧ Text.AreBlank trail ∧ body.head? = some ' ' ∧
    Text.Spaced (words.map String.toList) body ∧
    line.toList = lead ++ ("kubectl".toList ++ body ++ trail)

theorem arguments_of_renders (words : List String) (line : String)
    (areWords : ∀ w ∈ words, Text.IsWord w.toList) (renders : Renders words line) :
    IsOpened line ∧ arguments line = words := by
  obtain ⟨lead, body, trail, before, after, space, spaced, written⟩ := renders
  have areWords' : ∀ w ∈ words.map String.toList, Text.IsWord w := by simpa using areWords
  obtain ⟨rest, rfl⟩ := List.head?_eq_some_iff.mp space
  have last := spaced.getLast?_not_blank areWords'
  have text : (stripped line).toList = opening.toList ++ rest := by
    rw [stripped, String.toList_ofList, written]
    refine Text.trim_append Text.isBlank lead _ trail before after (by simp) ?_ ?_
    · rintro c ⟨⟩
      rfl
    · simpa [List.getLast?_append] using last
  refine ⟨⟨rest, text.symm⟩, ?_⟩
  have dropped : (opening.toList ++ rest).drop opening.length = rest := List.drop_left
  rw [arguments, text, dropped, ← Text.words_cons_of_isBlank ' ' rest rfl, spaced.words_eq areWords',
    List.map_map]
  simp [Function.comp_def]

/-- The first flag among the words is the one put there, whatever its value is. -/
theorem unflags_spelling (v : Verb) (resource : String) (name scope : Option String) (place : Nat)
    (unflagged : namespaceFlag ∉ v.text :: resource :: name.toList) :
    Unflags (spelling v resource name scope place) (v.text :: resource :: name.toList) scope := by
  cases scope with
  | none => exact .absent _ unflagged
  | some value =>
    have first : namespaceFlag ∉ (v.text :: resource :: name.toList).take place :=
      fun member => unflagged (List.mem_of_mem_take member)
    have given := Unflags.given _ ((v.text :: resource :: name.toList).drop place) value first
    rwa [List.take_append_drop] at given

theorem head?_spelling_ne_apply (v : Verb) (resource : String) (name scope : Option String)
    (place : Nat) (takes : v.TakesResource) :
    (spelling v resource name scope place).head? ≠ some Verb.apply.text := by
  have verb := takes.text_ne_apply
  have flag : namespaceFlag ≠ Verb.apply.text := by decide
  cases scope with
  | none => simpa [spelling] using verb
  | some value =>
    cases place with
    | zero => simpa [spelling] using flag
    | succ place => simpa [spelling] using verb

theorem isWord_of_mem_spelling (v : Verb) (k : Kind) (resource : String) (name scope : Option String)
    (place : Nat) (named : k.IsNamedBy resource) (nameWord : ∀ n ∈ name, Text.IsWord n.toList)
    (scopeWord : ∀ m ∈ scope, Text.IsWord m.toList) :
    ∀ w ∈ spelling v resource name scope place, Text.IsWord w.toList := by
  have positional : ∀ w ∈ v.text :: resource :: name.toList, Text.IsWord w.toList := by
    simpa using ⟨v.isWord_text, named.isWord, nameWord⟩
  cases scope with
  | none => exact positional
  | some value =>
    intro w member
    simp only [spelling, List.mem_append, List.mem_cons] at member
    rcases member with before | rfl | rfl | after
    · exact positional w (List.mem_of_mem_take before)
    · decide
    · exact scopeWord w rfl
    · exact positional w (List.mem_of_mem_drop after)

/-- Whatever line a command for resources is written as, reading it gives that command. The kind goes
by any of its aliases in letters of any case; the name is any word but the flag; the namespace is any
word, be it the flag or a verb; the flag and the namespace stand before, between or after the others,
and the blanks are any. -/
theorem ofLine_of_renders (v : Verb) (k : Kind) (resource : String) (name scope : Option String)
    (place : Nat) (line : String) (takes : v.TakesResource) (named : k.IsNamedBy resource)
    (nameWord : ∀ n ∈ name, Text.IsWord n.toList ∧ n ≠ namespaceFlag)
    (scopeWord : ∀ m ∈ scope, Text.IsWord m.toList)
    (renders : Renders (spelling v resource name scope place) line) :
    ofLine line = .ok { verb := v, kind := some k, name, scope } := by
  have areWords := isWord_of_mem_spelling v k resource name scope place named
    (fun n isName => (nameWord n isName).1) scopeWord
  obtain ⟨opened, words⟩ := arguments_of_renders _ line areWords renders
  have unflagged : namespaceFlag ∉ v.text :: resource :: name.toList := by
    have verb := v.text_ne_namespaceFlag.symm
    have given : name ≠ some namespaceFlag := fun isFlag => (nameWord _ isFlag).2 rfl
    simpa [verb, named.ne_namespaceFlag.symm] using given
  have unflags := unflags_spelling v resource name scope place unflagged
  have makes := Makes.accepted name.toList scope takes named
  rw [Option.head?_toList] at makes
  rw [ofLine_of_isOpened line opened, words]
  exact (ofWords_eq_iff _ _ scope (head?_spelling_ne_apply v resource name scope place takes) unflags
    _).mpr makes

/-- The flag for a namespace, `apply` for a name, and blanks of several kinds. -/
theorem ofLine_of_renders_flag :
    Renders ["-n", "-n", "delete", "PoDs", "apply"]
      "\u3000kubectl \t-n\u2003-n delete\u00A0PoDs\u001Dapply\n" ∧
    ofLine "\u3000kubectl \t-n\u2003-n delete\u00A0PoDs\u001Dapply\n" =
      .ok { verb := .delete, kind := some .pods, name := some "apply", scope := some "-n" } := by
  have blanks : ∀ cs : List Char, cs.all Text.isBlank = true → Text.AreBlank cs :=
    fun cs all => List.all_eq_true.mp all
  have spaced := Text.Spaced.cons [' ', '\t'] "-n".toList (by simp) (blanks _ rfl) <|
    .cons ['\u2003'] "-n".toList (by simp) (blanks _ rfl) <|
    .cons [' '] "delete".toList (by simp) (blanks _ rfl) <|
    .cons ['\u00A0'] "PoDs".toList (by simp) (blanks _ rfl) <|
    .cons ['\u001D'] "apply".toList (by simp) (blanks _ rfl) .nil
  have renders : Renders ["-n", "-n", "delete", "PoDs", "apply"]
      "\u3000kubectl \t-n\u2003-n delete\u00A0PoDs\u001Dapply\n" :=
    ⟨['\u3000'], _, ['\n'], blanks _ rfl, blanks _ rfl, rfl, spaced, rfl⟩
  refine ⟨renders, ofLine_of_renders .delete .pods "PoDs" (some "apply") (some "-n") 0 _
    (by simp [Verb.TakesResource]) ⟨"pods", by decide, by decide⟩ ?_ ?_ renders⟩
  · rintro n ⟨⟩
    exact ⟨Verb.isWord_text .apply, by decide⟩
  · rintro m ⟨⟩
    decide

end Command

end ClusterInspector
