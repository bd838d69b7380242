import ClusterInspector.Program
import ClusterInspector.Proofs.ReadBack

/-!
# Styled output

What styles output is not part of the program. It is relied on to take texts in which every tag that
opens a style is followed by one that closes it, and brackets of other kinds have a backslash before
them. Of the reports that a run can end with, those that repeat no foreign text are of this form. A
reader that keeps the open styles on a stack is what is relied on, and refuses a tag that closes nothing.
-/
namespace ClusterInspector

namespace Text

/-- No bracket in the text can begin a tag. -/
def IsBare (cs : List Char) : Prop := ∀ c ∈ cs, c ≠ '[' ∧ c ≠ '\\'

instance (cs : List Char) : Decidable (IsBare cs) := List.decidableBAll _ cs

/-- The name of a style, in small letters. -/
def IsStyle (cs : List Char) : Prop :=
  cs.head?.any Char.isLower = true ∧ ∀ c ∈ cs, c.isLower ∨ c = ' '

instance (cs : List Char) : Decidable (IsStyle cs) :=
  have : Decidable (∀ c ∈ cs, c.isLower ∨ c = ' ') := List.decidableBAll _ cs
  inferInstanceAs (Decidable (_ ∧ _))

/-- Every tag in the text that opens a style is closed by one that names no other. -/
inductive IsTagged : List Char → Prop
  | bare {cs : List Char} (isBare : IsBare cs) : IsTagged cs
  | escaped : IsTagged ['\\', '[']
  | styled {style inner close : List Char} (isStyle : IsStyle style)
    (closes : close = [] ∨ close = style) (inside : IsTagged inner) :
    IsTagged ('[' :: style ++ ']' :: inner ++ '[' :: '/' :: close ++ [']'])
  | append {front back : List Char} (before : IsTagged front) (after : IsTagged back) :
    IsTagged (front ++ back)

theorem isBare_append {front back : List Char} (before : IsBare front) (after : IsBare back) :
    IsBare (front ++ back) := by
  intro c member
  exact (List.mem_append.mp member).elim (before c) (after c)

theorem isBare_toString (n : Nat) : IsBare (toString n).toList := by
  intro c member
  rw [toList_toString] at member
  have digit := isDigit_of_mem_toDigits member
  constructor
  · rintro rfl
    cases digit
  · rintro rfl
    cases digit

end Text

namespace Styler

open Text (IsTagged)

/-- What is relied on: output whose texts are well tagged is not refused. -/
structure IsSound (y : Styler) : Prop where
  line : ∀ objects : List String, (∀ t ∈ objects, IsTagged t.toList) → y.line? objects = none
  table : ∀ t : Table, (∀ s ∈ t.texts, IsTagged s.toList) → y.table? t = none

variable (y : Styler)

theorem paint_append (first second : List Output) (taken : ∀ o ∈ first, y.complaint? o = none) :
    y.paint (first ++ second) = (first ++ (y.paint second).1, (y.paint second).2) := by
  induction first with
  | nil => rfl
  | cons o rest ih =>
    have later := ih fun o' member => taken o' (List.mem_cons_of_mem _ member)
    rw [List.cons_append, paint, taken o List.mem_cons_self, later]
    rfl

/-- Where nothing is refused everything is shown. -/
theorem paint_of_taken (outputs : List Output) (taken : ∀ o ∈ outputs, y.complaint? o = none) :
    y.paint outputs = (outputs, none) := by
  have all := y.paint_append outputs [] taken
  rwa [List.append_nil, show y.paint [] = ([], none) from rfl, List.append_nil] at all

end Styler

/-- The texts of others that the report of a failure repeats. -/
def Failure.texts : Failure → List String
  | .invalidLevel text | .invalidSeed text | .promptBroken text => [text]
  | .seedMissing | .namesExhausted | .promptsMissing | .stylingMissing | .fault _ | .lineNotText _
  | .rowNotNumber | .filterNotText _ => []

def Ending.texts : Ending → List String
  | .quit | .interrupted => []
  | .failed f => f.texts
  | .refused complaint => [complaint]

theorem Fault.isBare_message (f : Fault) : Text.IsBare f.message.toList := by
  unfold message
  split
  · rw [String.toList_append, String.toList_append, String.toList_append]
    refine Text.isBare_append (Text.isBare_append (Text.isBare_append ?_ (Text.isBare_toString _)) ?_) ?_
    · decide +kernel
    · decide +kernel
    · decide +kernel
  · decide +kernel
  · split
    · rw [String.toList_append, String.toList_append]
      refine Text.isBare_append (Text.isBare_append ?_ (Text.isBare_toString _)) ?_
      · decide +kernel
      · decide +kernel
    · decide +kernel
  · decide +kernel
  · decide +kernel

namespace Text

/-- What reads a text for tags, somewhere in the text. -/
structure TagReader where
  /-- The styles that are open, the latest first. -/
  opened : List (List Char) := []
  /-- Inside a tag, where it begins and what it holds so far. -/
  tag? : Option (Nat × List Char) := none
  /-- The next bracket begins no tag. -/
  escapes : Bool := false
  place : Nat := 0
  complaint? : Option String := none

namespace TagReader

/-- At the end of a tag a style is opened or closed. -/
def endTag (r : TagReader) (start : Nat) : List Char → TagReader
  | ['/'] =>
    match r.opened with
    | [] => { r with complaint? := s!"closing tag '[/]' at position {start} has nothing to close" }
    | _ :: opened => { r with opened }
  | '/' :: style =>
    if style ∈ r.opened then { r with opened := r.opened.erase style }
    else { r with complaint? := s!"closing tag '[/{String.ofList style}]' at position {start} " ++
      "doesn't match any open tag" }
  | style => { r with opened := style :: r.opened }

def step (r : TagReader) (c : Char) : TagReader :=
  let next := { r with place := r.place + 1 }
  match r.tag? with
  | none =>
    if c = '[' ∧ r.escapes = false then { next with tag? := some (r.place, []) }
    else { next with escapes := c = '\\' && !r.escapes }
  | some (start, tag) =>
    if c = ']' then { next with tag? := none }.endTag start tag
    else { next with tag? := some (start, tag ++ [c]) }

def read (r : TagReader) (cs : List Char) : TagReader := cs.foldl step r

/-- Between tags, with nothing to complain of. -/
structure IsIdle (r : TagReader) : Prop where
  outside : r.tag? = none
  clear : r.escapes = false

theorem read_append (r : TagReader) (cs ds : List Char) :
    r.read (cs ++ ds) = (r.read cs).read ds :=
  List.foldl_append

theorem read_bare (r : TagReader) (idle : r.IsIdle) (cs : List Char) (bare : IsBare cs) :
    r.read cs = { r with place := r.place + cs.length } := by
  induction cs generalizing r with
  | nil => rfl
  | cons c rest ih =>
    have moved : r.step c = { r with place := r.place + 1 } := by
      have plain := bare c List.mem_cons_self
      simp [step, idle.outside, idle.clear, plain]
    have later := ih { r with place := r.place + 1 } ⟨idle.outside, idle.clear⟩
      fun d member => bare d (List.mem_cons_of_mem _ member)
    rw [read, List.foldl_cons, moved]
    refine later.trans ?_
    rw [List.length_cons]
    simp only [Nat.add_assoc, Nat.add_comm 1]

/-- What stands between the brackets of a tag is kept until its end. -/
theorem read_tag (r : TagReader) (start : Nat) (seen tag : List Char)
    (inside : r.tag? = some (start, seen)) (unended : ']' ∉ tag) :
    r.read (tag ++ [']']) =
      { r with place := r.place + (tag.length + 1), tag? := none }.endTag start (seen ++ tag) := by
  induction tag generalizing r seen with
  | nil => simp [read, step, inside]
  | cons c rest ih =>
    have goesOn : c ≠ ']' := fun same => unended (same ▸ List.mem_cons_self)
    have moved : r.step c = { r with place := r.place + 1, tag? := some (start, seen ++ [c]) } := by
      simp [step, inside, goesOn]
    have later := ih { r with place := r.place + 1, tag? := some (start, seen ++ [c]) } (seen ++ [c]) rfl
      fun member => unended (List.mem_cons_of_mem _ member)
    rw [List.cons_append, read, List.foldl_cons, moved]
    refine later.trans ?_
    simp only [List.append_assoc, List.singleton_append, List.length_cons, Nat.add_assoc,
      Nat.add_comm 1]

theorem not_mem_of_isStyle {style : List Char} (isStyle : IsStyle style) {c : Char}
    (other : c.isLower = false) (dark : c ≠ ' ') : c ∉ style := by
  intro member
  rcases isStyle.2 c member with small | space
  · rw [other] at small
    cases small
  · exact dark space

theorem endTag_style (r : TagReader) (start : Nat) (style : List Char) (isStyle : IsStyle style) :
    r.endTag start style = { r with opened := style :: r.opened } := by
  have opens : '/' ∉ style := not_mem_of_isStyle isStyle rfl (by decide)
  unfold endTag
  split
  · exact absurd List.mem_cons_self opens
  · exact absurd List.mem_cons_self opens
  · rfl

/-- The style that was opened last can be closed by its name or without one. -/
theorem endTag_close (r : TagReader) (start : Nat) (style close : List Char) (opened : List (List Char))
    (latest : r.opened = style :: opened) (closes : close = [] ∨ close = style) (named : style ≠ []) :
    r.endTag start ('/' :: close) = { r with opened } := by
  unfold endTag
  rcases closes with rfl | rfl
  · simp [latest]
  · split
    · rename_i unnamed
      exact absurd (List.cons.inj unnamed).2 named
    · rename_i same
      obtain rfl := (List.cons.inj same).2
      simp [latest]
    · rename_i slash
      exact absurd rfl (slash close)

/-- A whole tag is read and takes effect. -/
theorem read_whole (r : TagReader) (idle : r.IsIdle) (tag : List Char) (unended : ']' ∉ tag) :
    r.read ('[' :: (tag ++ [']'])) =
      { r with place := r.place + (tag.length + 2) }.endTag r.place tag := by
  obtain ⟨opened, tag?, escapes, place, complaint?⟩ := r
  obtain ⟨rfl, rfl⟩ : tag? = none ∧ escapes = false := ⟨idle.outside, idle.clear⟩
  have begun : (⟨opened, none, false, place, complaint?⟩ : TagReader).step '[' =
      ⟨opened, some (place, []), false, place + 1, complaint?⟩ := by
    simp [step]
  rw [read, List.foldl_cons, begun]
  refine (read_tag _ place [] tag rfl unended).trans ?_
  rw [List.nil_append, Nat.add_assoc, Nat.add_comm 1]

theorem read_styled (r : TagReader) (idle : r.IsIdle) {style inner close : List Char}
    (isStyle : IsStyle style) (closes : close = [] ∨ close = style)
    (inside : ∀ r : TagReader, r.IsIdle → r.read inner = { r with place := r.place + inner.length }) :
    r.read ('[' :: style ++ ']' :: inner ++ '[' :: '/' :: close ++ [']']) =
      { r with place := r.place +
        ('[' :: style ++ ']' :: inner ++ '[' :: '/' :: close ++ [']']).length } := by
  have unended : ']' ∉ style := not_mem_of_isStyle isStyle rfl (by decide)
  have unended' : ']' ∉ '/' :: close := by
    rcases closes with rfl | rfl
    · decide
    · simpa using unended
  have named : style ≠ [] := by
    rintro rfl
    cases isStyle.1
  have parts : '[' :: style ++ ']' :: inner ++ '[' :: '/' :: close ++ [']'] =
      '[' :: (style ++ [']']) ++ (inner ++ '[' :: (('/' :: close) ++ [']'])) := by
    simp
  let begun : TagReader :=
    { r with place := r.place + (style.length + 2), opened := style :: r.opened }
  let passed : TagReader := { begun with place := begun.place + inner.length }
  have opens : r.read ('[' :: (style ++ [']'])) = begun :=
    (read_whole r idle style unended).trans (endTag_style _ _ style isStyle)
  have passes : begun.read inner = passed := inside begun ⟨idle.1, idle.2⟩
  have ends : passed.read ('[' :: ('/' :: close ++ [']'])) = _ :=
    (read_whole passed ⟨idle.1, idle.2⟩ _ unended').trans
      (endTag_close _ _ style close r.opened rfl closes named)
  rw [parts, read_append, opens, read_append, passes, ends]
  simp only [passed, begun, List.length_append, List.length_cons, List.length_nil]
  congr 1
  omega

/-- A text that is well tagged leaves open what was open before it. -/
theorem read_tagged {cs : List Char} (tagged : IsTagged cs) (r : TagReader) (idle : r.IsIdle) :
    r.read cs = { r with place := r.place + cs.length } := by
  induction tagged generalizing r with
  | bare isBare => exact read_bare r idle _ isBare
  | escaped => simp [read, step, idle.outside, idle.clear]
  | styled isStyle closes _ ih => exact read_styled r idle isStyle closes ih
  | @append front back _ _ ih ih' =>
    rw [read_append, ih r idle, ih' { r with place := r.place + front.length } ⟨idle.1, idle.2⟩,
      List.length_append, Nat.add_assoc]

/-- Why a text is refused, if it is. -/
def refusal? (text : String) : Option String := (read {} text.toList).complaint?

theorem refusal?_tagged (text : String) (tagged : IsTagged text.toList) : refusal? text = none := by
  rw [refusal?, read_tagged tagged {} ⟨rfl, rfl⟩]

end TagReader

end Text

namespace Styler

open Text (IsBare IsStyle IsTagged TagReader)

/-- Refuses every text in which a tag closes nothing. -/
def strict : Styler where
  line? objects := objects.findSome? TagReader.refusal?
  table? t := t.texts.findSome? TagReader.refusal?

theorem strict_isSound : strict.IsSound where
  line _ tagged := List.findSome?_eq_none_iff.mpr fun t member =>
    TagReader.refusal?_tagged t (tagged t member)
  table _ tagged := List.findSome?_eq_none_iff.mpr fun s member =>
    TagReader.refusal?_tagged s (tagged s member)

end Styler

/-- What is read for tags in an output is well tagged. -/
def Output.IsTagged : Output → Prop
  | .markup objects => ∀ t ∈ objects, Text.IsTagged t.toList
  | .table t => ∀ s ∈ t.texts, Text.IsTagged s.toList
  | .text .. | .ask _ | .diagnostic _ => True

theorem Styler.IsSound.taken {y : Styler} (sound : y.IsSound) (o : Output) (tagged : o.IsTagged) :
    y.complaint? o = none := by
  cases o with
  | markup objects => exact sound.line objects tagged
  | table t => exact sound.table t tagged
  | _ => rfl

namespace Program

open Text (IsBare IsStyle IsTagged)

/-- A heading in a style, and what follows it. -/
theorem heading_isTagged (lead style label rest : String) (leads : IsBare lead.toList)
    (isStyle : IsStyle style.toList) (labelled : IsBare label.toList) (tagged : IsTagged rest.toList) :
    IsTagged (lead ++ "[" ++ style ++ "]" ++ label ++ "[/" ++ style ++ "]" ++ rest).toList := by
  have heading : (lead ++ "[" ++ style ++ "]" ++ label ++ "[/" ++ style ++ "]" ++ rest).toList =
      lead.toList ++
        ('[' :: style.toList ++ ']' :: label.toList ++ '[' :: '/' :: style.toList ++ [']']) ++
        rest.toList := by
    simp
  rw [heading]
  exact .append (.append (.bare leads) (.styled isStyle (Or.inr rfl) (.bare labelled))) tagged

theorem append_isTagged (first second : String) (before : IsTagged first.toList)
    (after : IsTagged second.toList) : IsTagged (first ++ second).toList := by
  rw [String.toList_append]
  exact .append before after

theorem isBare_typeName (v : Scalar) : IsBare v.typeName.toList := by
  cases v with
  | number n =>
    change IsBare "int".toList
    decide
  | truth b =>
    change IsBare "bool".toList
    decide

theorem report_isTagged (f : Failure) (tagged : ∀ t ∈ f.texts, IsTagged t.toList) :
    IsTagged f.report.toList := by
  cases f with
  | fault fault =>
    have title : IsBare fault.title.toList := by
      unfold Fault.title
      split <;> decide
    exact append_isTagged _ _ (append_isTagged _ _ (.bare title) (.bare (by decide)))
      (.bare fault.isBare_message)
  | promptBroken message =>
    exact append_isTagged _ _ (.bare (by decide)) (tagged message List.mem_cons_self)
  | lineNotText v =>
    exact append_isTagged _ _ (append_isTagged _ _ (.bare (by decide)) (.bare (isBare_typeName v)))
      (.bare (by decide +kernel))
  | filterNotText v =>
    exact append_isTagged _ _ (.bare (by decide +kernel)) (.bare (isBare_typeName v))
  | seedMissing => exact .bare (by decide +kernel)
  | rowNotNumber => exact .bare (by decide +kernel)
  | _ => exact .bare nofun

/-- What an expected failure is explained by is the text that was given, after some of our own. -/
theorem explanation_isTagged (f : Failure) (tagged : ∀ t ∈ f.texts, IsTagged t.toList) (e : Explanation)
    (explained : f.explanation? = some e) :
    IsTagged e.message.toList ∧ ∀ hint ∈ e.hint, IsTagged hint.toList := by
  cases f with
  | invalidLevel name =>
    cases explained
    refine ⟨append_isTagged _ _ (.bare (by decide)) (tagged name List.mem_cons_self), ?_⟩
    rintro _ ⟨⟩
    exact .bare (by decide +kernel)
  | invalidSeed text =>
    cases explained
    refine ⟨append_isTagged _ _ (.bare (by decide)) (tagged text List.mem_cons_self), ?_⟩
    rintro _ ⟨⟩
    exact .bare (by decide +kernel)
  | namesExhausted =>
    cases explained
    exact ⟨.bare (by decide +kernel), nofun⟩
  | promptsMissing =>
    cases explained
    exact ⟨.bare (by decide +kernel), nofun⟩
  | stylingMissing =>
    cases explained
    exact ⟨.bare (by decide +kernel), nofun⟩
  | _ => cases explained

theorem unexpected_isTagged (report : String) (tagged : IsTagged report.toList) :
    ∀ o ∈ (unexpected report).1, o.IsTagged := by
  have line : IsTagged ("[bold red]Unexpected error.[/bold red] Please report this issue.\n" ++
      s!"  {report}").toList := by
    have headed := heading_isTagged "" "bold red" "Unexpected error." " Please report this issue.\n"
      nofun (by decide) (by decide) (.bare (by decide))
    exact append_isTagged _ _ headed (append_isTagged _ _ (.bare (by decide)) tagged)
  simpa [unexpected, Output.IsTagged] using line

theorem reportFailure_isTagged (f : Failure) (tagged : ∀ t ∈ f.texts, IsTagged t.toList) :
    ∀ o ∈ (reportFailure f).1, o.IsTagged := by
  unfold reportFailure
  cases explained : f.explanation? with
  | none => exact unexpected_isTagged f.report (report_isTagged f tagged)
  | some e =>
    obtain ⟨message, hint⟩ := explanation_isTagged f tagged e explained
    have first : IsTagged s!"[bold red]Error:[/bold red] {e.message}".toList :=
      append_isTagged _ _ (heading_isTagged "" "bold red" "Error:" " " nofun (by decide) (by decide)
        (.bare (by decide))) message
    have second : ∀ hint ∈ e.hint, IsTagged s!"[yellow]Hint:[/yellow] {hint}".toList := fun given here =>
      append_isTagged _ _ (heading_isTagged "" "yellow" "Hint:" " " nofun (by decide) (by decide)
        (.bare (by decide))) (hint given here)
    intro o member
    rcases List.mem_cons.mp member with rfl | among
    · exact List.forall_mem_singleton.mpr first
    · obtain ⟨given, here, rfl⟩ := Option.map_eq_some_iff.mp (Option.mem_toList.mp among)
      exact List.forall_mem_singleton.mpr (second given here)

/-- What a run ends with is well tagged if the texts are that it repeats. -/
theorem closing_isTagged (e : Ending) (tagged : ∀ t ∈ e.texts, IsTagged t.toList) :
    ∀ o ∈ (closing e).1, o.IsTagged := by
  cases e with
  | quit => nofun
  | interrupted =>
    have text : IsTagged "\n[yellow]Aborted by user.[/yellow]".toList :=
      heading_isTagged "\n" "yellow" "Aborted by user." "" (by decide) (by decide) (by decide)
        (.bare nofun)
    exact List.forall_mem_singleton.mpr (List.forall_mem_singleton.mpr text)
  | failed f => exact reportFailure_isTagged f tagged
  | refused complaint =>
    exact unexpected_isTagged _ (append_isTagged _ _ (.bare (by decide)) (tagged _ List.mem_cons_self))

/-- A report that is well tagged is shown. -/
theorem paint_closing (f : Facilities) (sound : f.styler.IsSound) (e : Ending)
    (tagged : ∀ t ∈ e.texts, IsTagged t.toList) : (f.paint (closing e).1).2 = none := by
  have taken : ∀ o ∈ (closing e).1, f.styler.complaint? o = none := fun o member =>
    sound.taken o (closing_isTagged e tagged o member)
  unfold Facilities.paint
  split
  · rw [f.styler.paint_of_taken _ taken]
  · rfl

end Program

end ClusterInspector
