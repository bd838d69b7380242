import ClusterInspector.Proofs.Listings
import ClusterInspector.View
import Mathlib.Algebra.Ring.Parity
import Mathlib.Data.List.DropRight

/-!
# Markup

The cells of a view are read for style tags. An opening bracket is taken as it stands where an odd
number of backslashes comes right before it, and can begin a tag where their number is even. The view
puts one backslash before each bracket of a record, whatever is there already, and nothing after a
text. So a bracket that follows a backslash in the record can begin a tag, and a text that ends in a
backslash takes the tag that closes its style for text.
-/
namespace ClusterInspector

namespace Text

/-- How many backslashes a text ends in. -/
def backslashes (cs : List Char) : Nat := (cs.rtakeWhile (· = '\\')).length

/-- The text has an opening bracket right after a part of it. -/
def BracketAfter (cs before : List Char) : Prop := before ++ ['['] <+: cs

theorem backslashes_concat (cs : List Char) (c : Char) :
    backslashes (cs ++ [c]) = if c = '\\' then backslashes cs + 1 else 0 := by
  rw [backslashes, List.rtakeWhile_concat]
  split <;> simp_all [backslashes]

theorem backslashes_append (front cs : List Char) (free : backslashes front = 0) :
    backslashes (front ++ cs) = backslashes cs := by
  induction cs using List.reverseRecOn with
  | nil => rw [List.append_nil, free, backslashes, List.rtakeWhile_nil, List.length_nil]
  | append_singleton cs c ih =>
    rw [← List.append_assoc, backslashes_concat, backslashes_concat, ih]

theorem backslashes_of_not_mem (cs : List Char) (free : '\\' ∉ cs) : backslashes cs = 0 := by
  induction cs using List.reverseRecOn with
  | nil => rfl
  | append_singleton cs c ih =>
    have other : c ≠ '\\' := by
      rintro rfl
      simp at free
    rw [backslashes_concat, if_neg other]

theorem bracketAfter_append (cs ds before : List Char) :
    BracketAfter (cs ++ ds) before ↔
      BracketAfter cs before ∨ ∃ rest, before = cs ++ rest ∧ BracketAfter ds rest := by
  induction cs generalizing before with
  | nil => simp [BracketAfter]
  | cons c cs ih =>
    cases before with
    | nil => simp [BracketAfter]
    | cons b before =>
      have among := ih before
      simp only [BracketAfter, List.cons_append, List.cons_prefix_cons, List.cons_eq_cons] at among ⊢
      rw [among]
      grind

theorem bracketAfter_singleton (c : Char) (before : List Char) :
    BracketAfter [c] before ↔ before = [] ∧ c = '[' := by
  cases before with
  | nil => simp [BracketAfter, eq_comm]
  | cons b before => simp [BracketAfter]

/-- A text that begins with its only bracket. -/
theorem bracketAfter_cons (body before : List Char) (plain : '[' ∉ body) :
    BracketAfter ('[' :: body) before ↔ before = [] := by
  cases before with
  | nil => simp [BracketAfter]
  | cons b before =>
    refine iff_of_false (fun bracket => plain ?_) (List.cons_ne_nil b before)
    have within : before ++ ['['] <+: body := (List.cons_prefix_cons.mp bracket).2
    exact within.subset (List.mem_append_right _ (List.mem_singleton_self '['))

end Text

namespace View

open Text (backslashes BracketAfter)

/-- The characters of a text with a backslash before each opening bracket. -/
def escaped (cs : List Char) : List Char := cs.flatMap fun c => if c = '[' then ['\\', '['] else [c]

theorem toList_escape (s : String) : (escape s).toList = escaped s.toList := String.toList_ofList

theorem escaped_concat (cs : List Char) (c : Char) :
    escaped (cs ++ [c]) = escaped cs ++ if c = '[' then ['\\', '['] else [c] := by
  rw [escaped, List.flatMap_append, List.flatMap_singleton]
  rfl

/-- The backslashes at the end are those of the text itself. -/
theorem backslashes_escaped (cs : List Char) : backslashes (escaped cs) = backslashes cs := by
  induction cs using List.reverseRecOn with
  | nil => rfl
  | append_singleton cs c ih =>
    rw [escaped_concat, Text.backslashes_concat]
    split
    · rename_i bracket
      subst bracket
      rw [show ['\\', '['] = ['\\'] ++ ['['] from rfl, ← List.append_assoc, Text.backslashes_concat]
      rfl
    · rw [Text.backslashes_concat, ih]

/-- The brackets are those of the text itself, each with one backslash more before it. -/
theorem bracketAfter_escaped (cs before : List Char) :
    BracketAfter (escaped cs) before ↔
      ∃ front, BracketAfter cs front ∧ before = escaped front ++ ['\\'] := by
  induction cs using List.reverseRecOn generalizing before with
  | nil => simp [BracketAfter, escaped]
  | append_singleton cs c ih =>
    have last : (∃ rest, before = escaped cs ++ rest ∧
          BracketAfter (if c = '[' then ['\\', '['] else [c]) rest) ↔
        ∃ front, (∃ rest, front = cs ++ rest ∧ BracketAfter [c] rest) ∧
          before = escaped front ++ ['\\'] := by
      by_cases bracket : c = '['
      · have backslash : ∀ rest, BracketAfter ['\\', '['] rest ↔ rest = ['\\'] := by
          intro rest
          rw [show ['\\', '['] = ['\\'] ++ ['['] from rfl, Text.bracketAfter_append]
          simp [Text.bracketAfter_singleton]
        simp [bracket, backslash, Text.bracketAfter_singleton]
      · simp [bracket, Text.bracketAfter_singleton]
    rw [escaped_concat, Text.bracketAfter_append, ih, last]
    simp only [Text.bracketAfter_append, or_and_right, exists_or]

/-- A cell before it is written: a text of a record, and the style that it is shown in, if any. -/
structure Cell where
  text : String
  style : Option String := none
  deriving DecidableEq, Repr

/-- What a bracket of a written cell belongs to. -/
inductive Origin where
  | record | tag
  deriving DecidableEq, Repr

namespace Cell

/-- The tag that opens the style. -/
def openTag (x : Cell) : List Char :=
  match x.style with
  | none => []
  | some style => '[' :: (style.toList ++ [']'])

/-- The tag that closes the style. -/
def closeTag (x : Cell) : List Char :=
  if x.style.isSome then ['[', '/', ']'] else []

def written (x : Cell) : String :=
  match x.style with
  | none => escape x.text
  | some style => tagged style (escape x.text)

theorem toList_written (x : Cell) :
    x.written.toList = x.openTag ++ (escaped x.text.toList ++ x.closeTag) := by
  obtain ⟨text, style⟩ := x
  cases style with
  | none => simp [written, openTag, closeTag, toList_escape]
  | some style =>
    change ("[" ++ style ++ "]" ++ escape text ++ "[/]").toList = _
    simp [openTag, closeTag, toList_escape]

/-- A bracket of the written cell, by what it belongs to and what stands before it. -/
inductive Bracket (x : Cell) : Origin → List Char → Prop
  | own {front : List Char} (held : BracketAfter x.text.toList front) :
    Bracket x .record (x.openTag ++ (escaped front ++ ['\\']))
  | opens (styled : x.style.isSome) : Bracket x .tag []
  | closes (styled : x.style.isSome) : Bracket x .tag (x.openTag ++ escaped x.text.toList)

/-- There are no other brackets in the written cell. -/
theorem bracketAfter_written (x : Cell) (plain : ∀ style ∈ x.style, '[' ∉ style.toList)
    (before : List Char) :
    BracketAfter x.written.toList before ↔ ∃ origin, x.Bracket origin before := by
  have opened : BracketAfter x.openTag before ↔ x.style.isSome ∧ before = [] := by
    unfold openTag
    split
    · rename_i unstyled
      simp [BracketAfter, unstyled]
    · rename_i style styled
      rw [Text.bracketAfter_cons _ _ (by simp [plain style styled])]
      simp [styled]
  have closed : ∀ rest, BracketAfter x.closeTag rest ↔ x.style.isSome ∧ rest = [] := by
    intro rest
    unfold closeTag
    split
    · rename_i styled
      rw [Text.bracketAfter_cons _ _ (by decide), and_iff_right styled]
    · rename_i unstyled
      simp [BracketAfter, unstyled]
  rw [toList_written, Text.bracketAfter_append, opened]
  simp only [Text.bracketAfter_append, bracketAfter_escaped, closed]
  constructor
  · rintro (⟨styled, rfl⟩ | ⟨_, rfl, ⟨front, held, rfl⟩ | ⟨_, rfl, styled, rfl⟩⟩)
    · exact ⟨.tag, .opens styled⟩
    · exact ⟨.record, .own held⟩
    · rw [List.append_nil]
      exact ⟨.tag, .closes styled⟩
  · rintro ⟨origin, held | styled | styled⟩
    · exact Or.inr ⟨_, rfl, Or.inl ⟨_, held, rfl⟩⟩
    · exact Or.inl ⟨styled, rfl⟩
    · exact Or.inr ⟨_, rfl, Or.inr ⟨[], (List.append_nil _).symm, styled, rfl⟩⟩

theorem backslashes_openTag (x : Cell) : backslashes x.openTag = 0 := by
  unfold openTag
  split
  · rfl
  · rw [← List.cons_append, Text.backslashes_concat]
    rfl

/-- A reader takes the brackets of the record as they stand, and those of the tags for tags. -/
def IsInert (x : Cell) : Prop :=
  ∀ origin before, x.Bracket origin before → (Odd (backslashes before) ↔ origin = .record)

theorem isInert_iff (x : Cell) :
    x.IsInert ↔ (∀ front, BracketAfter x.text.toList front → Even (backslashes front)) ∧
      (x.style.isSome → Even (backslashes x.text.toList)) := by
  have own : ∀ front, Odd (backslashes (x.openTag ++ (escaped front ++ ['\\']))) ↔
      Even (backslashes front) := by
    intro front
    rw [← List.append_assoc, Text.backslashes_concat, if_pos rfl,
      Text.backslashes_append _ _ x.backslashes_openTag, backslashes_escaped, Nat.odd_add_one,
      Nat.not_odd_iff_even]
  have closes : backslashes (x.openTag ++ escaped x.text.toList) = backslashes x.text.toList := by
    rw [Text.backslashes_append _ _ x.backslashes_openTag, backslashes_escaped]
  constructor
  · intro inert
    refine ⟨fun front held => (own front).mp ((inert _ _ (.own held)).mpr rfl), fun styled => ?_⟩
    rw [← closes, ← Nat.not_odd_iff_even, inert _ _ (.closes styled)]
    decide
  · rintro ⟨heldEven, endEven⟩ origin before (held | styled | styled)
    · exact iff_of_true ((own _).mpr (heldEven _ held)) rfl
    · exact iff_of_false (by decide) (by decide)
    · rw [closes, ← Nat.not_even_iff_odd]
      exact iff_of_false (not_not_intro (endEven styled)) (by decide)

end Cell

/-- The style of a record's cell in a column. -/
def style? : {k : Kind} → k.Record → Nat → Option String
  | .namespaces, _, 1 => some "green"
  | .pods, r, 2 => some (statusStyle r)
  | .pods, r, 3 => if Pod.restarts r > 0 then some "yellow" else none
  | _, _, _ => none

/-- The cells of a record before they are written. -/
def laidOut {k : Kind} (r : k.Record) : List Cell :=
  (Listing.cells r).zipIdx.map fun cell => { text := cell.1, style := style? r cell.2 }

theorem cells_eq {k : Kind} (r : k.Record) : cells r = (laidOut r).map Cell.written := by
  cases k with
  | namespaces => rfl
  | pods =>
    by_cases restarted : Pod.restarts r > 0
    · simp [cells, laidOut, style?, restarted, Listing.cells, Cell.written]
    · simp [cells, laidOut, style?, restarted, Listing.cells, Cell.written]
  | deployments => rfl
  | daemonsets => rfl

theorem text_laidOut {k : Kind} (r : k.Record) : (laidOut r).map Cell.text = Listing.cells r := by
  rw [laidOut, List.map_map]
  exact List.zipIdx_map_fst 0 (Listing.cells r)

/-- The styles that cells are shown in. -/
def cellStyles : List String := ["green", "yellow", "red"]

theorem style?_mem {k : Kind} (r : k.Record) (column : Nat) :
    ∀ style ∈ style? r column, style ∈ cellStyles := by
  have status : ∀ pod, statusStyle pod ∈ cellStyles := by
    intro pod
    unfold statusStyle
    split
    · decide
    · split <;> decide
  unfold style?
  split
  · rintro style ⟨⟩
    decide
  · rintro style ⟨⟩
    exact status _
  · split
    · rintro style ⟨⟩
      decide
    · nofun
  · nofun

theorem plain_style? {k : Kind} (r : k.Record) (column : Nat) :
    ∀ style ∈ style? r column, '[' ∉ style.toList := by
  have plain : ∀ style ∈ cellStyles, '[' ∉ style.toList := by decide
  exact fun style shown => plain style (style?_mem r column style shown)

/-- The free text that is shown in a style. That of a pod's status is one of a few, and that of its
restarts is a number. -/
def styledText? : {k : Kind} → k.Record → Option String
  | .namespaces, r => some (Namespace.status r)
  | .pods, _ | .deployments, _ | .daemonsets, _ => none

theorem backslashes_status (status : PodStatus) (marked : Bool) :
    backslashes (status.text ++ if marked then Listing.problemMark else "").toList = 0 := by
  cases status <;> cases marked <;> decide

theorem backslashes_toString (n : Int) : backslashes (toString n).toList = 0 := by
  refine Text.backslashes_of_not_mem _ fun member => ?_
  rcases Text.mem_toString member with sign | digit
  · cases sign
  · cases digit

theorem styled_even_iff {k : Kind} (r : k.Record) :
    (∀ x ∈ laidOut r, x.style.isSome → Even (backslashes x.text.toList)) ↔
      ∀ text ∈ styledText? r, Even (backslashes text.toList) := by
  cases k with
  | namespaces => simp [laidOut, Listing.cells, style?, styledText?]
  | pods =>
    simp only [laidOut, Listing.cells, styledText?, List.zipIdx_cons, List.zipIdx_nil, List.map_cons,
      List.map_nil, List.forall_mem_cons, backslashes_status, backslashes_toString]
    simp [style?]
  | deployments => simp [laidOut, Listing.cells, style?, styledText?]
  | daemonsets => simp [laidOut, Listing.cells, style?, styledText?]

/-- Each bracket of a record's cells is one of the record's own or one of a style tag. All those of the
record are taken as they stand, and all those of the tags for tags, if and only if in no cell of the
listing a bracket follows an odd number of backslashes, nor the status of a namespace ends in one. -/
theorem markup_inert_iff {k : Kind} (r : k.Record) :
    cells r = (laidOut r).map Cell.written ∧ (laidOut r).map Cell.text = Listing.cells r ∧
    (∀ x ∈ laidOut r, ∀ before,
      BracketAfter x.written.toList before ↔ ∃ origin, x.Bracket origin before) ∧
    ((∀ x ∈ laidOut r, x.IsInert) ↔
      (∀ text ∈ Listing.cells r, ∀ front, BracketAfter text.toList front →
        Even (backslashes front)) ∧
      ∀ text ∈ styledText? r, Even (backslashes text.toList)) := by
  refine ⟨cells_eq r, text_laidOut r, ?_, ?_⟩
  · intro x member
    obtain ⟨⟨text, column⟩, _, rfl⟩ := List.mem_map.mp member
    exact Cell.bracketAfter_written _ (plain_style? r column)
  · rw [← styled_even_iff, ← text_laidOut]
    simp only [Cell.isInert_iff, List.forall_mem_map, forall₂_and]

/-- The bracket of a name comes after two backslashes and can begin a tag, and the one that is to close
the style of a status comes after one and is text. -/
theorem bracket_slips_through :
    let r : Kind.namespaces.Record := (⟨"blue\\[red]", "Active\\", "9d"⟩ : Namespace)
    let name : Cell := { text := "blue\\[red]" }
    let status : Cell := { text := "Active\\", style := some "green" }
    cells r = ["blue\\\\[red]", "[green]Active\\[/]", "9d"] ∧ name ∈ laidOut r ∧ status ∈ laidOut r ∧
    (∃ before, name.Bracket .record before ∧ backslashes before = 2) ∧
    ∃ before, status.Bracket .tag before ∧ backslashes before = 1 := by
  intro r name status
  have held : BracketAfter name.text.toList "blue\\".toList := ⟨"red]".toList, by decide⟩
  refine ⟨by decide +kernel, by decide, by decide, ⟨_, .own held, ?_⟩, ⟨_, .closes rfl, ?_⟩⟩
  · decide
  · decide

end View

end ClusterInspector
