import ClusterInspector.Text.Blank
import ClusterInspector.Text.Table
import Mathlib.Data.List.Basic
import Mathlib.Data.List.DropRight

/-!
# Tables read back

A table is read line by line and, in a line, column by column: the columns start where the widths
say, and the widths can be told from the dashes. Main statement: what is read is what was laid out.
-/
namespace ClusterInspector

namespace Text

/-- The lines of a text. -/
def lines (text : String) : List String := (text.toList.splitOn '\n').map String.ofList

theorem lines_intercalate (ls : List String) (some : ls ≠ [])
    (whole : ∀ l ∈ ls, '\n' ∉ l.toList) : lines ("\n".intercalate ls) = ls := by
  have pieces : ∀ cs ∈ ls.map String.toList, '\n' ∉ cs := by
    intro cs member
    obtain ⟨l, listed, rfl⟩ := List.mem_map.mp member
    exact whole l listed
  have newline : "\n".toList = ['\n'] := rfl
  rw [lines, String.toList_intercalate, newline,
    List.splitOn_intercalate '\n' pieces (by simpa using some), List.map_map]
  simp [Function.comp_def]

theorem mem_of_mem_intercalate {sep : List Char} {pieces : List (List Char)} {c : Char}
    (member : c ∈ sep.intercalate pieces) : c ∈ sep ∨ ∃ piece ∈ pieces, c ∈ piece := by
  induction pieces with
  | nil => cases member
  | cons piece rest ih =>
    cases rest with
    | nil => exact Or.inr ⟨piece, List.mem_cons_self, by simpa using member⟩
    | cons next rest =>
      rw [List.intercalate_cons_cons, List.mem_append, List.mem_append] at member
      rcases member with (here | between) | later
      · exact Or.inr ⟨piece, List.mem_cons_self, here⟩
      · exact Or.inl between
      · refine (ih later).imp_right ?_
        rintro ⟨other, listed, among⟩
        exact ⟨other, List.mem_cons_of_mem _ listed, among⟩

/-- A part of a line without the spaces at its end. -/
def slice (line : String) (start stop : Nat) : String :=
  String.ofList (((line.toList.drop start).take (stop - start)).rdropWhile (· == ' '))

theorem rdropWhile_spaces (cs : List Char) (n : Nat) (ends : cs.getLast? ≠ some ' ') :
    (cs ++ List.replicate n ' ').rdropWhile (· == ' ') = cs := by
  rw [List.rdropWhile, List.reverse_append, dropWhile_append_of_head?, List.reverse_reverse]
  · intro c member
    rw [List.mem_reverse, List.mem_replicate] at member
    simp [member.2]
  · intro c first
    rw [List.head?_reverse, Option.mem_def] at first
    refine beq_eq_false_iff_ne.mpr ?_
    rintro rfl
    exact ends first

namespace Table

theorem le_foldl_longest (texts : List String) (w : Nat) :
    w ≤ texts.foldl (fun w s => max w s.length) w ∧
    ∀ s ∈ texts, s.length ≤ texts.foldl (fun w s => max w s.length) w := by
  induction texts generalizing w with
  | nil => exact ⟨Nat.le_refl w, nofun⟩
  | cons t rest ih =>
    obtain ⟨least, bound⟩ := ih (max w t.length)
    rw [List.foldl_cons]
    refine ⟨by omega, ?_⟩
    intro s member
    rcases List.mem_cons.mp member with rfl | among
    · omega
    · exact bound s among

theorem le_longest {texts : List String} {s : String} (member : s ∈ texts) :
    s.length ≤ longest texts :=
  (le_foldl_longest texts 0).2 s member

/-- Each cell has its column, with room for the padding after it. -/
inductive Fits : List Nat → List String → Prop
  | nil {widths : List Nat} : Fits widths []
  | cons {w : Nat} {widths : List Nat} {cell : String} {cells : List String}
    (room : cell.length + padding ≤ w) (rest : Fits widths cells) :
    Fits (w :: widths) (cell :: cells)

theorem fits_of_room (widths : List Nat) (cells : List String)
    (room : ∀ (i : Nat) (cell : String), cells[i]? = some cell →
      ∃ w, widths[i]? = some w ∧ cell.length + padding ≤ w) : Fits widths cells := by
  induction cells generalizing widths with
  | nil => exact .nil
  | cons cell rest ih =>
    obtain ⟨w, first, fits⟩ := room 0 cell rfl
    cases widths with
    | nil => cases first
    | cons w' widths =>
      cases first
      exact .cons fits (ih widths fun i => room (i + 1))

theorem getElem?_widths (headers : List String) (rows : List (List String)) (i : Nat) :
    (widths headers rows)[i]? =
      headers[i]?.map fun h => longest (h :: rows.filterMap (·[i]?)) + padding := by
  rw [widths, List.getElem?_mapIdx]

/-- A column has room for its header and for the cell that any row has in it. -/
theorem fits_widths (headers : List String) (rows : List (List String)) (row : List String)
    (member : row ∈ headers :: rows) (short : row.length ≤ headers.length) :
    Fits (widths headers rows) row := by
  refine fits_of_room _ row fun i cell present => ?_
  obtain ⟨within, _⟩ := List.getElem?_eq_some_iff.mp present
  obtain ⟨header, above⟩ : ∃ h, headers[i]? = some h :=
    ⟨_, List.getElem?_eq_getElem (by omega)⟩
  refine ⟨longest (header :: rows.filterMap (·[i]?)) + padding, ?_, ?_⟩
  · rw [getElem?_widths, above]
    rfl
  · have counted : cell ∈ header :: rows.filterMap (·[i]?) := by
      rcases List.mem_cons.mp member with rfl | among
      · rw [above] at present
        cases present
        exact List.mem_cons_self
      · exact List.mem_cons_of_mem _ (List.mem_filterMap.mpr ⟨row, among, present⟩)
    exact Nat.add_le_add_right (le_longest counted) padding

/-- Where a column starts: behind the earlier ones, each with the space that joins it to the next. -/
def offset : List Nat → Nat → Nat
  | [], _ | _, 0 => 0
  | w :: widths, i + 1 => w + 1 + offset widths i

theorem offset_zero (widths : List Nat) : offset widths 0 = 0 := by
  cases widths <;> rfl

theorem offset_cons (w : Nat) (widths : List Nat) (i : Nat) :
    offset (w :: widths) (i + 1) = w + 1 + offset widths i := rfl

theorem offset_succ (widths : List Nat) (i w : Nat) (column : widths[i]? = some w) :
    offset widths (i + 1) = offset widths i + (w + 1) := by
  induction widths generalizing i with
  | nil => cases column
  | cons v widths ih =>
    cases i with
    | zero =>
      obtain rfl : v = w := Option.some.inj column
      simp only [offset_cons, offset_zero]
      omega
    | succ i =>
      have later := ih i column
      simp only [offset_cons]
      omega

theorem toList_pad (w : Nat) (cell : String) :
    (pad w cell).toList = cell.toList ++ List.replicate (w - cell.length) ' ' := by
  rw [pad, String.toList_append, String.toList_ofList]

theorem line_nil (widths : List Nat) : line widths [] = "" := by
  rw [line, List.zipWith_nil_right]
  rfl

theorem toList_line_singleton (w : Nat) (widths : List Nat) (cell : String) :
    (line (w :: widths) [cell]).toList = (pad w cell).toList := by
  rw [line, String.toList_intercalate]
  simp

theorem toList_line_cons (w : Nat) (widths : List Nat) (cell next : String) (cells : List String)
    (fits : Fits widths (next :: cells)) :
    (line (w :: widths) (cell :: next :: cells)).toList =
      (pad w cell).toList ++ ' ' :: (line widths (next :: cells)).toList := by
  cases fits with
  | cons room rest =>
    simp only [line, String.toList_intercalate, List.zipWith_cons_cons, List.map_cons,
      List.intercalate_cons_cons]
    rw [List.append_assoc]
    rfl

/-- The cell begins at a place of the line and is followed by two spaces or more up to the width of its
column, where the line ends or a space leads to the next column. -/
def StandsAt (line : String) (start width : Nat) (cell : String) : Prop :=
  ∃ before gap after, line.toList = before ++ (cell.toList ++ List.replicate gap ' ' ++ after) ∧
    before.length = start ∧ 2 ≤ gap ∧ cell.length + gap = width ∧
    (after = [] ∨ ∃ later, after = ' ' :: later)

theorem Fits.standsAt {widths : List Nat} {cells : List String} (fits : Fits widths cells) (i : Nat)
    (cell : String) (present : cells[i]? = some cell) :
    ∃ w, widths[i]? = some w ∧ StandsAt (line widths cells) (offset widths i) w cell := by
  induction fits generalizing i with
  | nil => cases present
  | @cons w widths front cells room rest ih =>
    have gap : 2 ≤ w - front.length ∧ front.length + (w - front.length) = w := by
      rw [padding] at room
      omega
    cases i with
    | zero =>
      obtain rfl : front = cell := Option.some.inj present
      refine ⟨w, rfl, [], w - front.length, ?_⟩
      cases rest with
      | nil =>
        refine ⟨[], ?_, rfl, gap.1, gap.2, Or.inl rfl⟩
        rw [toList_line_singleton, toList_pad, List.append_nil, List.nil_append]
      | @cons w' widths next cells room' rest' =>
        refine ⟨' ' :: (line (w' :: widths) (next :: cells)).toList, ?_, rfl, gap.1, gap.2,
          Or.inr ⟨_, rfl⟩⟩
        rw [toList_line_cons w _ front next cells (.cons room' rest'), toList_pad, List.nil_append]
    | succ i =>
      obtain ⟨width, column, before, gap', after, split, start, stands⟩ := ih i present
      refine ⟨width, column, (pad w front).toList ++ ' ' :: before, gap', after, ?_, ?_, stands⟩
      · cases rest with
        | nil => cases present
        | cons room' rest' =>
          rw [toList_line_cons w _ front _ _ (.cons room' rest'), split]
          simp only [List.append_assoc, List.cons_append]
      · rw [offset_cons, List.length_append, List.length_cons, start, toList_pad, List.length_append,
          List.length_replicate, String.length_toList]
        omega

/-- Cut at its column, a cell comes back whatever spaces follow it. -/
theorem slice_of_standsAt (line cell : String) (start width : Nat)
    (stands : StandsAt line start width cell) (ends : cell.toList.getLast? ≠ some ' ') :
    slice line start (start + (width + 1)) = cell := by
  obtain ⟨before, gap, after, split, begins, _, fills, rest⟩ := stands
  have taken : width + 1 - (cell.toList ++ List.replicate gap ' ').length = 1 := by
    rw [List.length_append, List.length_replicate, String.length_toList]
    omega
  have reach : (cell.toList ++ List.replicate gap ' ').length ≤ width + 1 := by omega
  rw [slice, split, List.drop_left' begins, Nat.add_sub_cancel_left, List.take_append,
    List.take_of_length_le reach, taken]
  have spaces : ∃ n, cell.toList ++ List.replicate gap ' ' ++ after.take 1 =
      cell.toList ++ List.replicate n ' ' := by
    rcases rest with rfl | ⟨later, rfl⟩
    · exact ⟨gap, by simp⟩
    · refine ⟨gap + 1, ?_⟩
      rw [List.append_assoc, List.replicate_succ']
      rfl
  obtain ⟨n, same⟩ := spaces
  rw [same, rdropWhile_spaces cell.toList n ends, String.ofList_toList]

/-- A line reaches into just the columns that it has cells for. -/
theorem Fits.offset_lt_iff {widths : List Nat} {cells : List String} (fits : Fits widths cells)
    (i : Nat) : offset widths i < (line widths cells).length ↔ i < cells.length := by
  induction fits generalizing i with
  | nil =>
    rw [line_nil]
    simp
  | @cons w widths first cells room rest ih =>
    have filled : (pad w first).toList.length = w := by
      rw [toList_pad, List.length_append, List.length_replicate, String.length_toList]
      omega
    rw [padding] at room
    cases rest with
    | nil =>
      rw [← String.length_toList, toList_line_singleton, filled]
      cases i with
      | zero =>
        rw [offset_zero, List.length_singleton]
        omega
      | succ i =>
        rw [offset_cons, List.length_singleton]
        omega
    | @cons w' widths next cells room' rest' =>
      rw [← String.length_toList, toList_line_cons w _ first next cells (.cons room' rest'),
        List.length_append, List.length_cons, filled, String.length_toList]
      cases i with
      | zero =>
        rw [offset_zero, List.length_cons]
        omega
      | succ i =>
        have later := ih i
        rw [offset_cons, List.length_cons]
        omega

/-- A line has these cells and no more, each where its column starts. -/
structure Holds (widths : List Nat) (line : String) (cells : List String) : Prop where
  stands : ∀ (i : Nat) (cell : String), cells[i]? = some cell →
    ∃ w, widths[i]? = some w ∧ StandsAt line (offset widths i) w cell
  reaches : ∀ i, offset widths i < line.length ↔ i < cells.length
  cut : ∀ (i : Nat) (cell : String), cells[i]? = some cell → cell.toList.getLast? ≠ some ' ' →
    slice line (offset widths i) (offset widths (i + 1)) = cell

theorem Fits.holds {widths : List Nat} {cells : List String} (fits : Fits widths cells) :
    Holds widths (line widths cells) cells := by
  refine ⟨fits.standsAt, fits.offset_lt_iff, ?_⟩
  intro i cell present ends
  obtain ⟨w, column, stands⟩ := fits.standsAt i cell present
  rw [offset_succ widths i w column]
  exact slice_of_standsAt _ _ _ _ stands ends

/-- The cells of a line, one for each column that it reaches into. -/
def readRow (widths : List Nat) (line : String) : List String :=
  ((List.range widths.length).filter fun i => offset widths i < line.length).map fun i =>
    slice line (offset widths i) (offset widths (i + 1))

theorem Holds.readRow_eq {widths : List Nat} {line : String} {cells : List String}
    (holds : Holds widths line cells) (short : cells.length ≤ widths.length)
    (ends : ∀ cell ∈ cells, cell.toList.getLast? ≠ some ' ') : readRow widths line = cells := by
  have reached : (List.range widths.length).filter
      (fun i => decide (offset widths i < line.length)) = List.range cells.length := by
    obtain ⟨further, count⟩ := Nat.exists_eq_add_of_le short
    simp only [holds.reaches]
    rw [count, List.range_add, List.filter_append, List.filter_eq_self.mpr,
      List.filter_eq_nil_iff.mpr, List.append_nil]
    · simp
    · simp
  rw [readRow, reached]
  refine List.ext_getElem (by simp) fun i before after => ?_
  rw [List.getElem_map, List.getElem_range]
  exact holds.cut i _ (List.getElem?_eq_getElem after) (ends _ (List.getElem_mem after))

theorem mem_line {widths : List Nat} {cells : List String} {c : Char}
    (member : c ∈ (line widths cells).toList) : c = ' ' ∨ ∃ cell ∈ cells, c ∈ cell.toList := by
  rw [line, String.toList_intercalate] at member
  rcases mem_of_mem_intercalate member with between | ⟨piece, listed, among⟩
  · exact Or.inl (List.mem_singleton.mp between)
  · rw [List.map_zipWith, ← List.map_uncurry_zip_eq_zipWith] at listed
    obtain ⟨⟨w, cell⟩, pair, rfl⟩ := List.mem_map.mp listed
    rw [Function.uncurry_apply_pair, toList_pad, List.mem_append] at among
    rcases among with here | behind
    · exact Or.inr ⟨cell, (List.of_mem_zip pair).2, here⟩
    · exact Or.inl (List.eq_of_mem_replicate behind)

theorem mem_rule {widths : List Nat} {c : Char} (member : c ∈ (rule widths).toList) :
    c = ' ' ∨ c = '-' := by
  rw [rule, String.toList_intercalate] at member
  rcases mem_of_mem_intercalate member with between | ⟨piece, listed, among⟩
  · exact Or.inl (List.mem_singleton.mp between)
  · rw [List.map_map] at listed
    obtain ⟨w, _, rfl⟩ := List.mem_map.mp listed
    rw [Function.comp_apply, String.toList_ofList] at among
    exact Or.inr (List.eq_of_mem_replicate among)

/-- The widths that a line of dashes shows. -/
def ruled (rule : String) : List Nat := (rule.toList.splitOn ' ').map (·.length + 1)

theorem ruled_rule (widths : List Nat) (some : widths ≠ []) (wide : ∀ w ∈ widths, 0 < w) :
    ruled (rule widths) = widths := by
  have dashes : ∀ cs ∈ widths.map (fun w => List.replicate (w - 1) '-'), ' ' ∉ cs := by
    intro cs member space
    obtain ⟨w, _, rfl⟩ := List.mem_map.mp member
    cases List.eq_of_mem_replicate space
  have pieces : (rule widths).toList =
      [' '].intercalate (widths.map fun w => List.replicate (w - 1) '-') := by
    rw [rule, String.toList_intercalate, List.map_map]
    simp only [Function.comp_def, String.toList_ofList]
    rfl
  rw [ruled, pieces, List.splitOn_intercalate ' ' dashes (by simpa using some), List.map_map]
  have same : ∀ w ∈ widths, ((·.length + 1) ∘ fun w => List.replicate (w - 1) '-') w = w := by
    intro w member
    have positive := wide w member
    rw [Function.comp_apply, List.length_replicate]
    omega
  rw [List.map_congr_left same, List.map_id']

theorem padding_le_of_mem_widths (headers : List String) (rows : List (List String)) (w : Nat)
    (member : w ∈ widths headers rows) : padding ≤ w := by
  obtain ⟨i, column⟩ := List.mem_iff_getElem?.mp member
  rw [getElem?_widths] at column
  obtain ⟨h, _, rfl⟩ := Option.map_eq_some_iff.mp column
  exact Nat.le_add_left padding _

theorem ruled_rule_widths (headers : List String) (rows : List (List String)) (some : headers ≠ []) :
    ruled (rule (widths headers rows)) = widths headers rows := by
  refine ruled_rule _ ?_ ?_
  · rw [← List.length_pos_iff, length_widths]
    exact List.length_pos_iff.mpr some
  · intro w member
    exact Nat.lt_of_lt_of_le (by decide) (padding_le_of_mem_widths headers rows w member)

theorem render_eq_error_iff (headers : List String) (rows : List (List String)) :
    render headers rows = .error .rowTooLong ↔ ∃ row ∈ rows, headers.length < row.length := by
  rw [render_eq]
  split
  · rename_i short
    constructor
    · intro failed
      cases failed
    · rintro ⟨row, member, long⟩
      have fits := short row member
      omega
  · rename_i long
    simpa using long

theorem lines_layout (headers : List String) (rows : List (List String))
    (whole : ∀ row ∈ headers :: rows, ∀ cell ∈ row, '\n' ∉ cell.toList) :
    lines (layout headers rows) =
      line (widths headers rows) headers :: rule (widths headers rows) ::
        rows.map (line (widths headers rows)) := by
  have unbroken : ∀ row ∈ headers :: rows, '\n' ∉ (line (widths headers rows) row).toList := by
    intro row member newline
    rcases mem_line newline with space | ⟨cell, listed, among⟩
    · cases space
    · exact whole row member cell listed among
  refine lines_intercalate _ (List.cons_ne_nil _ _) fun l listed newline => ?_
  rcases List.mem_cons.mp listed with rfl | listed
  · exact unbroken headers List.mem_cons_self newline
  · rcases List.mem_cons.mp listed with rfl | listed
    · rcases mem_rule newline with space | dash
      · cases space
      · cases dash
    · obtain ⟨row, member, rfl⟩ := List.mem_map.mp listed
      exact unbroken row (List.mem_cons_of_mem _ member) newline

/-- A text has a line with the headers, a line of dashes that shows the widths of the columns, and
a line with each row. -/
structure IsTable (headers : List String) (rows : List (List String)) (text : String) : Prop where
  count : (lines text).length = 2 + rows.length
  header : ∃ l, (lines text)[0]? = some l ∧ Holds (widths headers rows) l headers
  dashes : ∃ l, (lines text)[1]? = some l ∧ (∀ c ∈ l.toList, c = ' ' ∨ c = '-') ∧
    (headers ≠ [] → ruled l = widths headers rows)
  body : ∀ (n : Nat) (row : List String), rows[n]? = some row →
    ∃ l, (lines text)[n + 2]? = some l ∧ Holds (widths headers rows) l row

theorem isTable_layout (headers : List String) (rows : List (List String))
    (short : ∀ row ∈ rows, row.length ≤ headers.length)
    (whole : ∀ row ∈ headers :: rows, ∀ cell ∈ row, '\n' ∉ cell.toList) :
    IsTable headers rows (layout headers rows) := by
  have split := lines_layout headers rows whole
  constructor
  · rw [split, List.length_cons, List.length_cons, List.length_map]
    omega
  · rw [split]
    exact ⟨_, rfl, (fits_widths headers rows headers List.mem_cons_self (Nat.le_refl _)).holds⟩
  · rw [split]
    exact ⟨_, rfl, fun c => mem_rule, ruled_rule_widths headers rows⟩
  · intro n row listed
    have member := List.mem_of_getElem? listed
    refine ⟨line (widths headers rows) row, ?_, ?_⟩
    · rw [split, List.getElem?_cons_succ, List.getElem?_cons_succ, List.getElem?_map, listed]
      rfl
    · exact (fits_widths headers rows row (List.mem_cons_of_mem _ member) (short row member)).holds

/-- The rows of a table, in the columns that its dashes show. -/
def read (text : String) : List (List String) :=
  match lines text with
  | _ :: rule :: body => body.map (readRow (ruled rule))
  | _ => []

theorem readRow_nil (widths : List Nat) : readRow widths "" = [] := by
  rw [readRow, List.filter_eq_nil_iff.mpr]
  · rfl
  · simp

theorem read_layout (headers : List String) (rows : List (List String))
    (short : ∀ row ∈ rows, row.length ≤ headers.length)
    (whole : ∀ row ∈ headers :: rows, ∀ cell ∈ row, '\n' ∉ cell.toList)
    (ends : ∀ row ∈ rows, ∀ cell ∈ row, cell.toList.getLast? ≠ some ' ') :
    read (layout headers rows) = rows := by
  have back : ∀ row ∈ rows,
      readRow (ruled (rule (widths headers rows))) (line (widths headers rows) row) = row := by
    intro row member
    have fits := short row member
    by_cases some : headers = []
    · -- without columns the line of dashes is empty and rules nothing
      subst some
      obtain rfl : row = [] := List.length_eq_zero_iff.mp (Nat.le_zero.mp fits)
      rw [line_nil, readRow_nil]
    · rw [ruled_rule_widths headers rows some]
      have holds := (fits_widths headers rows row (List.mem_cons_of_mem _ member) fits).holds
      exact holds.readRow_eq (by rwa [length_widths]) (ends row member)
  rw [read, lines_layout headers rows whole]
  dsimp only
  rw [List.map_map]
  exact (List.map_congr_left back).trans (List.map_id' rows)

theorem layout_begins (header : String) (headers : List String) (rows : List (List String)) :
    header.toList <+: (layout (header :: headers) rows).toList := by
  have fits := fits_widths (header :: headers) rows _ List.mem_cons_self (Nat.le_refl _)
  obtain ⟨_, _, before, gap, after, split, start, _⟩ := fits.standsAt 0 header rfl
  obtain rfl : before = [] := List.length_eq_zero_iff.mp (start.trans (offset_zero _))
  rw [layout, String.toList_intercalate, List.map_cons, List.map_cons, List.intercalate_cons_cons,
    split, List.nil_append, List.append_assoc, List.append_assoc, List.append_assoc]
  exact List.prefix_append _ _

end Table

end Text

end ClusterInspector
