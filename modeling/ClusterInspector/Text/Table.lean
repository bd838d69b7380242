/-!
# Aligned tables

Rows under headers as left-aligned columns. A column is as wide as its longest header or cell and
two more; columns are joined by one space; a line of dashes, one shorter than each column, stands
below the headers. A row may be shorter than the headers, never longer.
-/
namespace ClusterInspector.Text.Table

/-- What a column has beyond its longest text. -/
def padding : Nat := 2

inductive Error where
  | rowTooLong
  deriving DecidableEq, Repr

def longest (texts : List String) : Nat := texts.foldl (fun w s => max w s.length) 0

def widths (headers : List String) (rows : List (List String)) : List Nat :=
  headers.mapIdx fun i h => longest (h :: rows.filterMap (·[i]?)) + padding

/-- A text with spaces after it up to a width. -/
def pad (width : Nat) (s : String) : String :=
  s ++ String.ofList (List.replicate (width - s.length) ' ')

/-- The cells of a row, each padded to the width of its column. A cell beyond the last column has no
width. -/
def fill : List Nat → List String → Except Error (List String)
  | _, [] => .ok []
  | [], _ :: _ => .error .rowTooLong
  | w :: widths, cell :: cells => (fill widths cells).map (pad w cell :: ·)

def rule (widths : List Nat) : String :=
  " ".intercalate (widths.map fun w => String.ofList (List.replicate (w - 1) '-'))

def joined (cells : List String) : String := " ".intercalate cells

def render (headers : List String) (rows : List (List String)) : Except Error String := do
  let widths := widths headers rows
  let top ← fill widths headers
  let body ← rows.mapM (fill widths)
  return "\n".intercalate (joined top :: rule widths :: body.map joined)

/-- A row that has no cell beyond the last column. -/
def line (widths : List Nat) (cells : List String) : String :=
  " ".intercalate (List.zipWith pad widths cells)

/-- The table when no row is longer than the headers. -/
def layout (headers : List String) (rows : List (List String)) : String :=
  let widths := widths headers rows
  "\n".intercalate (line widths headers :: rule widths :: rows.map (line widths))

theorem length_widths (headers : List String) (rows : List (List String)) :
    (widths headers rows).length = headers.length := by
  simp [widths]

theorem fill_eq (widths : List Nat) (cells : List String) :
    fill widths cells =
      if cells.length ≤ widths.length then .ok (List.zipWith pad widths cells)
      else .error .rowTooLong := by
  induction cells generalizing widths with
  | nil => simp [fill]
  | cons cell rest ih =>
    cases widths with
    | nil => rfl
    | cons w widths =>
      simp only [fill, ih, List.length_cons, Nat.add_le_add_iff_right, List.zipWith_cons_cons]
      split <;> rfl

theorem mapM_fill (widths : List Nat) (rows : List (List String)) :
    rows.mapM (fill widths) =
      if ∀ row ∈ rows, row.length ≤ widths.length then .ok (rows.map (List.zipWith pad widths))
      else .error .rowTooLong := by
  induction rows with
  | nil => rfl
  | cons row rest ih =>
    rw [List.mapM_cons, ih, fill_eq]
    simp only [List.forall_mem_cons]
    by_cases fits : row.length ≤ widths.length
    · simp only [fits, if_true, true_and]
      split <;> rfl
    · simp only [fits, if_false, false_and]
      rfl

theorem render_eq (headers : List String) (rows : List (List String)) :
    render headers rows =
      if ∀ row ∈ rows, row.length ≤ headers.length then .ok (layout headers rows)
      else .error .rowTooLong := by
  have top : fill (widths headers rows) headers =
      .ok (List.zipWith pad (widths headers rows) headers) := by
    rw [fill_eq, length_widths, if_pos (Nat.le_refl _)]
  simp only [render, top, mapM_fill, length_widths]
  split
  · change Except.ok ("\n".intercalate (joined _ :: rule _ :: (rows.map _).map joined)) = _
    rw [List.map_map]
    rfl
  · rfl

theorem render_eq_ok (headers : List String) (rows : List (List String))
    (short : ∀ row ∈ rows, row.length ≤ headers.length) :
    render headers rows = .ok (layout headers rows) := by
  rw [render_eq, if_pos short]

end ClusterInspector.Text.Table
