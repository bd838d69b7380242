import ClusterInspector.Proofs.Markup
import ClusterInspector.Proofs.Run
import ClusterInspector.Proofs.Sample
import ClusterInspector.Proofs.Styling
import Mathlib.Data.List.Forall2
import Mathlib.Data.List.Nodup

/-!
# What a browser shows

In view are the records of the browser's kind, in the order of the store, that lie in its scope and
have its filter in their names; namespaces are all in view. Each has a row, the status line counts the
rows, one row is highlighted if there are any, and details are shown of a highlighted pod that has a
problem. Rows and highlight are looked up anew for each of these. Where output cannot be styled, a number
cannot be written or the table is refused, no row is shown.

Records can be equal and still be two objects. What tells them apart is the place that each had in the
cluster before anything was deleted.
-/
namespace ClusterInspector

theorem Kind.Record.troubled?_eq_some_iff {k : Kind} (r : k.Record) (pod : Pod)
    (problem : PodProblem) :
    r.troubled? = some (pod, problem) ↔
      (⟨k, r⟩ : (k : Kind) × k.Record) = ⟨.pods, pod⟩ ∧ pod.problem = some problem := by
  cases k with
  | pods =>
    constructor
    · intro troubled
      obtain ⟨p, held, same⟩ := Option.map_eq_some_iff.mp troubled
      obtain ⟨rfl, rfl⟩ := Prod.mk.inj same
      exact ⟨rfl, held⟩
    · rintro ⟨same, held⟩
      cases same
      exact Option.map_eq_some_iff.mpr ⟨problem, held, rfl⟩
  | _ =>
    refine iff_of_false (Option.some_ne_none _).symm ?_
    rintro ⟨same, _⟩
    cases same

namespace Browser

/-- The record is to be in view. -/
def Sees (b : Browser) (r : b.kind.Record) : Prop :=
  b.kind = .namespaces ∨
    (∀ home ∈ b.scope, r.home? = some home) ∧ b.filter.toList <:+: r.name.toList

instance (b : Browser) (r : b.kind.Record) : Decidable (b.Sees r) :=
  inferInstanceAs (Decidable (_ ∨ _ ∧ _))

theorem liesIn_scope_iff (b : Browser) (r : b.kind.Record) (namespaced : b.kind ≠ .namespaces) :
    Cluster.liesIn b.scope r = true ↔ ∀ home ∈ b.scope, r.home? = some home := by
  cases b.scope with
  | none => simp [Cluster.liesIn_none]
  | some home => simp [Cluster.liesIn_some home _ r namespaced]

theorem rows_eq (b : Browser) (c : Cluster) : b.rows c = (c.records b.kind).filter (b.Sees ·) := by
  unfold rows
  split
  · rename_i namespaced
    have namespaced : b.kind ≠ .namespaces := of_decide_eq_true namespaced
    rw [Cluster.select, List.filter_filter]
    refine List.filter_congr fun r _ => ?_
    rw [Bool.eq_iff_iff, decide_eq_true_iff, Bool.and_eq_true, Bool.and_eq_true, Text.occursIn_iff,
      b.liesIn_scope_iff r namespaced, Sees, or_iff_right namespaced]
    simp [Cluster.isNamed, and_comm]
  · rename_i everywhere
    have everywhere : b.kind = .namespaces := by simpa [Kind.isNamespaced] using everywhere
    exact (List.filter_eq_self.mpr fun r _ => decide_eq_true (Or.inl everywhere)).symm

/-- The objects in view, each with the place that it had before. A deletion that takes one of them
takes all that are equal to it, so the objects that are left are those whose records are. -/
def objects (b : Browser) (before now : Cluster) : List (b.kind.Record × Nat) :=
  (before.records b.kind).zipIdx.filter fun o => o.1 ∈ now.records b.kind ∧ b.Sees o.1

theorem map_objects (b : Browser) {before now : Cluster} (pruned : before.Pruned now) :
    (b.objects before now).map Prod.fst = b.rows now := by
  rw [rows_eq, pruned.records_eq b.kind, List.filter_filter]
  calc (b.objects before now).map Prod.fst
      = ((before.records b.kind).zipIdx.map Prod.fst).filter fun r =>
          decide (r ∈ now.records b.kind ∧ b.Sees r) := by
        rw [List.filter_map]
        rfl
    _ = _ := by
        rw [List.zipIdx_map_fst]
        refine List.filter_congr fun r _ => ?_
        rw [Bool.decide_and, Bool.and_comm]

theorem nodup_places (b : Browser) (before now : Cluster) :
    ((b.objects before now).map Prod.snd).Nodup := by
  have places : ((before.records b.kind).zipIdx.map Prod.snd).Nodup := by
    rw [List.zipIdx_map_snd]
    exact List.nodup_range'
  exact places.sublist (List.filter_sublist.map Prod.snd)

theorem eq_of_place_eq (b : Browser) {before now : Cluster} {i j : Nat}
    {o s : b.kind.Record × Nat} (first : (b.objects before now)[i]? = some o)
    (second : (b.objects before now)[j]? = some s) (one : o.2 = s.2) : i = j := by
  have within : i < ((b.objects before now).map Prod.snd).length := by
    rw [List.length_map]
    exact (List.getElem?_eq_some_iff.mp first).1
  refine (List.getElem?_inj within (b.nodup_places before now)).mp ?_
  rw [List.getElem?_map, List.getElem?_map, first, second, Option.map_some, Option.map_some, one]

end Browser

namespace View

/-- The parts of a view that differ from one to another. -/
structure Drawing where
  status : String
  table : Table
  panel : List Output
  deriving DecidableEq, Repr

/-- What a status line begins with: the scope, unless its name is empty. -/
def lead (scope : Option String) : String :=
  ((scope.filter (· ≠ "")).map fun home => s!"Namespace: {home} | ").getD ""

/-- What a status line of pods ends with, whatever is in view: how many pods have a problem. -/
def problems (k : Kind) (c : Cluster) : String :=
  if k = .pods then s!" Errors: {(c.pods.filter (·.problem.isSome)).length}" else ""

namespace Drawing

def outputs (v : Drawing) : List Output :=
  [.blankLine, .text v.status "bold cyan", .text hint "dim", .table v.table] ++ v.panel ++ [.blankLine]

/-- The row at this place is highlighted. -/
def Highlights (v : Drawing) (i : Nat) : Prop :=
  ∃ row, v.table.rows[i]? = some row ∧ row.style = some "reverse"

/-- A highlighted row is that of this pod, and the pod has this problem. -/
def HighlightsPod (v : Drawing) {k : Kind} (objects : List (k.Record × Nat)) (pod : Pod)
    (problem : PodProblem) : Prop :=
  ∃ i r place, v.Highlights i ∧ objects[i]? = some (r, place) ∧
    (⟨k, r⟩ : (k : Kind) × k.Record) = ⟨.pods, pod⟩ ∧ pod.problem = some problem

/-- The row has the texts that the record is listed with, the first of them its name. -/
structure IsRowOf (row : Row) {k : Kind} (r : k.Record) : Prop where
  listed : ∃ xs : List Cell, row.cells = xs.map Cell.written ∧ xs.map Cell.text = Listing.cells r
  named : row.cells.head? = some (escape r.name)

/-- What the panel says of a pod with a problem. -/
def panelLines (pod : Pod) (problem : PodProblem) : List String :=
  ["\n",
    s!"Pod Details: {pod.name}\n",
    s!"Namespace:     {pod.home}\n",
    s!"Status:        {pod.status.text}\n",
    s!"Error Type:    {problem.text}\n",
    "Error Message: " ++ pod.problemMessage.getD "" ++ "\n",
    s!"Restarts:      {pod.restarts}\n",
    "Node:          " ++ (pod.node.filter (· ≠ "")).getD "N/A" ++ "\n"]

/-- The parts agree with each other, with the objects in view and with the cluster. -/
structure Shows (v : Drawing) (b : Browser) (c : Cluster) (objects : List (b.kind.Record × Nat)) :
    Prop where
  rows : List.Forall₂ (fun row o => IsRowOf row o.1) v.table.rows objects
  status : v.status =
    s!"{lead b.scope}{b.kind.plural}: {v.table.rows.length} |{problems b.kind c}"
  single : (∃! i, v.Highlights i) ↔ objects ≠ []
  highlight : ∀ i, v.Highlights i ↔ i < objects.length ∧ i = min b.index (objects.length - 1)
  /-- It is not enough that a record is equal to the selected one: both have to be one object. -/
  identity : ∀ i, v.Highlights i ↔ ∃ o s, objects[i]? = some o ∧
    objects[min b.index (objects.length - 1)]? = some s ∧ o.2 = s.2
  panel : v.panel ≠ [] ↔ ∃ pod problem, v.HighlightsPod objects pod problem
  details : ∀ pod problem, v.HighlightsPod objects pod problem →
    v.panel.map Output.plain = panelLines pod problem

end Drawing

def drawing (b : Browser) (c : Cluster) : Drawing where
  status := b.statusLine c
  table := table b c
  panel := match b.details c with
    | some (pod, problem) => details pod problem
    | none => []

theorem outputs_eq (b : Browser) (c : Cluster) :
    outputs b c = if (b.rows c).all Listing.isWritable then .ok (drawing b c).outputs
      else .error .numeralUnwritable := rfl

section

variable (b : Browser) (c : Cluster)

theorem getElem?_rows_drawing (i : Nat) :
    (drawing b c).table.rows[i]? = (b.rows c)[i]?.map fun r =>
      { cells := cells r, style := if i = b.selectedIndex c then some "reverse" else none } :=
  List.getElem?_mapIdx

theorem length_rows_drawing : (drawing b c).table.rows.length = (b.rows c).length :=
  List.length_mapIdx

theorem rows_drawing : (drawing b c).table.rows.map Row.cells = (b.rows c).map cells := by
  refine List.ext_getElem? fun i => ?_
  rw [List.getElem?_map, getElem?_rows_drawing, List.getElem?_map, Option.map_map]
  rfl

theorem isRowOf_of_cells {k : Kind} (r : k.Record) (row : Row) (same : row.cells = cells r) :
    Drawing.IsRowOf row r where
  listed := ⟨laidOut r, same.trans (cells_eq r), text_laidOut r⟩
  named := by
    rw [same]
    cases k with
    | namespaces => rfl
    | deployments => rfl
    | daemonsets => rfl
    | pods =>
      unfold cells
      dsimp only
      split <;> rfl

theorem plain_details (pod : Pod) (problem : PodProblem) :
    (details pod problem).map Output.plain = Drawing.panelLines pod problem := by
  have node : Listing.orElse pod.node "N/A" = (pod.node.filter (· ≠ "")).getD "N/A" := by
    unfold Listing.orElse
    split
    · rename_i absent
      rw [absent]
      rfl
    · rename_i empty
      rw [empty]
      rfl
    · rename_i placed named found
      have kept : decide (placed ≠ "") = true := decide_eq_true named
      rw [found, Option.filter_some, if_pos kept]
      rfl
  rw [Drawing.panelLines, ← node]
  rfl

theorem highlights_drawing_iff (i : Nat) :
    (drawing b c).Highlights i ↔ i < (b.rows c).length ∧ i = b.selectedIndex c := by
  unfold Drawing.Highlights
  simp only [getElem?_rows_drawing, Option.map_eq_some_iff]
  constructor
  · rintro ⟨_, ⟨r, shown, rfl⟩, reversed⟩
    refine ⟨(List.getElem?_eq_some_iff.mp shown).1, ?_⟩
    by_contra other
    simp [other] at reversed
  · rintro ⟨shown, here⟩
    exact ⟨_, ⟨(b.rows c)[i], List.getElem?_eq_getElem shown, rfl⟩, if_pos here⟩

theorem lead_eq (scope : Option String) :
    (match scope with
      | none | some "" => ""
      | some home => s!"Namespace: {home} | ") = lead scope := by
  split
  · rfl
  · rfl
  · rename_i home named
    have named : decide (home ≠ "") = true := decide_eq_true named
    rw [lead, Option.filter_some, if_pos named]
    rfl

theorem status_drawing :
    (drawing b c).status =
      s!"{lead b.scope}{b.kind.plural}: {(drawing b c).table.rows.length} |{problems b.kind c}" := by
  rw [length_rows_drawing, problems, ← List.countP_eq_length_filter, ← lead_eq]
  rfl

theorem details_eq_some_iff (pod : Pod) (problem : PodProblem) :
    b.details c = some (pod, problem) ↔ ∃ i r, (drawing b c).Highlights i ∧
      (b.rows c)[i]? = some r ∧
      (⟨b.kind, r⟩ : (k : Kind) × k.Record) = ⟨.pods, pod⟩ ∧ pod.problem = some problem := by
  unfold Browser.details Browser.selected
  simp only [Option.bind_eq_some_iff, Kind.Record.troubled?_eq_some_iff, highlights_drawing_iff]
  constructor
  · rintro ⟨r, shown, troubled⟩
    exact ⟨_, r, ⟨(List.getElem?_eq_some_iff.mp shown).1, rfl⟩, shown, troubled⟩
  · rintro ⟨_, r, ⟨_, rfl⟩, shown, troubled⟩
    exact ⟨r, shown, troubled⟩

theorem panel_of_details (pod : Pod) (problem : PodProblem) (found : b.details c = some (pod, problem)) :
    (drawing b c).panel = details pod problem := by
  simp only [drawing, found]

theorem panel_ne_nil_iff :
    (drawing b c).panel ≠ [] ↔ ∃ pod problem, b.details c = some (pod, problem) := by
  cases found : b.details c with
  | none => simp [drawing, found]
  | some one =>
    refine iff_of_true ?_ ⟨one.1, one.2, rfl⟩
    rw [panel_of_details b c one.1 one.2 found]
    exact List.cons_ne_nil _ _

end

section

variable (b : Browser) {before now : Cluster} (pruned : before.Pruned now)

include pruned

theorem highlights_iff_place (i : Nat) :
    (drawing b now).Highlights i ↔ i < (b.objects before now).length ∧
      i = min b.index ((b.objects before now).length - 1) := by
  have count : (b.rows now).length = (b.objects before now).length := by
    rw [← b.map_objects pruned, List.length_map]
  rw [highlights_drawing_iff, Browser.selectedIndex, count]

theorem existsUnique_highlights_iff :
    (∃! i, (drawing b now).Highlights i) ↔ b.objects before now ≠ [] := by
  have highlight := highlights_iff_place b pruned
  constructor
  · rintro ⟨i, highlighted, _⟩ empty
    rw [highlight, empty] at highlighted
    exact Nat.not_lt_zero i highlighted.1
  · intro shown
    have least := List.length_pos_iff.mpr shown
    refine ⟨_, (highlight _).mpr ⟨by omega, rfl⟩, fun i highlighted => ?_⟩
    exact ((highlight i).mp highlighted).2

/-- Whether the highlight is decided by place in the view or by object makes no difference. -/
theorem highlights_iff_object (i : Nat) :
    (drawing b now).Highlights i ↔ ∃ o s, (b.objects before now)[i]? = some o ∧
      (b.objects before now)[min b.index ((b.objects before now).length - 1)]? = some s ∧
      o.2 = s.2 := by
  rw [highlights_iff_place b pruned]
  constructor
  · rintro ⟨shown, rfl⟩
    have found := List.getElem?_eq_getElem shown
    exact ⟨_, _, found, found, rfl⟩
  · rintro ⟨o, s, found, selected, one⟩
    exact ⟨(List.getElem?_eq_some_iff.mp found).1, b.eq_of_place_eq found selected one⟩

theorem highlightsPod_drawing_iff (pod : Pod) (problem : PodProblem) :
    (drawing b now).HighlightsPod (b.objects before now) pod problem ↔
      b.details now = some (pod, problem) := by
  rw [details_eq_some_iff]
  simp only [Drawing.HighlightsPod, ← b.map_objects pruned, List.getElem?_map, Option.map_eq_some_iff,
    Prod.exists, exists_and_right, exists_eq_right, exists_and_left]

theorem shows_drawing : (drawing b now).Shows b now (b.objects before now) where
  rows := by
    have same := rows_drawing b now
    rw [← b.map_objects pruned, List.map_map] at same
    have paired : List.Forall₂ (fun row o => row.cells = cells o.1) (drawing b now).table.rows
        (b.objects before now) := by
      refine List.forall₂_map_left_iff.mp (List.forall₂_map_right_iff.mp ?_)
      rw [same]
      exact List.forall₂_same.mpr fun _ _ => rfl
    exact paired.imp fun row o alike => isRowOf_of_cells o.1 row alike
  status := status_drawing b now
  single := existsUnique_highlights_iff b pruned
  highlight := highlights_iff_place b pruned
  identity := highlights_iff_object b pruned
  panel := by simp only [panel_ne_nil_iff, highlightsPod_drawing_iff b pruned]
  details pod problem highlighted := by
    have found := (highlightsPod_drawing_iff b pruned pod problem).mp highlighted
    rw [panel_of_details b now pod problem found, plain_details]

end

open Text (IsBare IsStyle IsTagged)

/-- Nothing keeps the view from being drawn. -/
structure IsDrawable (f : Facilities) (b : Browser) (c : Cluster) : Prop where
  styled : f.styling = true
  writable : ∀ r ∈ b.rows c, Listing.isWritable r = true
  taken : f.styler.table? (table b c) = none

theorem display_of_isDrawable {f : Facilities} (sound : f.styler.IsSound) (b : Browser) (c : Cluster)
    (drawable : IsDrawable f b c) : display f b c = { outputs := (drawing b c).outputs } := by
  have lineTaken : f.styler.complaint? .blankLine = none := sound.line [] nofun
  have textTaken : ∀ content style, f.styler.complaint? (.text content style) = none := fun _ _ => rfl
  have tableTaken : f.styler.complaint? (.table (drawing b c).table) = none := drawable.taken
  have panelTaken : ∀ o ∈ (drawing b c).panel, f.styler.complaint? o = none := by
    unfold drawing
    dsimp only
    split
    · simp [details, lineTaken, textTaken]
    · nofun
  have taken : ∀ o ∈ (drawing b c).outputs, f.styler.complaint? o = none := by
    simpa [Drawing.outputs, lineTaken, textTaken, tableTaken, or_imp, forall_and] using panelTaken
  have written : outputs b c = .ok (drawing b c).outputs := by
    rw [outputs_eq, if_pos (List.all_eq_true.mpr drawable.writable)]
  simp only [display, drawable.styled, if_true, written, f.styler.paint_of_taken _ taken]
  rfl

/-- Before the first output it is known whether there is anything to style it, and whether the numbers can
be written. -/
theorem display_of_unready (f : Facilities) (b : Browser) (c : Cluster)
    (unready : f.styling = false ∨ ∃ r ∈ b.rows c, Listing.isWritable r = false) :
    ∃ failure, display f b c = { ending? := some (.failed failure) } := by
  unfold display
  split
  · rename_i styled
    have unwritable : ¬ (b.rows c).all Listing.isWritable = true := by
      rcases unready with unstyled | ⟨r, member, unwritable⟩
      · rw [styled] at unstyled
        cases unstyled
      · intro all
        rw [List.all_eq_true.mp all r member] at unwritable
        cases unwritable
    rw [outputs_eq, if_neg unwritable]
    exact ⟨_, rfl⟩
  · exact ⟨_, rfl⟩

theorem escaped_isTagged (cs : List Char) (plain : '\\' ∉ cs) : IsTagged (escaped cs) := by
  induction cs with
  | nil => exact .bare nofun
  | cons c rest ih =>
    obtain ⟨first, later⟩ := not_or.mp (mt List.mem_cons.mpr plain)
    have head : IsTagged (if c = '[' then ['\\', '['] else [c]) := by
      split
      · exact .escaped
      · rename_i other
        exact .bare (List.forall_mem_singleton.mpr ⟨other, Ne.symm first⟩)
    exact .append head (ih later)

theorem Cell.written_isTagged (x : Cell) (isStyle : ∀ style ∈ x.style, IsStyle style.toList)
    (plain : '\\' ∉ x.text.toList) : IsTagged x.written.toList := by
  have inside := escaped_isTagged _ plain
  obtain ⟨text, style⟩ := x
  cases style with
  | none =>
    rw [toList_written]
    simpa [openTag, closeTag] using inside
  | some style =>
    have styled := IsTagged.styled (isStyle style rfl) (Or.inl rfl) inside
    rw [toList_written]
    simpa [openTag, closeTag] using styled

theorem style?_isStyle {k : Kind} (r : k.Record) (column : Nat) :
    ∀ style ∈ style? r column, IsStyle style.toList := by
  have words : ∀ style ∈ cellStyles, IsStyle style.toList := by decide
  exact fun style shown => words style (style?_mem r column style shown)

theorem cells_isTagged {k : Kind} (r : k.Record)
    (plain : ∀ text ∈ Listing.cells r, '\\' ∉ text.toList) : ∀ s ∈ cells r, IsTagged s.toList := by
  intro s member
  rw [cells_eq] at member
  obtain ⟨x, among, rfl⟩ := List.mem_map.mp member
  have own : x.text ∈ Listing.cells r := by
    rw [← text_laidOut]
    exact List.mem_map_of_mem among
  obtain ⟨cell, _, rfl⟩ := List.mem_map.mp among
  exact Cell.written_isTagged _ (style?_isStyle r cell.2) (plain _ own)

theorem title_isTagged (b : Browser) (bare : IsBare b.filter.toList) :
    IsTagged (title b).toList := by
  have kind : IsBare b.kind.title.toList := by
    cases b.kind <;> decide
  unfold title
  split
  · exact .bare kind
  · rw [String.toList_append, String.toList_append]
    exact .bare (Text.isBare_append (Text.isBare_append kind (by decide)) bare)

theorem columns_isTagged (k : Kind) : ∀ s ∈ Listing.columns k, IsTagged s.toList := by
  have bare : ∀ s ∈ Listing.columns k, IsBare s.toList := by
    cases k <;> decide
  exact fun s member => .bare (bare s member)

/-- A table is taken whose filter has no bracket and no backslash, and whose records have no backslash. -/
theorem table_taken {f : Facilities} (sound : f.styler.IsSound) (b : Browser) (c : Cluster)
    (bare : IsBare b.filter.toList)
    (plain : ∀ r ∈ b.rows c, ∀ text ∈ Listing.cells r, '\\' ∉ text.toList) :
    f.styler.table? (table b c) = none := by
  refine sound.table _ fun s member => ?_
  have shown : s = title b ∨ s ∈ Listing.columns b.kind ∨
      ∃ row ∈ (drawing b c).table.rows, s ∈ row.cells := by
    simpa [Table.texts, table, drawing] using member
  rcases shown with rfl | header | ⟨row, among, cell⟩
  · exact title_isTagged b bare
  · exact columns_isTagged b.kind s header
  · have held : row.cells ∈ (b.rows c).map cells := by
      rw [← rows_drawing]
      exact List.mem_map_of_mem among
    obtain ⟨r, inView, same⟩ := List.mem_map.mp held
    rw [← same] at cell
    exact cells_isTagged r (plain r inView) s cell

end View

namespace Desk

open View (Drawing IsDrawable)

/-- What a browser in any state shows after any run. In view are the records that are to be, in the order
of the store, each of them one object. Where nothing keeps it from that, a view is drawn that agrees with
them and with the cluster. If output cannot be styled or a number in view cannot be written, nothing is
drawn at all. The table is taken at least where no text in it could be read for a tag. -/
theorem view_agrees (d : Desk) (ops : List Operation) (b : Browser) (f : Facilities)
    (sound : f.styler.IsSound) :
    let before := d.store.cluster
    let now := (d.run ops).store.cluster
    let objects := b.objects before now
    b.rows now = (now.records b.kind).filter (b.Sees ·) ∧
    objects.map Prod.fst = b.rows now ∧ (objects.map Prod.snd).Nodup ∧
    (IsDrawable f b now →
      ∃ v : Drawing, View.display f b now = { outputs := v.outputs } ∧ v.Shows b now objects) ∧
    (Text.IsBare b.filter.toList →
      (∀ r ∈ b.rows now, ∀ text ∈ Listing.cells r, '\\' ∉ text.toList) →
      f.styler.table? (View.table b now) = none) ∧
    (f.styling = false ∨ (∃ r ∈ b.rows now, Listing.isWritable r = false) →
      ∃ failure, View.display f b now = { ending? := some (.failed failure) }) := by
  intro before now objects
  have pruned : before.Pruned now := d.run_pruned ops
  refine ⟨b.rows_eq now, b.map_objects pruned, b.nodup_places before now, ?_, ?_, ?_⟩
  · intro drawable
    exact ⟨_, View.display_of_isDrawable sound b now drawable, View.shows_drawing b pruned⟩
  · exact View.table_taken sound b now
  · exact View.display_of_unready f b now

/-- A row is gone from the view, and the last one that is left is highlighted, of a pod with a problem. -/
theorem view_agrees_troubled :
    let ache : Pod := { crowdedPod "ache" "green" "1d" with
      status := .pending, problem := some .unschedulable, node := none }
    let d : Desk := {
      store := { cluster := { crowded.cluster with pods := crowded.cluster.pods ++ [ache] } }
      now := noon }
    let now := (d.run [.line "kubectl delete po web -n green"]).store.cluster
    let b : Browser := { kind := .pods, filter := "e", index := 5, handle := 0 }
    ∃ v : Drawing, View.display { styler := .strict } b now = { outputs := v.outputs } ∧
      v.Shows b now (b.objects d.store.cluster now) ∧ v.status = "pods: 3 | Errors: 1" ∧
      v.Highlights 2 ∧
      v.panel.map Output.plain = ["\n", "Pod Details: ache\n", "Namespace:     green\n",
        "Status:        Pending\n", "Error Type:    Unschedulable\n", "Error Message: \n",
        "Restarts:      3\n", "Node:          N/A\n"] := by
  intro ache d now b
  obtain ⟨_, _, _, drawn, taken, _⟩ := view_agrees d [.line "kubectl delete po web -n green"] b
    { styler := .strict } Styler.strict_isSound
  have drawable : IsDrawable { styler := .strict } b now :=
    ⟨rfl, by decide +kernel, taken (by decide) (by decide +kernel)⟩
  obtain ⟨v, display, shows⟩ := drawn drawable
  have highlighted : v.Highlights 2 := (shows.highlight 2).mpr (by decide +kernel)
  have objects : (b.objects d.store.cluster now)[2]? = some (ache, 5) := by decide +kernel
  have rows : v.table.rows.length = 3 := shows.rows.length_eq.trans (by decide +kernel)
  refine ⟨v, display, shows, ?_, highlighted, ?_⟩
  · rw [shows.status, rows]
    decide +kernel
  · rw [shows.details ache .unschedulable ⟨2, ache, 5, highlighted, objects, rfl, rfl⟩]
    decide +kernel

/-- There are rows and none of them is drawn, where nothing styles output, where a number is too long to
be written, and where the filter closes a style that is not open. -/
theorem rows_go_undrawn :
    let b : Browser := { kind := .pods, handle := 0 }
    let long : Cluster := { pods := [{ crowdedPod "web" "blue" "5d" with restarts := 10 ^ 4300 }] }
    let closing : Browser := { b with kind := .namespaces, filter := "[/x]" }
    b.rows crowded.cluster ≠ [] ∧ b.rows long ≠ [] ∧ closing.rows crowded.cluster ≠ [] ∧
    View.display { styling := false } b crowded.cluster =
      { ending? := some (.failed .stylingMissing) } ∧
    View.display {} b long = { ending? := some (.failed (.fault .numeralUnwritable)) } ∧
    (View.display { styler := .strict } closing crowded.cluster).ending? =
      some (.refused "closing tag '[/x]' at position 13 doesn't match any open tag") ∧
    (View.display { styler := .strict } closing crowded.cluster).outputs.length = 3 := by
  intro b long closing
  refine ⟨by decide +kernel, by decide +kernel, by decide +kernel, by decide +kernel, by decide +kernel,
    by decide +kernel, by decide +kernel⟩

end Desk

end ClusterInspector
