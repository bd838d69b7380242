import ClusterInspector.Proofs.Deletion
import ClusterInspector.Proofs.ReadBack
import ClusterInspector.Proofs.Tables

/-!
# Listings read back

What a `get` answers is a table of the cells of the records that it selects, so whoever reads the
table has the cells again, as long as no text of these records breaks a line or ends in a space.
Numbers and the words for a status never do.
-/
namespace ClusterInspector

namespace Text

/-- A text that is one line and does not end in a space. -/
def IsPlain (t : String) : Prop := '\n' ∉ t.toList ∧ t.toList.getLast? ≠ some ' '

instance (t : String) : Decidable (IsPlain t) := inferInstanceAs (Decidable (_ ∧ _))

theorem isPlain_of_unspaced (t : String) (unspaced : ∀ c ∈ t.toList, c ≠ '\n' ∧ c ≠ ' ') :
    IsPlain t := by
  constructor
  · intro newline
    exact (unspaced _ newline).1 rfl
  · intro space
    exact (unspaced _ (List.mem_of_getLast? space)).2 rfl

theorem mem_toString {n : Int} {c : Char} (member : c ∈ (toString n).toList) :
    c = '-' ∨ c.isDigit = true := by
  cases n with
  | ofNat m =>
    have digits : (toString (Int.ofNat m)).toList = Nat.toDigits 10 m := toList_toString m
    rw [digits] at member
    exact Or.inr (isDigit_of_mem_toDigits member)
  | negSucc m =>
    have signed : (toString (Int.negSucc m)).toList = '-' :: Nat.toDigits 10 (m + 1) := by
      change ("-" ++ toString (m + 1)).toList = _
      rw [String.toList_append, toList_toString]
      rfl
    rw [signed] at member
    rcases List.mem_cons.mp member with sign | digit
    · exact Or.inl sign
    · exact Or.inr (isDigit_of_mem_toDigits digit)

theorem isPlain_toString (n : Int) : IsPlain (toString n) := by
  refine isPlain_of_unspaced _ fun c member => ?_
  rcases mem_toString member with rfl | digit
  · decide
  · constructor
    · rintro rfl
      cases digit
    · rintro rfl
      cases digit

end Text

namespace Listing

open Text (IsPlain isPlain_toString)

/-- The texts of a record that its cells repeat. -/
def texts : {k : Kind} → k.Record → List String
  | .namespaces, (r : Namespace) => [r.name, r.status, r.age]
  | .pods, (r : Pod) => r.name :: r.ready :: r.age :: r.node.toList
  | .deployments, (r : Deployment) => [r.name, r.ready, r.age]
  | .daemonsets, (r : DaemonSet) => [r.name, r.age]

theorem isPlain_status (status : PodStatus) (marked : Bool) :
    IsPlain (status.text ++ if marked then problemMark else "") := by
  cases status <;> cases marked <;> decide

theorem isPlain_orElse (text : Option String) (placeholder : String)
    (plain : ∀ t ∈ text.toList, IsPlain t) (standing : IsPlain placeholder) :
    IsPlain (orElse text placeholder) := by
  unfold orElse
  split
  · exact standing
  · exact standing
  · exact plain _ List.mem_cons_self

theorem isPlain_cells {k : Kind} (r : k.Record) (plain : ∀ t ∈ texts r, IsPlain t) :
    ∀ cell ∈ cells r, IsPlain cell := by
  have nothing : ∀ cell ∈ ([] : List String), IsPlain cell := List.forall_mem_nil _
  cases k with
  | namespaces => exact plain
  | pods =>
    obtain ⟨name, ready, age, node⟩ : IsPlain (Pod.name r) ∧ IsPlain (Pod.ready r) ∧
        IsPlain (Pod.age r) ∧ ∀ t ∈ (Pod.node r).toList, IsPlain t := by
      simpa only [texts, List.forall_mem_cons] using plain
    have status := isPlain_status (Pod.status r) (Pod.problem r).isSome
    have place := isPlain_orElse (Pod.node r) "-" node (by decide)
    simpa only [cells, List.forall_mem_cons, isPlain_toString, name, ready, status, age, place,
      true_and] using nothing
  | deployments =>
    obtain ⟨name, ready, age, _⟩ : IsPlain (Deployment.name r) ∧ IsPlain (Deployment.ready r) ∧
        IsPlain (Deployment.age r) ∧ ∀ t ∈ [], IsPlain t := by
      simpa only [texts, List.forall_mem_cons] using plain
    simpa only [cells, List.forall_mem_cons, isPlain_toString, name, ready, age, true_and] using nothing
  | daemonsets =>
    obtain ⟨name, age, _⟩ : IsPlain (DaemonSet.name r) ∧ IsPlain (DaemonSet.age r) ∧
        ∀ t ∈ [], IsPlain t := by
      simpa only [texts, List.forall_mem_cons] using plain
    simpa only [cells, List.forall_mem_cons, isPlain_toString, name, age, true_and] using nothing

theorem columns_plain (k : Kind) : ∀ header ∈ columns k, IsPlain header := by
  cases k <;> decide

/-- How each table of records begins. -/
def heading : String := "NAME"

theorem columns_eq (k : Kind) : ∃ headers, columns k = heading :: headers := by
  cases k <;> exact ⟨_, rfl⟩

/-- The cells of the records that a listing shows; an answer that is not a table shows none. -/
def read (text : String) : List (List String) :=
  if heading.toList.isPrefixOf text.toList then Text.Table.read text else []

theorem render_eq_layout (k : Kind) (rs : List k.Record) :
    render k rs = Text.Table.layout (columns k) (rs.map cells) := by
  simp only [render, table_eq]
  rfl

theorem read_render (k : Kind) (rs : List k.Record)
    (plain : ∀ r ∈ rs, ∀ t ∈ texts r, IsPlain t) : read (render k rs) = rs.map cells := by
  have cellsPlain : ∀ row ∈ rs.map cells, ∀ cell ∈ row, IsPlain cell := by
    intro row member
    obtain ⟨r, listed, rfl⟩ := List.mem_map.mp member
    exact isPlain_cells r (plain r listed)
  have begins : heading.toList.isPrefixOf (render k rs).toList = true := by
    obtain ⟨headers, titled⟩ := columns_eq k
    rw [List.isPrefixOf_iff_prefix, render_eq_layout, titled]
    exact Text.Table.layout_begins heading headers _
  rw [read, if_pos begins, render_eq_layout]
  refine Text.Table.read_layout (columns k) (rs.map cells) ?_ ?_ ?_
  · intro row member
    obtain ⟨r, _, rfl⟩ := List.mem_map.mp member
    exact Nat.le_of_eq (length_cells r)
  · intro row member cell listed
    rcases List.mem_cons.mp member with rfl | among
    · exact (columns_plain k cell listed).1
    · exact (cellsPlain row among cell listed).1
  · intro row member cell listed
    exact (cellsPlain row member cell listed).2

theorem read_nothingFound (k : Kind) (scope : Option String) :
    read (Console.nothingFound k scope) = [] := by
  have other : heading.toList.isPrefixOf (Console.nothingFound k scope).toList = false := by
    have named (s : String) :
        heading.toList.isPrefixOf ("No resources found in " ++ s ++ " namespace.").toList = false := by
      rw [String.toList_append, String.toList_append]
      rfl
    unfold Console.nothingFound
    split
    · split
      · exact named _
      · rfl
    · rfl
  rw [read, other]
  rfl

end Listing

namespace Console

open Text (IsPlain)

theorem read_list (c : Cluster) (k : Kind) (scope name : Option String) (text : String)
    (plain : ∀ r ∈ c.select k scope name, ∀ t ∈ Listing.texts r, IsPlain t)
    (listed : list c k scope name = .ok text) :
    Listing.read text = (c.select k scope name).map Listing.cells := by
  unfold list at listed
  split at listed
  · rename_i none
    cases listed
    rw [none, Listing.read_nothingFound]
    rfl
  · split at listed
    · cases listed
      exact Listing.read_render k _ plain
    · cases listed

theorem answerLine_lists (now : Nat) (s : Store) (line : String) (cmd : Command) (k : Kind)
    (parsed : Command.ofLine line = .ok cmd) (verb : cmd.verb = .get) (kind : cmd.kind = some k) :
    (answerLine now s line).result = (list s.cluster k cmd.scope cmd.name).map ({ text := · }) := by
  have answered := answerCommand_lists now s cmd k verb kind
  simp only [answerLine, parsed, answered]
  cases list s.cluster k cmd.scope cmd.name <;> rfl

theorem list_of_answerCommand (now : Nat) (s : Store) (cmd : Command) (k : Kind) (text : String)
    (verb : cmd.verb = .get) (kind : cmd.kind = some k)
    (answered : (answerCommand now s cmd).result = .ok text) :
    list s.cluster k cmd.scope cmd.name = .ok text := by
  rw [answerCommand_lists now s cmd k verb kind] at answered
  cases listed : list s.cluster k cmd.scope cmd.name with
  | error f =>
    rw [listed] at answered
    cases answered
  | ok text' =>
    rw [listed] at answered
    cases answered
    rfl

theorem list_of_answerLine (now : Nat) (s : Store) (line : String) (cmd : Command) (k : Kind)
    (reply : Reply) (parsed : Command.ofLine line = .ok cmd) (verb : cmd.verb = .get)
    (kind : cmd.kind = some k) (answered : (answerLine now s line).result = .ok reply) :
    reply.isError = false ∧ list s.cluster k cmd.scope cmd.name = .ok reply.text := by
  rw [answerLine_lists now s line cmd k parsed verb kind] at answered
  cases listed : list s.cluster k cmd.scope cmd.name with
  | error f =>
    rw [listed] at answered
    cases answered
  | ok text =>
    rw [listed] at answered
    cases answered
    exact ⟨rfl, rfl⟩

/-- A table can be refused for one reason only, a row with more cells than there are headers. Any
other table has, where no text breaks a line, its headers, its dashes and its rows in lines of their
own, each cell where its column starts, and the rows can be read off the text again. So what `get`
answers tells the cells of the records that it selects, in their order. -/
theorem tables_read_back (headers : List String) (rows : List (List String)) (now : Nat) (s : Store)
    (cmd : Command) (k : Kind) :
    (Text.Table.render headers rows = .error .rowTooLong ↔
      ∃ row ∈ rows, headers.length < row.length) ∧
    ((∀ row ∈ rows, row.length ≤ headers.length) →
      (∀ row ∈ headers :: rows, ∀ cell ∈ row, '\n' ∉ cell.toList) →
      ∃ text, Text.Table.render headers rows = .ok text ∧ Text.Table.IsTable headers rows text ∧
        ((∀ row ∈ rows, ∀ cell ∈ row, cell.toList.getLast? ≠ some ' ') →
          Text.Table.read text = rows)) ∧
    (cmd.verb = .get → cmd.kind = some k →
      (∀ r ∈ s.cluster.select k cmd.scope cmd.name, ∀ t ∈ Listing.texts r, IsPlain t) →
      (∀ text, (answerCommand now s cmd).result = .ok text →
        Listing.read text = (s.cluster.select k cmd.scope cmd.name).map Listing.cells) ∧
      ∀ line reply, Command.ofLine line = .ok cmd → (answerLine now s line).result = .ok reply →
        reply.isError = false ∧
        Listing.read reply.text = (s.cluster.select k cmd.scope cmd.name).map Listing.cells) := by
  refine ⟨Text.Table.render_eq_error_iff headers rows, ?_, ?_⟩
  · intro short whole
    exact ⟨_, Text.Table.render_eq_ok headers rows short,
      Text.Table.isTable_layout headers rows short whole,
      Text.Table.read_layout headers rows short whole⟩
  · intro verb kind plain
    have answers := read_list s.cluster k cmd.scope cmd.name
    constructor
    · intro text answered
      exact answers text plain (list_of_answerCommand now s cmd k text verb kind answered)
    · intro line reply parsed answered
      obtain ⟨unmarked, listed⟩ := list_of_answerLine now s line cmd k reply parsed verb kind answered
      exact ⟨unmarked, answers reply.text plain listed⟩

/-- A short row is read back as it was, and so are both `web` pods of `blue`. -/
theorem tables_read_back_web :
    (∃ text, Text.Table.render ["A", "B"] [["x", "y z"], ["xyz"]] = .ok text ∧
      Text.Table.IsTable ["A", "B"] [["x", "y z"], ["xyz"]] text ∧
      Text.Table.read text = [["x", "y z"], ["xyz"]]) ∧
    ∃ reply, (answerLine 0 crowded "kubectl get po web -n blue").result = .ok reply ∧
      Listing.read reply.text =
        [["web", "1/2", "Running", "3", "5d", "node-1"], ["web", "1/2", "Running", "3", "7m", "node-1"]] := by
  let cmd : Command := { verb := .get, kind := some .pods, name := some "web", scope := some "blue" }
  obtain ⟨_, tables, listings⟩ :=
    tables_read_back ["A", "B"] [["x", "y z"], ["xyz"]] 0 crowded cmd .pods
  constructor
  · obtain ⟨text, rendered, isTable, back⟩ := tables (by decide) (by decide)
    exact ⟨text, rendered, isTable, back (by decide)⟩
  · have pods : list crowded.cluster .pods cmd.scope cmd.name =
        .ok (Listing.render .pods (crowded.cluster.select .pods cmd.scope cmd.name)) := by
      decide +kernel
    have plain : ∀ r ∈ crowded.cluster.select .pods cmd.scope cmd.name,
        ∀ t ∈ Listing.texts r, IsPlain t := by
      decide +kernel
    have shown : (crowded.cluster.select .pods cmd.scope cmd.name).map Listing.cells =
        [["web", "1/2", "Running", "3", "5d", "node-1"], ["web", "1/2", "Running", "3", "7m", "node-1"]] := by
      decide +kernel
    have parsed : Command.ofLine "kubectl get po web -n blue" = .ok cmd := rfl
    have answered := answerLine_lists 0 crowded _ cmd .pods parsed rfl rfl
    rw [pods] at answered
    obtain ⟨_, reads⟩ := listings rfl rfl plain
    exact ⟨_, answered, (reads _ _ parsed answered).2.trans shown⟩

end Console

end ClusterInspector
