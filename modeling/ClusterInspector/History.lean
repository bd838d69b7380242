/-!
# Line history

The lines submitted so far and a place among them. Going back stops at the oldest line; going
forward past the newest gives an empty line and ends the browsing, as does a new line.
-/
namespace ClusterInspector

structure History where
  lines : List String := []
  /-- The line shown, when browsing. -/
  cursor : Option Nat := none
  deriving DecidableEq, Repr

namespace History

def record (h : History) (line : String) : History := { lines := h.lines ++ [line] }

/-- The line before the one shown, the newest when not browsing; none without lines. -/
def previous (h : History) : History × Option String :=
  if h.lines.isEmpty then (h, none)
  else
    let i := match h.cursor with
      | none => h.lines.length - 1
      | some i => i - 1
    ({ h with cursor := some i }, some (h.lines.getD i ""))

/-- The line after the one shown; none when not browsing. -/
def next (h : History) : History × Option String :=
  match h.cursor with
  | none => (h, none)
  | some i =>
    match h.lines[i + 1]? with
    | some line => ({ h with cursor := some (i + 1) }, some line)
    | none => ({ h with cursor := none }, some "")

@[simp] theorem lines_record (h : History) (line : String) :
    (h.record line).lines = h.lines ++ [line] := rfl

@[simp] theorem lines_previous (h : History) : h.previous.1.lines = h.lines := by
  unfold previous
  split <;> rfl

@[simp] theorem lines_next (h : History) : h.next.1.lines = h.lines := by
  unfold next
  split
  · rfl
  · split <;> rfl

end History

end ClusterInspector
