/-!
# Blanks

The characters that separate words, and the two readings of a text that look at them: the text
without its blank ends, and the list of its words.
-/
namespace ClusterInspector.Text

/-- Tab to carriage return, the four information separators, the space, next line, and the
no-break, ogham, typographic and ideographic spaces and separators. Zero-width characters are not
blank. -/
def isBlank (c : Char) : Bool :=
  let n := c.toNat
  (0x9 ≤ n && n ≤ 0xD) || (0x1C ≤ n && n ≤ 0x20) || n == 0x85 || n == 0xA0 || n == 0x1680 ||
  (0x2000 ≤ n && n ≤ 0x200A) || n == 0x2028 || n == 0x2029 || n == 0x202F || n == 0x205F ||
  n == 0x3000

/-- Cuts the characters of a class off both ends. -/
def trim (p : Char → Bool) (cs : List Char) : List Char :=
  (((cs.dropWhile p).reverse).dropWhile p).reverse

/-- The words of a text: its maximal runs without a blank. -/
def words (cs : List Char) : List (List Char) :=
  (cs.splitOnP isBlank).filter (· ≠ [])

theorem dropWhile_append_of_head? (p : Char → Bool) (lead cs : List Char)
    (dropped : ∀ c ∈ lead, p c = true) (kept : ∀ c ∈ cs.head?, p c = false) :
    (lead ++ cs).dropWhile p = cs := by
  rw [List.dropWhile_append_of_pos dropped]
  cases cs with
  | nil => rfl
  | cons c rest => simp [kept c rfl]

theorem trim_append (p : Char → Bool) (lead cs trail : List Char)
    (before : ∀ c ∈ lead, p c = true) (after : ∀ c ∈ trail, p c = true) (nonempty : cs ≠ [])
    (first : ∀ c ∈ cs.head?, p c = false) (last : ∀ c ∈ cs.getLast?, p c = false) :
    trim p (lead ++ (cs ++ trail)) = cs := by
  have opened : (lead ++ (cs ++ trail)).dropWhile p = cs ++ trail := by
    refine dropWhile_append_of_head? p lead _ before ?_
    obtain ⟨c, rest, rfl⟩ := List.exists_cons_of_ne_nil nonempty
    exact first
  have closed : (trail.reverse ++ cs.reverse).dropWhile p = cs.reverse := by
    refine dropWhile_append_of_head? p _ _ (by simpa using after) ?_
    rwa [List.head?_reverse]
  rw [trim, opened, List.reverse_append, closed, List.reverse_reverse]

end ClusterInspector.Text
