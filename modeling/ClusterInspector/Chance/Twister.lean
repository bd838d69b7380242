import ClusterInspector.Chance.Source

/-!
# The Mersenne twister

The generator MT19937 on 624 words of 32 bits, seeded by the words of a whole number. Choices among
`n` draw as many bits as `n` has until they make a number below `n`; a fraction has 53 bits.
-/
namespace ClusterInspector.Chance

structure Twister where
  words : Array UInt32
  /-- Words already given out since the last twist. -/
  used : Nat
  deriving DecidableEq, Repr

namespace Twister

def size : Nat := 624

def word (ws : Array UInt32) (i : Nat) : UInt32 := ws.getD i 0

/-- Folds a word's high bits into its low ones. -/
def fold30 (w : UInt32) : UInt32 := w ^^^ (w >>> 30)

/-- The state that one word leads to. -/
def ofWord (seed : UInt32) : Array UInt32 :=
  (List.range (size - 1)).foldl
    (fun ws i => ws.push (1812433253 * fold30 (word ws i) + UInt32.ofNat (i + 1))) #[seed]

/-- Sets a word from the one before it; place `size` stands for the first word again. -/
def stir (f : UInt32 → UInt32 → UInt32) (ws : Array UInt32) (i : Nat) : Array UInt32 :=
  let ws := ws.setIfInBounds i (f (word ws i) (fold30 (word ws (i - 1))))
  if i + 1 = size then ws.setIfInBounds 0 (word ws i) else ws

/-- The place visited at a step, when places 1 to 623 are visited over and over. -/
def place (step : Nat) : Nat := step % (size - 1) + 1

/-- The state that a key of words leads to. -/
def ofKey (key : Array UInt32) : Twister :=
  let steps := max size key.size
  let mixed := (List.range steps).foldl (fun ws step =>
    let j := step % key.size
    stir (fun w v => (w ^^^ (v * 1664525)) + word key j + UInt32.ofNat j) ws (place step))
    (ofWord 19650218)
  let settled := (List.range (size - 1)).foldl (fun ws n =>
    let i := place (steps + n)
    stir (fun w v => (w ^^^ (v * 1566083941)) - UInt32.ofNat i) ws i) mixed
  { words := settled.setIfInBounds 0 0x80000000, used := size }

/-- The 32-bit words of a number, least significant first; at least one. -/
def keyOf (n : Nat) : List UInt32 :=
  if n < 0x100000000 then [UInt32.ofNat n] else UInt32.ofNat n :: keyOf (n / 0x100000000)
termination_by n

/-- The sign of a seed does not matter. -/
def ofSeed (seed : Int) : Twister := ofKey (keyOf seed.natAbs).toArray

/-- The next 624 words. -/
def twist (ws : Array UInt32) : Array UInt32 :=
  (List.range size).foldl (fun ws i =>
    let y := (word ws i &&& 0x80000000) ||| (word ws ((i + 1) % size) &&& 0x7fffffff)
    let feedback : UInt32 := if y % 2 = 1 then 0x9908b0df else 0
    ws.setIfInBounds i (word ws ((i + 397) % size) ^^^ (y >>> 1) ^^^ feedback)) ws

def temper (w : UInt32) : UInt32 :=
  let w := w ^^^ (w >>> 11)
  let w := w ^^^ ((w <<< 7) &&& 0x9d2c5680)
  let w := w ^^^ ((w <<< 15) &&& 0xefc60000)
  w ^^^ (w >>> 18)

def next (t : Twister) : UInt32 × Twister :=
  if t.used < size then (temper (word t.words t.used), { t with used := t.used + 1 })
  else
    let words := twist t.words
    (temper (word words 0), { words, used := 1 })

/-- A number of so many bits: whole words, least significant first, then the high bits of one. -/
def bits (count : Nat) (t : Twister) : Nat × Twister :=
  if count ≤ 32 then
    let (w, t) := t.next
    (w.toNat >>> (32 - count), t)
  else
    let (w, t) := t.next
    let (high, t) := bits (count - 32) t
    (w.toNat + 0x100000000 * high, t)

/-- How often a number is drawn before 0 is taken for want of one. A draw that is not accepted has
its highest bit set, and that bit follows a primitive recurrence of degree 19937: it is set at most
so many times in a row, and one more draw is always enough. -/
def maxDraws : Nat := 19938

def below (n : Nat) (h : 0 < n) : (draws : Nat) → Twister → Fin n × Twister
  | 0, t => (⟨0, h⟩, t)
  | draws + 1, t =>
    let (v, t) := t.bits (n.log2 + 1)
    if hv : v < n then (⟨v, hv⟩, t) else below n h draws t

def fraction (t : Twister) : Fraction × Twister :=
  let (high, t) := t.next
  let (low, t) := t.next
  (⟨high.toNat / 32 * 67108864 + low.toNat / 64, 9007199254740992, by
    have := high.toNat_lt
    have := low.toNat_lt
    omega⟩, t)

instance : Source Twister where
  between lo hi h t :=
    let (v, t) := below (hi - lo + 1) (by omega) maxDraws t
    (⟨lo + v.val, by omega⟩, t)
  index count h t := below count h maxDraws t
  fraction := fraction

end Twister

end ClusterInspector.Chance
