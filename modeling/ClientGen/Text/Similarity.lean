import ClientGen.Text.Characters

/-!
How alike two texts are: the share of characters in common blocks. The longest common block is taken
first, then the longest ones on both sides of it, and so on. In a long text the frequent characters say
little: they do not begin a block, but a block that has been found grows by them.
-/

namespace ClientGen.Text

/-- Texts of so many characters are long. -/
def longLength : Nat := 200

/-- The characters that a long text has more than once in every hundred, and once more. -/
def frequent (cs : List Char) : List Char :=
  if cs.length < longLength then []
  else cs.eraseDups.filter fun c => cs.length / 100 + 1 < cs.count c

/-- How many characters two texts have in common at their beginning, up to one that is passed over. -/
def commonLength (passed : List Char) : List Char → List Char → Nat
  | a :: as, b :: bs => if a = b && !passed.contains a then commonLength passed as bs + 1 else 0
  | _, _ => 0

/-- A common block: where it begins in either text, and its length. -/
structure Block where
  first : Nat
  second : Nat
  length : Nat

/-- The longest block at the beginning of `as` and anywhere in `bs`, if it is longer than a known
one. -/
def longestIn (passed as : List Char) (first : Nat) : List Char → Nat → Block → Block
  | [], _, best => best
  | b :: bs, second, best =>
    let length := commonLength passed as (b :: bs)
    longestIn passed as first bs (second + 1)
      (if best.length < length then ⟨first, second, length⟩ else best)

/-- The longest common block; of several the one that begins first. -/
def longestBlock (passed bs : List Char) : List Char → Nat → Block → Block
  | [], _, best => best
  | a :: as, first, best =>
    longestBlock passed bs as (first + 1) (longestIn passed (a :: as) first bs 0 best)

/-- A block with the common characters on both sides of it. -/
def Block.extended (block : Block) (as bs : List Char) : Block :=
  let before := commonLength [] (as.take block.first).reverse (bs.take block.second).reverse
  let behind := commonLength [] (as.drop (block.first + block.length))
    (bs.drop (block.second + block.length))
  ⟨block.first - before, block.second - before, before + block.length + behind⟩

/-- The number of characters in common blocks. -/
def commonCount (passed : List Char) : Nat → List Char → List Char → Nat
  | 0, _, _ => 0
  | fuel + 1, as, bs =>
    let best := (longestBlock passed bs as 0 ⟨0, 0, 0⟩).extended as bs
    if best.length = 0 then 0
    else
      best.length + commonCount passed fuel (as.take best.first) (bs.take best.second) +
        commonCount passed fuel (as.drop (best.first + best.length))
          (bs.drop (best.second + best.length))

/-- How alike two texts are, as a ratio of whole numbers; what is frequent is decided by the second. -/
def similarity (a b : List Char) : Nat × Nat :=
  let total := a.length + b.length
  if total = 0 then (1, 1) else (2 * commonCount (frequent b) (min a.length b.length + 1) a b, total)

/-- Comparison of ratios. -/
def ratioLess (x y : Nat × Nat) : Bool := x.1 * y.2 < y.1 * x.2

/-- The least similarity of a suggestion, and how many suggestions there are at most. -/
def suggestionRatio : Nat × Nat := (6, 10)

def suggestionCount : Nat := 3

/-- The candidates most like a text, in the order of their texts. -/
def suggestions (text : String) (candidates : List String) : List String :=
  let scored := candidates.map fun c => (similarity c.toList text.toList, c)
  let near := scored.filter fun entry => !ratioLess entry.1 suggestionRatio
  let ranked := near.mergeSort fun x y =>
    ratioLess y.1 x.1 || (!ratioLess x.1 y.1 && y.2 ≤ x.2)
  ((ranked.take suggestionCount).map (·.2)).mergeSort fun a b => a ≤ b

end ClientGen.Text
