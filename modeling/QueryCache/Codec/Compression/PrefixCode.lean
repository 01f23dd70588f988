import QueryCache.Codec.Bits

/-! Prefix codes for the symbols of an alphabet.

A code is known by the lengths of its words: words of one length are numbered in the order of
their symbols, shorter words before longer ones. The lengths are those that Huffman's merging
gives for the counts of the symbols, bounded by raising the least counts. A symbol that stands
alone needs no bits. -/

set_option autoImplicit false

namespace QueryCache.PrefixCode

/-- Symbols with the lengths of their words, in the order of the symbols. -/
abbrev Lengths := List (Nat × Nat)

/-- Two lighter groups of symbols merged into one. -/
inductive Merge where
  | leaf (symbol : Nat)
  | node (first second : Merge)

/-- The depth of every symbol of a group. -/
def Merge.depths (depth : Nat) : Merge → Lengths
  | .leaf symbol => [(symbol, depth)]
  | .node first second => first.depths (depth + 1) ++ second.depths (depth + 1)

/-- Groups with their weights, the lightest first. -/
abbrev Groups := List (Nat × Merge)

/-- Takes the lightest group; of equally light ones a single symbol. -/
def lightest : Groups → Groups → Option ((Nat × Merge) × Groups × Groups)
  | leaf :: leaves, node :: nodes =>
    if leaf.1 ≤ node.1 then some (leaf, leaves, node :: nodes)
    else some (node, leaf :: leaves, nodes)
  | leaf :: leaves, [] => some (leaf, leaves, [])
  | [], node :: nodes => some (node, [], nodes)
  | [], [] => none

/-- Merges the two lightest groups until one is left; the fuel is the number of symbols. -/
def mergeAll : Nat → Groups → Groups → Option Merge
  | 0, _, _ => none
  | fuel + 1, leaves, nodes => do
    let (a, leaves, nodes) ← lightest leaves nodes
    match lightest leaves nodes with
    | none => return a.2
    | some (b, leaves, nodes) =>
      mergeAll fuel leaves (nodes ++ [(a.1 + b.1, .node a.2 b.2)])

/-- The depths of counted symbols; counts below the floor are raised to it. -/
def depthsFrom (floor : Nat) (counts : List (Nat × Nat)) : Lengths :=
  let raised := counts.map fun (symbol, count) => (max count floor, symbol)
  let sorted := raised.mergeSort fun a b => a.1 < b.1 || (a.1 == b.1 && b.2 ≤ a.2)
  let leaves := sorted.map fun (weight, symbol) => (weight, Merge.leaf symbol)
  ((mergeAll leaves.length leaves []).map (Merge.depths 0)).getD []

/-- The depths under a bound: the floor is doubled until no symbol is too deep. -/
def boundedDepths (bound : Nat) (counts : List (Nat × Nat)) : Nat → Nat → Lengths
  | 0, floor => depthsFrom floor counts
  | fuel + 1, floor =>
    let depths := depthsFrom floor counts
    if depths.all (·.2 ≤ bound) then depths else boundedDepths bound counts fuel (2 * floor)

/-- The lengths of the words for counted symbols. -/
def lengthsOf (bound : Nat) (counts : List (Nat × Nat)) : Lengths :=
  let most := (counts.map (·.2)).foldl max 1
  (boundedDepths bound counts (Nat.log2 most + 2) 1).mergeSort fun a b => a.1 ≤ b.1

/-- Symbols with their words. -/
abbrev Words := List (Nat × Bits)

/-- Numbers words in order of length; a word of length `n` takes up `2 ^ (15 - n)` places. -/
def number : Nat → Lengths → Words
  | _, [] => []
  | place, (symbol, length) :: rest =>
    (symbol, (Bits.ofNat length (place / power 2 (15 - length))).reverse) ::
      number (place + power 2 (15 - length)) rest

def words (lengths : Lengths) : Words :=
  number 0 (lengths.mergeSort fun a b => a.2 < b.2 || (a.2 == b.2 && a.1 ≤ b.1))

/-- The words of the symbols below `size`, by symbol. -/
def table (size : Nat) (words : Words) : Array Bits :=
  words.foldl (fun table (symbol, word) => table.setIfInBounds symbol word)
    (Array.replicate size [])

/-- The words as a tree: one step to the left or to the right for each bit. -/
inductive Tree where
  | empty
  | leaf (symbol : Nat)
  | node (left right : Tree)
  deriving Repr

namespace Tree

/-- Puts a symbol at the end of a word. -/
def insert (symbol : Nat) : Bits → Tree → Tree
  | [], _ => .leaf symbol
  | bit :: rest, tree =>
    let (left, right) :=
      match tree with
      | .node left right => (left, right)
      | _ => (.empty, .empty)
    if bit then .node left (insert symbol rest right) else .node (insert symbol rest left) right

def ofWords (words : Words) : Tree :=
  words.foldl (fun tree (symbol, word) => tree.insert symbol word) .empty

def ofLengths (lengths : Lengths) : Tree := ofWords (PrefixCode.words lengths)

/-- Reads the word of a symbol. -/
def read : Tree → BitReader Nat
  | .empty => failure
  | .leaf symbol => return symbol
  | .node left right => do if ← BitReader.bit then read right else read left

end Tree

end QueryCache.PrefixCode
