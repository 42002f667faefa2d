import M68HC05.Deflate.Bits

/-!
Prefix codes. A code is given by the length of the codeword of each symbol, zero for a symbol
without one. Codewords of a length are consecutive in the order of their symbols and come before
the beginnings of longer ones, so each level of the code tree is the leaves of that length followed
by the pairs of the level below. A code with a single codeword leaves words over; what they stand
for is in `CodeTree.vacancy`.
-/

namespace M68HC05.Deflate

/-- The tree of a prefix code. -/
inductive CodeTree where
  /-- no codeword begins here -/
  | unused
  | leaf (symbol : Nat)
  | node (zero one : CodeTree)

namespace CodeTree

/-- Longest codeword. -/
def maxLength : Nat := 15

/-- Bits within which a word that is left over is refused. -/
def refusalDepth : Nat := 10

/-- What stands where a level has no tree for a word of its length. Words left over are refused as
far as the first ten bits tell them from the codeword; one that parts from it later reads as the
symbol 0. -/
def vacancy (length : Nat) : CodeTree :=
  if length ≤ refusalDepth then unused else leaf 0

/-- Joins neighbours of a level below one node each. A lone last one is joined with `vacant`. -/
def joinPairs (vacant : CodeTree) : List CodeTree → List CodeTree
  | zero :: one :: trees => node zero one :: joinPairs vacant trees
  | [zero] => [node zero vacant]
  | [] => []

/-- The symbols whose codewords have a length, as leaves. -/
def leavesOfLength (lengths : List Nat) (length : Nat) : List CodeTree :=
  (lengths.zipIdx.filter (·.1 = length)).map fun (_, symbol) => leaf symbol

/-- The subtrees at a depth, counted from the deepest level up. -/
def level (lengths : List Nat) : (above : Nat) → List CodeTree
  | 0 => leavesOfLength lengths maxLength
  | above + 1 =>
    leavesOfLength lengths (maxLength - (above + 1))
      ++ joinPairs (vacancy (maxLength - above)) (level lengths above)

/-- The tree of a code. Its root is a node, also when no symbol has a codeword. -/
def ofLengths (lengths : List Nat) : CodeTree :=
  match level lengths (maxLength - 1) with
  | [] => node (vacancy 1) (vacancy 1)
  | [zero] => node zero (vacancy 1)
  | zero :: one :: _ => node zero one

/-- The share of all words of the greatest length that a code covers. -/
def coverage (lengths : List Nat) : Nat :=
  lengths.foldr
    (fun length total => (if length = 0 then 0 else 1 <<< (maxLength - length)) + total) 0

/-- The code covers every word exactly once. -/
def isComplete (lengths : List Nat) : Bool :=
  coverage lengths = 1 <<< maxLength

/-- The tree of a code that is complete, or has at most one codeword where `mayBeShort`. -/
def ofLengths? (mayBeShort : Bool) (lengths : List Nat) : Except StreamFault CodeTree :=
  if isComplete lengths || mayBeShort && lengths.countP (· ≠ 0) ≤ 1 then .ok (ofLengths lengths)
  else .error .invalid

/-- Takes a codeword off the front and answers its symbol. -/
def takeSymbol : CodeTree → Bits → Except StreamFault (Nat × Bits)
  | unused, _ => .error .invalid
  | leaf symbol, bits => .ok (symbol, bits)
  | node _ _, [] => .error .unfinished
  | node zero one, bit :: bits =>
    match bit with
    | false => zero.takeSymbol bits
    | true => one.takeSymbol bits

end CodeTree
end M68HC05.Deflate
