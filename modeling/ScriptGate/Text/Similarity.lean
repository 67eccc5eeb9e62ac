/-!
How alike two words are.

Letters match if they are equal and about as far from the beginning of their words, each with one letter at most. The
measure is the mean of three shares: of the matched letters in either word, and of the matched letters whose
order is the same in both.
-/

namespace ScriptGate.Text

/-- How far apart the places of two matching letters may be. -/
def reach (a b : List Char) : Nat := max a.length b.length / 2 - 1

/-- The first place not taken yet where a letter stands, among those up to `last` and from `first` on; `index` is the
place of the first letter given. -/
def freePlace? (c : Char) (first last : Nat) (taken : List Nat) :
    (index : Nat) → List Char → Option Nat
  | _, [] => none
  | index, d :: rest =>
    if last < index then none
    else if first ≤ index && c = d && !taken.contains index then some index
    else freePlace? c first last taken (index + 1) rest

/-- The letters of one word that match, in their order, and the places in the other one that they match. -/
def matched (reach : Nat) (other : List Char) :
    (index : Nat) → (taken : List Nat) → List Char → List Char × List Nat
  | _, taken, [] => ([], taken)
  | index, taken, c :: rest =>
    match freePlace? c (index - reach) (index + reach) taken 0 other with
    | some place =>
      let (letters, taken) := matched reach other (index + 1) (place :: taken) rest
      (c :: letters, taken)
    | none => matched reach other (index + 1) taken rest

/-- How alike two words are: one for equal words, and zero if no letter matches. -/
def similarity (a b : String) : Float :=
  let a := a.toList
  let b := b.toList
  let (letters, places) := matched (reach a b) b 0 [] a
  let others := (b.zipIdx.filter fun (_, i) => places.contains i).map Prod.fst
  let swapped := ((letters.zip others).filter fun (c, d) => c ≠ d).length / 2
  let count := Float.ofNat letters.length
  if letters.isEmpty then if a.isEmpty && b.isEmpty then 1 else 0
  else
    (count / Float.ofNat a.length + count / Float.ofNat b.length +
      Float.ofNat (letters.length - swapped) / count) / 3

end ScriptGate.Text
