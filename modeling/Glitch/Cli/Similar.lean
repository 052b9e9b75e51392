/-!
Jaro similarity of two texts, for suggesting a known name in place of a mistyped one.

Two characters match when they are equal and no further apart than half the longer text's length
less one; each character of the second text matches at most once, the first free one from the
left. With `m` matches, `t` half the number of matched pairs that come in a different order, and
lengths `a` and `b`, the similarity is `(m / a + m / b + (m - t) / m) / 3`; it is 1 for two empty
texts and 0 when only one is empty or nothing matches. Similarities are kept as exact fractions.
-/
namespace Glitch.Cli

/-- A similarity as a fraction `num / den` with `den > 0`. -/
structure Similarity where
  num : Nat
  den : Nat

def Similarity.lt (x y : Similarity) : Bool := x.num * y.den < y.num * x.den

def matchOne (b : Array Char) (range i : Nat) (c : Char) (used : Array Bool) : Option (Nat × Array Bool) :=
  let lo := i - range
  let hi := min b.size (i + range + 1)
  match (List.range' lo (hi - lo)).find? (fun j => b.getD j ' ' == c && !used.getD j true) with
  | some j => some (j, used.set! j true)
  | none => none

def jaro (a b : String) : Similarity :=
  let as := a.toList.toArray
  let bs := b.toList.toArray
  if as.size = 0 && bs.size = 0 then ⟨1, 1⟩
  else if as.size = 0 || bs.size = 0 then ⟨0, 1⟩
  else
    let range := max as.size bs.size / 2 - 1
    let (aUsed, bUsed) := (List.range as.size).foldl (fun (acc : Array Bool × Array Bool) i =>
      match matchOne bs range i (as.getD i ' ') acc.2 with
      | some (_, used) => (acc.1.set! i true, used)
      | none => acc) (Array.replicate as.size false, Array.replicate bs.size false)
    let aMatched := ((List.range as.size).filter (fun i => aUsed.getD i false)).map (fun i => as.getD i ' ')
    let bMatched := ((List.range bs.size).filter (fun j => bUsed.getD j false)).map (fun j => bs.getD j ' ')
    let m := aMatched.length
    if m = 0 then ⟨0, 1⟩
    else
      let t := ((aMatched.zip bMatched).filter (fun (x, y) => x != y)).length / 2
      let la := as.size
      let lb := bs.size
      ⟨m * lb * m + m * la * m + (m - t) * la * lb, 3 * la * lb * m⟩

/-- The candidates more than 0.7 similar to a text, least similar first (equals kept in
order). -/
def similarNames (s : String) (candidates : List String) : List String :=
  let scored := (candidates.map fun c => (jaro s c, c)).filter fun (x, _) => (⟨7, 10⟩ : Similarity).lt x
  (scored.mergeSort (fun x y => !y.1.lt x.1)).map Prod.snd

end Glitch.Cli
