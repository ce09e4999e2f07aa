import TraversalPlanner.Regex.Assembly

/-
  This file counts the states for a choice of literals, which are
  put into a tree by their bytes.  Where a literal ends, those
  before it are preferred to those behind it, so a node of the
  tree keeps them apart.

  Key definitions include:
    * `Regex.Part.groupByFirst`
    * `Regex.Part.treeSize`
    * `Regex.Part.ofLiterals`
-/

namespace TraversalPlanner

namespace Regex

namespace Part

/- The tails of lists that start alike, by the first element. -/
def groupByFirst (ls : List (List Nat)) : List (List (List Nat)) :=
  (ls.filterMap List.head?).eraseDups.map fun b =>
    (ls.filter fun l => l.head? == some b).map List.tail

/- The bytes of the state for a number of ways on, as an excess. -/
def segmentSize (ways : Nat) : Nat :=
  if ways ≤ 1 then 0 else ways * Assembly.rangeSize

/-
  The ends of literals at a node that are kept: all but those
  that follow another one with nothing longer before them.
-/
def keptEnds (ls : List (List Nat)) : Nat :=
  let late := ls.dropWhile List.isEmpty
  late.countP List.isEmpty + min 1 (ls.takeWhile List.isEmpty).length

/- Lists without an empty one among them, in the order given. -/
def segments (ls : List (List Nat)) : List (List (List Nat)) :=
  (ls.splitBy fun l l' => l.isEmpty == l'.isEmpty).filter fun s =>
    s.any fun l => !l.isEmpty

/-
  The states, and the bytes for their ways on, of the node for
  some lists, with the nodes below it down to some depth.  A node
  where all lists end is none of its own.
-/
def treeSize : (depth : Nat) → List (List Nat) → Nat × Nat
| 0, _ => (0, 0)
| depth + 1, ls =>
    let segs := (segments ls).map groupByFirst
    if segs.isEmpty then
      (0, 0)
    else
      let alternatives := segs.length + keptEnds ls
      segs.foldl
        (fun size groups =>
          groups.foldl
            (fun size g =>
              let below := treeSize depth g
              (size.1 + below.1, size.2 + below.2))
            (size.1 + 1, size.2 + segmentSize groups.length))
        (1, alternatives * Assembly.branchSize)

/- One of several literals, given by their bytes. -/
def ofLiterals (ls : List (List Nat)) : Part :=
  let depth := ls.foldl (fun n l => max n l.length) 0
  let size := treeSize (depth + 1) ls
  ofSize (size.1 + 1) size.2

end Part

end Regex

end TraversalPlanner
