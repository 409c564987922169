import FeatureLint.Unicode.CodeSet
import FeatureLint.Unicode.FoldingTable

namespace FeatureLint.Unicode

/-- Code points that differ in case only, two by two. -/
def casePairs : List (Nat × Nat) :=
  (runsOf foldingTable).flatMap fun r => r.members.map fun n => (n, n + r.distance)

/-- Adds, for each pair, the partner of a member. -/
def closeUnder (pairs : List (Nat × Nat)) (s : CodeSet) : CodeSet :=
  ⟨s.ranges ++ pairs.flatMap fun p =>
    (if s.contains p.1 then [(p.2, p.2)] else []) ++ (if s.contains p.2 then [(p.1, p.1)] else [])⟩

/-- The characters of the set in any case. -/
def CodeSet.fold (s : CodeSet) : CodeSet := closeUnder casePairs s

/-- The same for the letters of ASCII alone. -/
def CodeSet.foldAscii (s : CodeSet) : CodeSet :=
  closeUnder ((List.range 26).map fun i => (0x41 + i, 0x61 + i)) s

end FeatureLint.Unicode
