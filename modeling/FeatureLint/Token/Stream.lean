import FeatureLint.Token

namespace FeatureLint.Token

def byIndex (a b : Token) : Bool := a.index ≤ b.index

theorem byIndex_iff {a b : Token} : byIndex a b = true ↔ a.index ≤ b.index := by
  simp [byIndex]

theorem byIndex_trans (a b c : Token) (hab : byIndex a b) (hbc : byIndex b c) : byIndex a c :=
  byIndex_iff.mpr (Nat.le_trans (byIndex_iff.mp hab) (byIndex_iff.mp hbc))

theorem byIndex_total (a b : Token) : byIndex a b || byIndex b a := by
  simpa [byIndex] using Nat.le_total a.index b.index

/-- Tokens by index. Tokens of one index keep the order in which they were given. -/
structure Stream where
  tokens : List Token
  sorted : tokens.Pairwise fun a b => a.index ≤ b.index

def Stream.ofList (tokens : List Token) : Stream where
  tokens := tokens.mergeSort byIndex
  sorted := (List.pairwise_mergeSort byIndex_trans byIndex_total tokens).imp byIndex_iff.mp

/-- The hidden tokens whose index lies in the closed range, in stream order. -/
def Stream.hidden (s : Stream) (start stop : Nat) : List Token :=
  if stop < start then []
  else
    ((s.tokens.dropWhile fun t => t.index < start).takeWhile fun t => t.index ≤ stop).filter
      (·.hidden)

end FeatureLint.Token
