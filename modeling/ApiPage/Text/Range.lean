/-!
# Tables of code points

A Unicode property is a list of closed ranges, and a mapping a list of runs that keep the distance
between neighbours. The lists are sorted, but no function here relies on it.
-/

namespace ApiPage.Text

/-- Closed ranges of code points. -/
abbrev Ranges := List (Nat × Nat)

/-- **Membership**: some range of the table holds `n`. -/
def Ranges.has (t : Ranges) (n : Nat) : Bool :=
  t.any fun r => r.1 ≤ n && n ≤ r.2

/-- Runs of a mapping: the code points from the first to the second component go to the code points
that start at the third. -/
abbrev Runs := List (Nat × Nat × Nat)

/-- **Image** of `n`: as the run that holds it says, and `n` itself if none does. -/
def Runs.apply (t : Runs) (n : Nat) : Nat :=
  match t.find? fun r => r.1 ≤ n && n ≤ r.2.1 with
  | some r => r.2.2 + (n - r.1)
  | none => n

/-- The letters of ASCII. -/
def isAsciiLetter (n : Nat) : Bool :=
  (65 ≤ n && n ≤ 90) || (97 ≤ n && n ≤ 122)

/-- The digits of ASCII. -/
def isAsciiDigit (n : Nat) : Bool :=
  48 ≤ n && n ≤ 57

end ApiPage.Text
