/-!
# Lists with the same members

Two lists have the same members when each value occurs equally often in both. The values of the first
are counted in a tally; the second must then use up a count for each of its values. With lists of equal
length nothing is left over.
-/

namespace WorkloadNet.Dns

variable {α : Type} [DecidableEq α]

/-- Values with how often each of them may still occur. -/
abbrev Tally (α : Type) := List (α × Nat)

namespace Tally

/-- Counts a value. -/
def add (x : α) : Tally α → Tally α
  | [] => [(x, 1)]
  | (y, n) :: rest => if y = x then (y, n + 1) :: rest else (y, n) :: add x rest

/-- The tally of a list. -/
def ofList (l : List α) : Tally α := l.foldl (fun tally x => tally.add x) []

/-- Uses up one count of a value, if there is one. -/
def take (x : α) : Tally α → Option (Tally α)
  | [] => none
  | (y, n) :: rest =>
    if y = x then if n = 0 then none else some ((y, n - 1) :: rest)
    else (take x rest).map ((y, n) :: ·)

/-- Whether a count can be used up for each value of a list. -/
def covers (tally : Tally α) : List α → Bool
  | [] => true
  | x :: rest =>
    match tally.take x with
    | none => false
    | some tally => covers tally rest

end Tally

/-- Whether two lists hold the same values equally often. -/
def sameMembers (a b : List α) : Bool :=
  a.length = b.length && (Tally.ofList a).covers b

end WorkloadNet.Dns
