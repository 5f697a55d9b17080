import BackupRotation.Text.Decimal
/-!
# Similar names

When a word on the command line names nothing, the parser looks for names
close to it and offers them as a hint. Closeness is the Jaro similarity of
the two character sequences: characters match when they are equal and no
further apart than half the longer length less one, each character matched
at most once and in order of the first word; half the matched pairs that
appear in different orders count as transpositions.

The score is computed in binary floating point, term by term, so that two
names whose scores agree as fractions but not as floats are ordered the
same way the hints are expected in; only names scoring above 0.7 are hints.
-/

namespace BackupRotation.Cli

/-- Flags of the characters of `second` taken so far, and of those of
`first` matched, when each character of `first` takes the first free equal
character of `second` inside its window. -/
def matchWithin (range : Nat) (second : List Char) :
    Nat → List Char → List Bool → List Bool × List Bool
  | _, [], taken => ([], taken)
  | index, c :: rest, taken =>
      let low := index - range
      let high := min second.length (index + range + 1)
      let slot := (List.range second.length).find? fun j =>
        low ≤ j && j < high && second.getD j ' ' == c && !taken.getD j true
      match slot with
      | some j =>
          let (flags, final) := matchWithin range second (index + 1) rest (taken.set j true)
          (true :: flags, final)
      | none =>
          let (flags, final) := matchWithin range second (index + 1) rest taken
          (false :: flags, final)

/-- The characters whose flag is set, in order. -/
def flagged (chars : List Char) (flags : List Bool) : List Char :=
  (chars.zip flags).filterMap fun (c, flag) => if flag then some c else none

/-- Jaro similarity of two words, between 0 and 1. -/
def jaro (first second : String) : Float :=
  let a := first.toList
  let b := second.toList
  if a.isEmpty && b.isEmpty then 1.0
  else if a.isEmpty || b.isEmpty then 0.0
  else
    let range := max a.length b.length / 2 - 1
    let (aFlags, bFlags) := matchWithin range b 0 a (List.replicate b.length false)
    let matched := flagged a aFlags
    let hits := matched.length
    let swapped := ((matched.zip (flagged b bFlags)).filter fun (x, y) => x != y).length / 2
    if hits == 0 then 0.0
    else
      (hits.toFloat / a.length.toFloat + hits.toFloat / b.length.toFloat +
        (hits - swapped).toFloat / hits.toFloat) / 3.0

/-- The candidates similar to a word, least similar first; candidates that
score the same keep their order. -/
def similarNames (word : String) (candidates : List String) : List String :=
  let scored := (candidates.map fun name => (jaro word name, name)).filter fun (score, _) =>
    decide (score > 0.7)
  (scored.mergeSort fun x y => decide (x.1 ≤ y.1)).map (·.2)

/-- The candidate most similar to a word, the later one among equals. -/
def closestName (word : String) (candidates : List String) : Option String :=
  (similarNames word candidates).getLast?

end BackupRotation.Cli
