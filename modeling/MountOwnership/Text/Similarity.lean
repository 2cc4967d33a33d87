/-!
# Similarity of words

The Jaro similarity of two words, by which a mistyped word is matched with the
word that was meant. It counts the characters that both words have in roughly
the same place, and how many of those are out of order.
-/

namespace MountOwnership.Text

/-- Pair the characters of a word with free places of another one that are at most `reach` away:
for each character whether it found a place, and the places that are taken. -/
def placeAll (reach : Nat) (word : Array Char) :
    Nat → List Char → List Bool × List Nat → List Bool × List Nat
  | _, [], found => found
  | i, c :: rest, (flags, taken) =>
    let first := i - reach
    let place := (List.range' first (min word.size (i + reach + 1) - first)).find? fun j =>
      word[j]? == some c && !taken.contains j
    match place with
    | some j => placeAll reach word (i + 1) rest (true :: flags, j :: taken)
    | none => placeAll reach word (i + 1) rest (false :: flags, taken)

/-- The Jaro similarity of two words, from 0 to 1. -/
def similarity (a b : List Char) : Float :=
  if a.isEmpty && b.isEmpty then 1
  else if a.isEmpty || b.isEmpty then 0
  else
    let reach := max a.length b.length / 2 - 1
    let (flags, taken) := placeAll reach b.toArray 0 a ([], [])
    let shared := (a.zip flags.reverse).filterMap fun p => if p.2 then some p.1 else none
    let sharedOther := (b.zipIdx.filter fun p => taken.contains p.2).map (·.1)
    let swapped := ((shared.zip sharedOther).filter fun p => p.1 != p.2).length / 2
    let matched := shared.length
    if matched = 0 then 0
    else
      (matched.toFloat / a.length.toFloat + matched.toFloat / b.length.toFloat +
        (matched - swapped).toFloat / matched.toFloat) / 3

/-- The known word that is most similar to a given one, the last of equally similar ones, if any is
similar enough. -/
def similarWord? (word : String) (known : List String) : Option String :=
  (known.foldl (fun best candidate =>
    let score := similarity word.toList candidate.toList
    if score > 0.7 then
      match best with
      | some (other, _) => if score < other then best else some (score, candidate)
      | none => some (score, candidate)
    else best) (none : Option (Float × String))).map (·.2)

end MountOwnership.Text
