import Ensemble.Number.Binary64
import Ensemble.Text.Blank

/-!
# Similarity of responses

Two texts are compared by their sets of words.  Their similarity is the number of words they have in
common, divided by the number of words in either; two texts without words are wholly similar.

A response stalls when it equals the one before it, or is more similar to it than a threshold.
-/

namespace Ensemble.Reflection

/-- The words of a text, each once, in the order of their first use. -/
def wordSet (text : String) : List (List Char) :=
  (Text.words text.toList).eraseDups

/-- How many words two texts have in common. -/
def commonWords (a b : String) : Nat :=
  ((wordSet a).filter fun w => (wordSet b).contains w).length

/-- How many different words two texts have. -/
def distinctWords (a b : String) : Nat :=
  (wordSet a).length + (wordSet b).length - commonWords a b

/-- The similarity of two texts. -/
def similarity (a b : String) : Binary64 :=
  if distinctWords a b == 0 then .one
  else .ofRatio false (commonWords a b) (distinctWords a b)

/-- How a response compares with the one before it. -/
structure StallCheck where
  isStall : Bool
  similarity : Binary64
  deriving DecidableEq, Repr

/-- Compares a response with the one before it; a first response does not stall. -/
def checkStall (previous : Option String) (current : String) (threshold : Binary64) : StallCheck :=
  match previous with
  | none => ⟨false, .zero⟩
  | some previous =>
    if previous == current then ⟨true, .one⟩
    else
      let similarity := similarity previous current
      ⟨threshold.lt similarity, similarity⟩

/-- A first response does not stall. -/
@[simp] theorem checkStall_none (current : String) (threshold : Binary64) :
    checkStall none current threshold = ⟨false, .zero⟩ := rfl

end Ensemble.Reflection
