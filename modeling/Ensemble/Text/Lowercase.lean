import Ensemble.Text.CaseTable

/-!
# Lower case

The full lower-case mapping of Unicode.  Every character but two goes to one character, found in
`lowerRuns`.  The capital I with a dot above becomes two characters, and the capital sigma becomes a
final sigma when it ends a word: a letter with case stands before it and none after it, where
characters of the class `Case_Ignorable` are passed over on both sides.
-/

namespace Ensemble.Text

/-- Whether a character lies in one of the closed ranges of a table. -/
def inRanges (table : List (Nat × Nat)) (c : Char) : Bool :=
  table.any fun (first, last) => first ≤ c.toNat && c.toNat ≤ last

/-- The lower-case partner of a character, or the character itself if it has none. -/
def lowerChar (c : Char) : Char :=
  if c.toNat < 0x80 then c.toLower
  else
    match lowerRuns.find? fun (first, last, step, _) =>
        first ≤ c.toNat && c.toNat ≤ last && (c.toNat - first) % step == 0 with
    | some (_, _, _, shift) => Char.ofNat (Int.toNat (c.toNat + shift))
    | none => c

/-- Whether the next character that is not passed over is a letter with case. -/
def meetsCased (s : List Char) : Bool :=
  match s.dropWhile (inRanges ignorableRanges) with
  | c :: _ => inRanges casedRanges c
  | [] => false

/-- Lower case of the text after the characters `before`, which are held in reverse order. -/
def lowerAfter (before : List Char) : List Char → List Char
  | [] => []
  | c :: rest =>
    let lowered :=
      if c == 'Σ' then
        if meetsCased before && !meetsCased rest then ['ς'] else ['σ']
      else if c == 'İ' then ['i', Char.ofNat 0x307]
      else [lowerChar c]
    lowered ++ lowerAfter (c :: before) rest

/-- A text in lower case. -/
def lowercase (s : List Char) : List Char :=
  lowerAfter [] s

end Ensemble.Text
