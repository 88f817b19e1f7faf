import Ensemble.Number.Literal

/-!
# Verdicts of evaluators

An evaluator answers in words, and its answer is read leniently: every text has an evaluation.

* A first word `PASS` passes; the colons, points and exclamation marks at its end do not count.
* Otherwise a text that starts with `FAIL:` fails.
* Otherwise the score decides: it passes from the passing score on.
* A text with none of these fails with score zero.

The score stands on a line that starts with `SCORE:` in any letter case, as the first word after it;
the first such line whose word is a number counts.  The rationale is what follows the first
`RATIONALE:`, in any letter case.
-/

namespace Ensemble.Reflection

/-- What an evaluator makes of a response. -/
structure Evaluation where
  /-- A share of one. -/
  score : Binary64
  passed : Bool
  rationale : String
  deriving DecidableEq, Repr

/-- The number between zero and one that is nearest to a score; zero for an undefined one. -/
def clampScore (score : Binary64) : Binary64 :=
  if score == .nan || score.lt .zero then .zero
  else if Binary64.one.lt score then .one
  else score

/-- The mark before a score. -/
def scoreMark : List Char := "SCORE:".toList

/-- The mark before a rationale. -/
def rationaleMark : List Char := "RATIONALE:".toList

/-- The mark of a failed evaluation. -/
def failMark : List Char := "FAIL:".toList

/-- The word of a passed evaluation. -/
def passWord : List Char := "PASS".toList

/-- The characters that may follow the word of a passed evaluation. -/
def isPassEnding (c : Char) : Bool :=
  c == ':' || c == '.' || c == '!'

/-- The characters that may follow a score. -/
def isScoreEnding (c : Char) : Bool :=
  c == ',' || c == ';'

/-- The score on a line, if it holds one. -/
def lineScore? (line : List Char) : Option Binary64 := do
  let line := Text.trim line
  guard (Text.sameIgnoringAsciiCase (line.take scoreMark.length) scoreMark)
  let word ← (Text.words (line.drop scoreMark.length)).head?
  let number ← Binary64.ofLiteral? (Text.trimEndWhere isScoreEnding word)
  return clampScore number

/-- The first score in a text. -/
def findScore? (text : List Char) : Option Binary64 :=
  (Text.lines text).findSome? lineScore?

/-- The rationale in a text. -/
def findRationale? (text : List Char) : Option (List Char) :=
  (Text.after? rationaleMark (Text.asciiUpper text)).map fun rest =>
    Text.trim (text.drop (text.length - rest.length))

/-- The rationale in a text, or the whole text if it has none. -/
def rationaleOf (text : List Char) : String :=
  String.ofList ((findRationale? text).getD text)

/-- Whether the first word of a text is that of a passed evaluation. -/
def startsWithPass (text : List Char) : Bool :=
  match Text.words text with
  | word :: _ => Text.trimEndWhere isPassEnding word == passWord
  | [] => false

/-- Reads the answer of an evaluator. -/
def readVerdict (text : String) (passScore : Binary64) : Evaluation :=
  let text := Text.trim text.toList
  let score? := findScore? text
  if startsWithPass text then
    let rest := Text.trim (Text.trimStartWhere isPassEnding (text.drop passWord.length))
    ⟨score?.getD .one, true, rationaleOf rest⟩
  else if failMark.isPrefixOf text then
    ⟨score?.getD .zero, false, rationaleOf (Text.trim (text.drop failMark.length))⟩
  else
    match score? with
    | some score => ⟨score, passScore.le score, rationaleOf text⟩
    | none => ⟨.zero, false, String.ofList text⟩

/-- An undefined score counts as zero. -/
@[simp] theorem clampScore_nan : clampScore .nan = .zero := rfl

end Ensemble.Reflection
