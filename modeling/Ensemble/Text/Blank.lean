/-!
# Blank characters, trimming, words and lines

The texts of this library are sequences of Unicode characters.  A character is *blank* when it has
the Unicode property `White_Space`, and a *control* character when its general category is `Cc`.
Trimming, splitting into words and splitting into lines are all built on these two classes; they
work on `List Char`, so that facts about them are facts about lists.
-/

namespace Ensemble.Text

/-! ## Two classes of characters -/

/-- The characters with the Unicode property `White_Space`. -/
def isBlank (c : Char) : Bool :=
  let n := c.toNat
  (9 ≤ n && n ≤ 13) || n == 0x20 || n == 0x85 || n == 0xA0 || n == 0x1680 ||
    (0x2000 ≤ n && n ≤ 0x200A) || n == 0x2028 || n == 0x2029 || n == 0x202F || n == 0x205F ||
    n == 0x3000

/-- The characters of the Unicode general category `Cc`. -/
def isControl (c : Char) : Bool :=
  let n := c.toNat
  n < 0x20 || (0x7F ≤ n && n ≤ 0x9F)

/-! ## Trimming takes characters of a class off the ends -/

/-- Takes the characters of the class `p` off the end of a text. -/
def trimEndWhere (p : Char → Bool) (s : List Char) : List Char :=
  (s.reverse.dropWhile p).reverse

/-- Takes the characters of the class `p` off the start of a text. -/
def trimStartWhere (p : Char → Bool) (s : List Char) : List Char :=
  s.dropWhile p

/-- Takes the blanks off the start of a text. -/
def trimStart (s : List Char) : List Char :=
  trimStartWhere isBlank s

/-- What is taken off the start of a text and what is left make the text. -/
theorem trimStart_append (s : List Char) : s.takeWhile isBlank ++ trimStart s = s :=
  List.takeWhile_append_dropWhile

/-- Takes the blanks off the end of a text. -/
def trimEnd (s : List Char) : List Char :=
  trimEndWhere isBlank s

/-- Takes the blanks off both ends of a text. -/
def trim (s : List Char) : List Char :=
  trimEnd (trimStart s)

/-- The text without the blanks at its two ends. -/
def trimmed (s : String) : String :=
  String.ofList (trim s.toList)

/-- Whether a text consists of blanks only. -/
def isBlankText (s : String) : Bool :=
  s.toList.all isBlank

/-! ## Words and lines -/

/-- The pieces of a text between the characters of the class `p`, empty ones included. -/
def pieces (p : Char → Bool) : List Char → List (List Char)
  | [] => [[]]
  | c :: rest =>
    if p c then [] :: pieces p rest
    else
      match pieces p rest with
      | [] => [[c]]
      | piece :: more => (c :: piece) :: more

/-- The words of a text: its longest runs of characters that are not blank, in order. -/
def words (s : List Char) : List (List Char) :=
  (pieces isBlank s).filter fun w => !w.isEmpty

/-- Takes one carriage return off the end of a line, if there is one. -/
def dropReturn (line : List Char) : List Char :=
  match line.reverse with
  | '\r' :: rest => rest.reverse
  | _ => line

/-- Ends each piece but the last as a line, and drops a last piece that holds nothing. -/
def endLines : List (List Char) → List (List Char)
  | [] => []
  | [last] => if last.isEmpty then [] else [last]
  | line :: more => dropReturn line :: endLines more

/--
The lines of a text.  A line ends with a line feed, or with a carriage return and a line feed; what
follows the last line feed is a line of its own unless it is empty.
-/
def lines (s : List Char) : List (List Char) :=
  endLines (pieces (· == '\n') s)

/-! ## Letter case within ASCII -/

/-- A text with its ASCII letters in upper case and all else unchanged. -/
def asciiUpper (s : List Char) : List Char :=
  s.map Char.toUpper

/-- A text with its ASCII letters in lower case and all else unchanged. -/
def asciiLower (s : List Char) : List Char :=
  s.map Char.toLower

/-- Whether two texts differ at most in the case of ASCII letters. -/
def sameIgnoringAsciiCase (s t : List Char) : Bool :=
  asciiLower s == asciiLower t

/-! ## Searching -/

/-- What follows the first occurrence of `marker` in a text, if there is one. -/
def after? (marker : List Char) : List Char → Option (List Char)
  | [] => if marker.isEmpty then some [] else none
  | c :: rest =>
    if marker.isPrefixOf (c :: rest) then some ((c :: rest).drop marker.length)
    else after? marker rest

/-- A text cut in two around the first occurrence of `marker`, if there is one. -/
def cut? (marker : List Char) : List Char → Option (List Char × List Char)
  | [] => if marker.isEmpty then some ([], []) else none
  | c :: rest =>
    if marker.isPrefixOf (c :: rest) then some ([], (c :: rest).drop marker.length)
    else (cut? marker rest).map fun (before, after) => (c :: before, after)

/-- A text cut in two around the last occurrence of `marker`, if there is one. -/
def cutLast? (marker : List Char) : List Char → Option (List Char × List Char)
  | [] => if marker.isEmpty then some ([], []) else none
  | c :: rest =>
    match cutLast? marker rest with
    | some (before, after) => some (c :: before, after)
    | none =>
      if marker.isPrefixOf (c :: rest) then some ([], (c :: rest).drop marker.length) else none

/-- Whether `part` occurs in a text. -/
def occursIn (part : List Char) (s : List Char) : Bool :=
  (after? part s).isSome

/-! ## Excerpts -/

/-- The first `count` characters of a text, with three dots after them if more follow. -/
def excerpt (count : Nat) (s : String) : String :=
  let chars := s.toList
  String.ofList (chars.take count) ++ if count < chars.length then "..." else ""

end Ensemble.Text
