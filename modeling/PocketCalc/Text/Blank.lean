import PocketCalc.Text.Basic

/-!
# Blank space

Two classes differ by four control characters: `isSpace` is what separates lexemes, `isBlank` what
is trimmed off the ends of a text and what separates words.

* `isSpace`, `isBlank`   the classes;
* `trim`                 a text without blanks at either end;
* `words`                the parts of a text between runs of blanks.
-/

namespace PocketCalc.Text

/-! ## The classes -/

/-- code points of the property White_Space -/
def spaceRanges : Ranges :=
  [(0x9, 0xD), (0x20, 0x20), (0x85, 0x85), (0xA0, 0xA0), (0x1680, 0x1680), (0x2000, 0x200A),
   (0x2028, 0x2029), (0x202F, 0x202F), (0x205F, 0x205F), (0x3000, 0x3000)]

/-- white space between lexemes -/
def isSpace (c : Char) : Bool := spaceRanges.has c

/-- white space, or one of the information separators U+001C to U+001F -/
def isBlank (c : Char) : Bool := isSpace c || (0x1C ≤ c.toNat && c.toNat ≤ 0x1F)

theorem isBlank_of_isSpace {c : Char} (h : isSpace c = true) : isBlank c = true := by
  simp [isBlank, h]

/-! ## Trimming and splitting -/

/-- the text without blanks at its ends -/
def trim (t : Text) : Text := trimEndWhile isBlank (t.dropWhile isBlank)

def isBlankText (t : Text) : Bool := t.all isBlank

/-- the words of a text, the first one begun with the characters of `word` in reverse -/
def wordsFrom (word : Text) : Text → List Text
  | [] => if word.isEmpty then [] else [word.reverse]
  | c :: r =>
    if isBlank c then
      if word.isEmpty then wordsFrom [] r else word.reverse :: wordsFrom [] r
    else wordsFrom (c :: word) r

/-- the longest parts of a text that hold no blank -/
def words (t : Text) : List Text := wordsFrom [] t

end PocketCalc.Text
