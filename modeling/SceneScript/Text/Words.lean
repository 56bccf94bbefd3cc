import SceneScript.Text.Width

/-
  Cutting texts at word boundaries.

  Key definitions include:
    * `WordClass`
    * `WordClass.ofChar`
    * `Words.joins`
    * `Text.words`

  Correctness is stated by:
    * `Text.flatten_words`

  The rules are those of Unicode for default word boundaries.
  Letters of one script form words, digits form numbers, and
  every character without a rule stands alone.  The classes
  cover the characters that Shift_JIS text can hold.
-/

namespace SceneScript

------------------------------------------------------------
-- Classes
------------------------------------------------------------

/- What a character does to the words around it. -/
inductive WordClass where
| carriageReturn
| lineFeed
| newline
| space
| extend
| letter
| katakana
| digit
| midLetter
| midNumber
| midBoth
| connector
| other
deriving DecidableEq, Repr

namespace WordClass

/- The code points of each class, with both ends included. -/
def ranges : List (WordClass × Nat × Nat) := [
  (carriageReturn, 0x0D, 0x0D),
  (lineFeed, 0x0A, 0x0A),
  (newline, 0x0B, 0x0C),
  (newline, 0x85, 0x85),
  (newline, 0x2028, 0x2029),
  (space, 0x20, 0x20),
  (space, 0x3000, 0x3000),
  (extend, 0xFF9E, 0xFF9F),
  (letter, 0x41, 0x5A),
  (letter, 0x61, 0x7A),
  (letter, 0x0391, 0x03A1),
  (letter, 0x03A3, 0x03C9),
  (letter, 0x0400, 0x0481),
  (letter, 0x212B, 0x212B),
  (letter, 0x2160, 0x2188),
  (letter, 0x3005, 0x3005),
  (letter, 0xFF21, 0xFF3A),
  (letter, 0xFF41, 0xFF5A),
  (katakana, 0x309B, 0x309C),
  (katakana, 0x30A0, 0x30FA),
  (katakana, 0x30FC, 0x30FF),
  (katakana, 0x3300, 0x3357),
  (katakana, 0xFF66, 0xFF9D),
  (digit, 0x30, 0x39),
  (digit, 0xFF10, 0xFF19),
  (midLetter, 0x3A, 0x3A),
  (midLetter, 0xFF1A, 0xFF1A),
  (midNumber, 0x2C, 0x2C),
  (midNumber, 0x3B, 0x3B),
  (midNumber, 0xFF0C, 0xFF0C),
  (midNumber, 0xFF1B, 0xFF1B),
  (midBoth, 0x27, 0x27),
  (midBoth, 0x2E, 0x2E),
  (midBoth, 0x2018, 0x2019),
  (midBoth, 0xFF07, 0xFF07),
  (midBoth, 0xFF0E, 0xFF0E),
  (connector, 0x5F, 0x5F),
  (connector, 0xFF3F, 0xFF3F)]

/- The class of a character. -/
def ofChar (c : Char) : WordClass :=
  let found :=
    ranges.find? fun (_, first, last) =>
      first ≤ c.toNat && c.toNat ≤ last
  (found.map (·.1)).getD other

/- The class ends a line. -/
def isBreak (kind : WordClass) : Bool :=
  kind = carriageReturn || kind = lineFeed || kind = newline

/- The class can be joined by a connector. -/
def isWord (kind : WordClass) : Bool :=
  kind = letter || kind = digit || kind = katakana

/- The class can stand between two letters. -/
def isMidLetter (kind : WordClass) : Bool :=
  kind = midLetter || kind = midBoth

/- The class can stand between two digits. -/
def isMidNumber (kind : WordClass) : Bool :=
  kind = midNumber || kind = midBoth

end WordClass

------------------------------------------------------------
-- Boundaries
------------------------------------------------------------

namespace Words

open WordClass

/-
  The classes before a place: the class of the last character
  and the last two classes that are not extended over.
-/
structure Context where
  nearest : WordClass
  base : WordClass
  earlier : WordClass

/- The context behind a first character. -/
def Context.start (kind : WordClass) : Context where
  nearest := kind
  base := kind
  earlier := other

/-
  The context behind one more character.  A character that
  extends takes the part of the one before it, except behind
  a line break.
-/
def Context.next
    (context : Context)
    (kind : WordClass) : Context :=
  if kind = extend && !context.nearest.isBreak then
    { context with nearest := kind }
  else
    { nearest := kind, base := kind, earlier := context.base }

/- The class of the next character that does not extend. -/
def following : Text → WordClass
| [] => other
| c :: rest =>
    let kind := ofChar c
    if kind = extend then following rest else kind

/-
  Two significant classes belong to one word.  `earlier`
  stands before the first, `later` behind the second.
-/
def attracts
    (earlier first second later : WordClass) : Bool :=
  match first, second with
  | letter, letter => true
  | letter, digit => true
  | digit, letter => true
  | digit, digit => true
  | katakana, katakana => true
  | connector, connector => true
  | connector, _ => second.isWord
  | _, connector => first.isWord
  | letter, _ => second.isMidLetter && later = letter
  | _, letter => first.isMidLetter && earlier = letter
  | digit, _ => second.isMidNumber && later = digit
  | _, digit => first.isMidNumber && earlier = digit
  | _, _ => false

/-
  There is no boundary in front of a character of class
  `kind` that `rest` follows.
-/
def joins
    (context : Context)
    (kind : WordClass)
    (rest : Text) : Bool :=
  if context.nearest = carriageReturn && kind = lineFeed then
    true
  else if context.nearest.isBreak || kind.isBreak then
    false
  else if kind = extend then
    true
  else if context.nearest = space && kind = space then
    true
  else
    attracts context.earlier context.base kind
      (following rest)

end Words

------------------------------------------------------------
-- Words
------------------------------------------------------------

namespace Text

/- The words from a place inside a word on. -/
def wordsFrom
    (context : Words.Context) :
    Text → Text × List Text
| [] => ([], [])
| c :: rest =>
    let kind := WordClass.ofChar c
    let (word, words) := wordsFrom (context.next kind) rest
    if Words.joins context kind rest then
      (c :: word, words)
    else
      ([], (c :: word) :: words)

/- The pieces between the word boundaries of a text. -/
def words : Text → List Text
| [] => []
| c :: rest =>
    let start := Words.Context.start (WordClass.ofChar c)
    let (word, words) := wordsFrom start rest
    (c :: word) :: words

/- Cutting from inside a word loses nothing. -/
theorem flatten_wordsFrom
    (context : Words.Context)
    (text : Text) :
    (wordsFrom context text).1 ++
        (wordsFrom context text).2.flatten = text := by
  induction text generalizing context with
  | nil => rfl
  | cons c rest ih =>
      have hRest :=
        ih (context.next (WordClass.ofChar c))
      simp only [wordsFrom]
      split <;> simp [hRest]

/- The words of a text make up the text. -/
theorem flatten_words (text : Text) :
    (words text).flatten = text := by
  cases text with
  | nil => rfl
  | cons c rest =>
      simp [words, flatten_wordsFrom]

end Text

end SceneScript
