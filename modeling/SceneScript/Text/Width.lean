/-
  Width substitution.  The display font has full-width glyphs
  only for Latin letters, digits and some punctuation, so
  those characters are stored full-width and are edited in
  their half-width form.

  Key definitions include:
    * `Text`
    * `Width.pairs`
    * `Width.halfChar`
    * `Width.fullChar`
    * `Text.toHalf`
    * `Text.toFull`
-/

namespace SceneScript

/- A text is a sequence of Unicode scalar values. -/
abbrev Text := List Char

namespace Width

------------------------------------------------------------
-- Pairs
------------------------------------------------------------

/-
  A half-width character with its full-width form.
-/
structure Pair where
  half : Char
  full : Char
deriving DecidableEq, Repr

/-
  Letters and digits are paired with the character at the
  same place of the full-width block.
-/
def blockPairs
    (first : Char)
    (count : Nat) : List Pair :=
  (List.range count).map fun i =>
    { half := Char.ofNat (first.toNat + i)
      full := Char.ofNat (first.toNat + 0xFEE0 + i) }

/-
  Punctuation.  The comma is paired with the ideographic
  comma and the space with the ideographic space.
-/
def punctuationPairs : List Pair := [
  ⟨'?', '？'⟩, ⟨'!', '！'⟩, ⟨',', '、'⟩, ⟨'-', '－'⟩,
  ⟨'/', '／'⟩, ⟨'~', '～'⟩, ⟨' ', '　'⟩, ⟨'#', '＃'⟩,
  ⟨'%', '％'⟩, ⟨'$', '＄'⟩]

/- Every pair that is substituted, in both directions. -/
def pairs : List Pair :=
  blockPairs 'A' 26 ++ blockPairs 'a' 26 ++
    blockPairs '0' 10 ++ punctuationPairs

/-
  Wave dash and minus sign stand for `～` and `－` in other
  mappings of the code page.  They are read as the half-width
  character but never written.
-/
def readOnlyPairs : List Pair :=
  [⟨'~', '〜'⟩, ⟨'-', '−'⟩]

------------------------------------------------------------
-- Characters
------------------------------------------------------------

/- The half-width form of a character, itself if unpaired. -/
def halfChar (c : Char) : Char :=
  match (pairs ++ readOnlyPairs).find? (·.full == c) with
  | some pair => pair.half
  | none => c

/- The full-width form of a character, itself if unpaired. -/
def fullChar (c : Char) : Char :=
  match pairs.find? (·.half == c) with
  | some pair => pair.full
  | none => c

end Width

------------------------------------------------------------
-- Texts
------------------------------------------------------------

namespace Text

/- Replace every full-width character that has a partner. -/
def toHalf (text : Text) : Text :=
  text.map Width.halfChar

/- Replace every half-width character that has a partner. -/
def toFull (text : Text) : Text :=
  text.map Width.fullChar

end Text

end SceneScript
