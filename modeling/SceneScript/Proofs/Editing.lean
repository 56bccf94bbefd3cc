import SceneScript.Json.Script
import SceneScript.Proofs.Encodable
import SceneScript.Proofs.Settling

/-
  Boxes that were built and edited.

  Key definitions include:
    * `Dialogue.IsStripped`
    * `Dialogue.IsEntered`
    * `Dialogue.IsObtained`

  Correctness is stated by:
    * `Script.exists_lines_of_ofJsonText`
    * `Dialogue.lines_setLine`
    * `Dialogue.IsStripped.setLine`
    * `Dialogue.IsEntered.isStripped`
    * `LineTable.encode_ne_lineBreak`
    * `Dialogue.isObtained_invariant`

  CR and LF are removed from lines that are given and from
  lines that are typed, and not from a joined text that is
  split.  So it depends on where a box started whether it may
  hold them, and editing does not change it.
-/

namespace SceneScript

------------------------------------------------------------
-- Reading Items
------------------------------------------------------------

namespace Json

/- A text that is read as a whole is read from its front. -/
theorem exists_of_whole
    {α : Type}
    {item : Nat → ReadFn α}
    {input : Text}
    {found : α}
    (hWhole : whole item input = .ok found) :
    ∃ limit next rest,
      item limit next = .ok (found, rest) := by
  unfold whole at hWhole
  split at hWhole
  · cases hWhole
  · rcases bind_eq_ok_iff.mp hWhole with
      ⟨⟨other, rest⟩, hItem, hRest⟩
    simp only at hRest
    split at hRest
    · cases hRest
      exact ⟨_, _, rest, hItem⟩
    · cases hRest

/- A value of the wrong kind is never accepted. -/
theorem wrongKind_ne_ok
    {α : Type}
    {input : Text}
    {result : α × Text} :
    wrongKind input ≠ .ok result := by
  intro hRead
  unfold wrongKind at hRead
  split at hRead
  · cases hRead
  · cases hRead
  · split at hRead <;> cases hRead

section Items

variable {α : Type} {item : ReadFn α} {p : α → Prop}

/- What holds of an item and of later ones holds of all. -/
theorem forall_mem_of_first
    (hItem :
      ∀ {input found rest},
        item input = .ok (found, rest) → p found)
    (others : ReadFn (List α))
    (hOthers :
      ∀ {input items rest},
        others input = .ok (items, rest) →
          ∀ found ∈ items, p found)
    {input rest : Text}
    {items : List α}
    (hItems :
      (do
        let (first, rest) ← item input
        let (later, rest) ← others rest
        return (first :: later, rest)) = .ok (items, rest)) :
    ∀ found ∈ items, p found := by
  rcases bind_eq_ok_iff.mp hItems with
    ⟨⟨first, middle⟩, hFirst, hItems⟩
  rcases bind_eq_ok_iff.mp hItems with
    ⟨⟨later, _⟩, hLater, hBoth⟩
  cases hBoth
  rw [List.forall_mem_cons]
  exact ⟨hItem hFirst, hOthers hLater⟩

/- What holds of every item holds of the later ones. -/
theorem forall_mem_of_moreItems
    (hItem :
      ∀ {input found rest},
        item input = .ok (found, rest) → p found)
    {fuel : Nat}
    {input rest : Text}
    {items : List α}
    (hItems : moreItems item fuel input = .ok (items, rest)) :
    ∀ found ∈ items, p found := by
  induction fuel generalizing input items rest with
  | zero => cases hItems
  | succ fuel ih =>
      rw [moreItems] at hItems
      split at hItems
      · cases hItems
      · cases hItems
        simp
      · split at hItems
        · cases hItems
        · cases hItems
        · exact
            forall_mem_of_first hItem (moreItems item fuel)
              ih hItems
      · cases hItems

/- What holds of every item holds of all items of an array. -/
theorem forall_mem_of_strictArray
    (hItem :
      ∀ {input found rest},
        item input = .ok (found, rest) → p found)
    {limit : Nat}
    {input rest : Text}
    {items : List α}
    (hItems :
      strictArray limit item input = .ok (items, rest)) :
    ∀ found ∈ items, p found := by
  unfold strictArray at hItems
  split at hItems
  · unfold arrayRest at hItems
    split at hItems
    · cases hItems
    · cases hItems
      simp
    · exact
        forall_mem_of_first hItem (moreItems item limit)
          (forall_mem_of_moreItems hItem) hItems
  · exact (wrongKind_ne_ok hItems).elim

end Items

end Json

------------------------------------------------------------
-- Boxes in JSON Texts
------------------------------------------------------------

namespace Command

/- If a command is a dialogue, its box was built of lines. -/
def HasGivenText (command : Command) : Prop :=
  ∀ text,
    command = .dialogue text →
      ∃ lines, text = .ofLines lines

/- The value of a dialogue is the list of the lines. -/
theorem hasGivenText_of_ofFields?
    {opcode : Opcode}
    {values : List Json}
    {command : Command}
    (hFields : ofFields? opcode values = some command) :
    command.HasGivenText := by
  intro text hText
  subst hText
  unfold ofFields? at hFields
  split at hFields
  case h_1 value =>
    rcases Option.bind_eq_some_iff.mp hFields with
      ⟨lines, _, hText⟩
    cases hText
    exact ⟨_, rfl⟩
  case h_4 value =>
    rcases Option.bind_eq_some_iff.mp hFields with
      ⟨items, _, hBytes⟩
    rcases Option.bind_eq_some_iff.mp hBytes with
      ⟨bytes, _, hFadeIn⟩
    split at hFadeIn <;> simp at hFadeIn
  all_goals simp [Option.bind_eq_some_iff] at hFields

/- Only a command that is there is judged right. -/
theorem eq_some_of_judged
    {command? : Option Command}
    {rest : Text}
    {result : Command × Text}
    (hJudged : judged command? rest = .ok result) :
    command? = some result.1 := by
  cases command? with
  | none => cases hJudged
  | some command =>
      cases hJudged
      rfl

/- A dialogue that is read has the lines of its value. -/
theorem hasGivenText_of_readJson
    {limit room : Nat}
    {input rest : Text}
    {command : Command}
    (hRead : readJson limit room input = .ok (command, rest)) :
    command.HasGivenText := by
  unfold readJson at hRead
  split at hRead
  · split at hRead
    · cases hRead
    · cases hRead
    · rcases bind_eq_ok_iff.mp hRead with
        ⟨⟨opcode, _⟩, _, hRead⟩
      rcases bind_eq_ok_iff.mp hRead with
        ⟨⟨values, _⟩, _, hRead⟩
      exact
        hasGivenText_of_ofFields? (eq_some_of_judged hRead)
  · rcases bind_eq_ok_iff.mp hRead with
      ⟨⟨draft, _⟩, _, hRead⟩
    simp only at hRead
    split at hRead
    · have hEntries := eq_some_of_judged hRead
      rcases Option.bind_eq_some_iff.mp hEntries with
        ⟨values, _, hFields⟩
      exact hasGivenText_of_ofFields? hFields
    · cases hRead
  · exact (Json.wrongKind_ne_ok hRead).elim

end Command

/- The dialogues of a JSON text have lines that are given. -/
theorem Script.exists_lines_of_ofJsonText
    {input : Text}
    {script : Script}
    (hScript : ofJsonText input = .ok script)
    {text : Dialogue}
    (hText : .dialogue text ∈ script) :
    ∃ lines, text = .ofLines lines := by
  rcases Json.exists_of_whole hScript with
    ⟨limit, next, rest, hItems⟩
  have hCommands :=
    Json.forall_mem_of_strictArray
      Command.hasGivenText_of_readJson hItems
  exact hCommands _ hText text rfl

------------------------------------------------------------
-- Boxes Without CR and LF
------------------------------------------------------------

namespace Dialogue

/- No line of a box has a CR or an LF. -/
def IsStripped (dialogue : Dialogue) : Prop :=
  ∀ line ∈ dialogue.lines, line.IsStripped

/- The separator is neither CR nor LF. -/
theorem isStripped_separator :
    Text.IsStripped [separator] := by
  simp [Text.IsStripped, separator]

/- A text without CR and LF is split into such lines. -/
theorem isStripped_ofJoined
    {text : Text}
    (hText : text.IsStripped) :
    (ofJoined text).IsStripped := by
  intro line hLine
  have hKept := List.mem_of_mem_take hLine
  have hPiece := (List.mem_filter.mp hKept).1
  apply hText.of_subset
  intro c hMem
  exact Text.mem_of_mem_splitOn hPiece hMem

/- What is given is stripped before it is joined. -/
theorem isStripped_ofLines (lines : List Text) :
    (ofLines lines).IsStripped := by
  apply isStripped_ofJoined
  apply Text.isStripped_joinWith isStripped_separator
  intro piece hPiece
  rcases List.mem_map.mp hPiece with ⟨line, _, hStripped⟩
  subst hStripped
  exact Text.isStripped_stripBreaks line

/- What is typed is stripped, and more of it is removed. -/
theorem isStripped_typed (text : Text) :
    (typed text).IsStripped := by
  apply (Text.isStripped_stripBreaks text).of_subset
  exact List.filter_sublist.subset

namespace IsStripped

variable {dialogue : Dialogue}

/- The joined form has no CR and no LF either. -/
theorem joined
    (hStripped : dialogue.IsStripped) :
    dialogue.joined.IsStripped :=
  Text.isStripped_joinWith isStripped_separator hStripped

/- A box is what its own lines build. -/
theorem ofLines_lines
    (hStripped : dialogue.IsStripped) :
    ofLines dialogue.lines = dialogue := by
  have hLines :
      dialogue.lines.map Text.stripBreaks =
        dialogue.lines :=
    calc
      dialogue.lines.map Text.stripBreaks
      _ = dialogue.lines.map id :=
          List.map_congr_left fun line hLine =>
            (hStripped line hLine).stripBreaks_eq
      _ = dialogue.lines := List.map_id _
  rw [ofLines, hLines]
  exact ofJoined_joined dialogue

end IsStripped

------------------------------------------------------------
-- Edited Boxes
------------------------------------------------------------

/-
  What is typed stands between the lines in front of the index
  and those behind it, as far as the box has room.  If nothing
  is left of it, the line is missing.
-/
theorem lines_setLine
    (dialogue : Dialogue)
    (index : Nat)
    (text : Text) :
    (dialogue.setLine index text).lines =
      if typed text = [] then
        dialogue.lines.eraseIdx index
      else
        (dialogue.lines.take index ++
          typed text ::
            dialogue.lines.drop (index + 1)).take
          maxLines := by
  have hLength := dialogue.length_le
  simp only [setLine]
  by_cases hEmpty : typed text = []
  · rw [dif_pos hEmpty, if_pos hEmpty]
  · rw [dif_neg hEmpty, if_neg hEmpty]
    by_cases hInside : index < dialogue.lines.length
    · rw [if_pos hInside,
        ← List.set_eq_take_cons_drop _ hInside,
        List.take_of_length_le]
      rwa [List.length_set]
    · have hBehind : dialogue.lines.length ≤ index :=
        Nat.not_lt.mp hInside
      rw [if_neg hInside, List.take_of_length_le hBehind,
        List.drop_eq_nil_of_le (by omega)]
      split
      · rw [List.take_of_length_le]
        rw [List.length_append, List.length_singleton]
        omega
      · rw [List.take_append_of_le_length (by omega),
          List.take_of_length_le hLength]

/-
  After a line was set, each line was there before or is what
  was typed.
-/
theorem mem_lines_setLine
    {dialogue : Dialogue}
    {index : Nat}
    {text line : Text}
    (hLine : line ∈ (dialogue.setLine index text).lines) :
    line ∈ dialogue.lines ∨ line = typed text := by
  rw [lines_setLine] at hLine
  split at hLine
  · exact .inl (List.mem_of_mem_eraseIdx hLine)
  · have hFits := List.mem_of_mem_take hLine
    rcases List.mem_append.mp hFits with hFront | hBehind
    · exact .inl (List.mem_of_mem_take hFront)
    · rcases List.mem_cons.mp hBehind with hTyped | hLater
      · exact .inr hTyped
      · exact .inl (List.mem_of_mem_drop hLater)

/- A box has no CR and LF after a line was set. -/
theorem IsStripped.setLine
    {dialogue : Dialogue}
    (hStripped : dialogue.IsStripped)
    (index : Nat)
    (text : Text) :
    (dialogue.setLine index text).IsStripped := by
  intro line hLine
  rcases mem_lines_setLine hLine with hOld | hTyped
  · exact hStripped line hOld
  · rw [hTyped]
    exact isStripped_typed text

/-
  A box that did not start from a joined text.  It starts
  empty, from lines or in a script that is read from JSON, and
  its lines are set.
-/
inductive IsEntered : Dialogue → Prop
| empty : IsEntered .empty
| given (lines : List Text) : IsEntered (.ofLines lines)
| parsed
    {input : Text}
    {script : Script}
    {dialogue : Dialogue}
    (hScript : Script.ofJsonText input = .ok script)
    (hDialogue : .dialogue dialogue ∈ script) :
    IsEntered dialogue
| edited
    {dialogue : Dialogue}
    (hEntered : IsEntered dialogue)
    (index : Nat)
    (text : Text) :
    IsEntered (dialogue.setLine index text)

/- A box that started from anything, a joined text included. -/
inductive IsObtained : Dialogue → Prop
| entered
    {dialogue : Dialogue}
    (hEntered : IsEntered dialogue) :
    IsObtained dialogue
| split (text : Text) : IsObtained (.ofJoined text)
| edited
    {dialogue : Dialogue}
    (hObtained : IsObtained dialogue)
    (index : Nat)
    (text : Text) :
    IsObtained (dialogue.setLine index text)

/- However a box was entered, it has no CR and LF. -/
theorem IsEntered.isStripped
    {dialogue : Dialogue}
    (hEntered : IsEntered dialogue) :
    dialogue.IsStripped := by
  induction hEntered with
  | empty => simp [IsStripped, Dialogue.empty]
  | given lines => exact isStripped_ofLines lines
  | parsed hScript hDialogue =>
      rcases Script.exists_lines_of_ofJsonText hScript
          hDialogue with
        ⟨lines, hLines⟩
      rw [hLines]
      exact isStripped_ofLines lines
  | edited _ index text ih => exact ih.setLine index text

end Dialogue

------------------------------------------------------------
-- Tables Without Line Breaks
------------------------------------------------------------

/- The texts of a script are those of its dialogues. -/
theorem Script.mem_texts_iff
    {script : Script}
    {line : Text} :
    line ∈ script.texts ↔
      ∃ text, .dialogue text ∈ script ∧ text.joined = line := by
  rw [texts, List.mem_filterMap]
  constructor
  · intro hCommand
    rcases hCommand with ⟨command, hCommand, hText⟩
    cases command with
    | dialogue text =>
        exact ⟨text, hCommand, Option.some.inj hText⟩
    | _ => simp [Command.text?] at hText
  · intro hDialogue
    rcases hDialogue with ⟨text, hText, hJoined⟩
    exact ⟨_, hText, congrArg some hJoined⟩

namespace LineTable

/- Only a line with a line break is refused for one. -/
theorem hasLineBreak_of_encodeLine
    {position index : Nat}
    {line : Text}
    (hLine :
      encodeLine position line = .error (.lineBreak index)) :
    Text.hasLineBreak line = true := by
  rw [encodeLine_eq] at hLine
  split at hLine
  · assumption
  · split at hLine <;> simp at hLine

/- A table without line breaks is never refused for one. -/
theorem encode_ne_lineBreak
    {table : LineTable}
    (hLines :
      ∀ line ∈ table.toList, Text.hasLineBreak line = false)
    (index : Nat) :
    table.encode ≠ .error (.lineBreak index) := by
  intro hEncode
  rcases encode_eq_error_iff.mp hEncode with
    ⟨position, line, hLine, hRefused, _⟩
  have hBreak := hasLineBreak_of_encodeLine hRefused
  rw [hLines line (List.mem_of_getElem? hLine)] at hBreak
  simp at hBreak

end LineTable

/- The table of boxes without CR and LF has no line break. -/
theorem Script.hasLineBreak_eq_of_encode
    {script : Script}
    {encoded : Encoded}
    (hEncode : script.encode = .ok encoded)
    (hStripped :
      ∀ text, .dialogue text ∈ script → text.IsStripped) :
    ∀ line ∈ encoded.table.toList,
      Text.hasLineBreak line = false := by
  intro line hLine
  rw [toList_of_encode hEncode, List.mem_eraseDups,
    mem_texts_iff] at hLine
  rcases hLine with ⟨text, hText, hJoined⟩
  rw [← hJoined]
  exact (hStripped text hText).joined.hasLineBreak_eq

namespace Dialogue

/-
  A box has at most three lines, none of them is empty or has
  the separator, and it is what its joined form splits into.
  Unless it started from a joined text, no line has a CR or an
  LF, it is what its own lines build, and a script of such
  boxes has a table that is never refused for a line break.
-/
theorem isObtained_invariant :
    (∀ dialogue : Dialogue,
      IsObtained dialogue →
        dialogue.lines.length ≤ 3 ∧
          (∀ line ∈ dialogue.lines,
            line ≠ [] ∧ separator ∉ line) ∧
          ofJoined dialogue.joined = dialogue) ∧
      (∀ dialogue : Dialogue,
        IsEntered dialogue →
          (∀ line ∈ dialogue.lines,
            '\r' ∉ line ∧ '\n' ∉ line) ∧
            ofLines dialogue.lines = dialogue) ∧
      ∀ (script : Script) (encoded : Encoded),
        (∀ text, .dialogue text ∈ script → IsEntered text) →
          script.encode = .ok encoded →
            ∀ index,
              encoded.table.encode ≠
                .error (.lineBreak index) := by
  refine ⟨?_, ?_, ?_⟩
  · intro dialogue _
    exact
      ⟨dialogue.length_le, dialogue.isLine,
        ofJoined_joined dialogue⟩
  · intro dialogue hEntered
    exact
      ⟨hEntered.isStripped,
        hEntered.isStripped.ofLines_lines⟩
  · intro script encoded hEntered hEncode
    have hUnbroken :=
      Script.hasLineBreak_eq_of_encode hEncode
        fun text hText => (hEntered text hText).isStripped
    exact LineTable.encode_ne_lineBreak hUnbroken

/-
  A box is read from JSON, its third line is typed and its
  first one is removed.  Another box keeps the line break of
  its joined text, and is not what its own lines build.
-/
theorem isObtained_invariant_edited_boxes :
    ∃ (entered split : Dialogue) (encoded : Encoded),
      IsEntered entered ∧
        entered.lines = [['c'], ['d']] ∧
        ofLines entered.lines = entered ∧
        Script.encode [.dialogue entered, .finish] =
          .ok encoded ∧
        (∀ index,
          encoded.table.encode ≠
            .error (.lineBreak index)) ∧
        IsObtained split ∧
        split.lines = [['a', '\r', '\n', 'b'], ['c']] ∧
        ofJoined split.joined = split ∧
        ofLines split.lines ≠ split := by
  let read : Dialogue :=
    .ofLines [['a', '\r', '\n', 'b'], ['c', '\n']]
  let entered : Dialogue :=
    (read.setLine 2 ['\r', '\n', 'd', '\r']).setLine 0
      ['\r', '\n']
  let split : Dialogue :=
    (ofJoined ['a', '\r', '\n', 'b']).setLine 1 ['c']
  have hScript :
      Script.ofJsonText
          "[[\"dialogue\", [\"a\\r\\nb\", \"c\\n\"]]]".toList =
        .ok [.dialogue read] := by
    cbv
  have hEntered : IsEntered entered :=
    ((IsEntered.parsed hScript (by simp)).edited _ _).edited
      _ _
  have hObtained : IsObtained split :=
    (IsObtained.split _).edited _ _
  have hEncodable :
      Script.IsEncodable [.dialogue entered, .finish] :=
    ⟨by simp [Command.IsNamed, Command.symbol?], by decide⟩
  rcases (Script.exists_encode_iff _).mpr hEncodable with
    ⟨encoded, hEncode⟩
  have hUnbroken :=
    isObtained_invariant.2.2 _ _ (by simpa using hEntered)
      hEncode
  refine
    ⟨entered, split, encoded, hEntered, by decide, ?_,
      hEncode, hUnbroken, hObtained, by decide, ?_,
      by decide⟩
  · exact (isObtained_invariant.2.1 entered hEntered).2
  · exact (isObtained_invariant.1 split hObtained).2.2

end Dialogue

end SceneScript
