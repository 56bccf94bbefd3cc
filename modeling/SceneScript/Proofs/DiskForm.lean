import SceneScript.Proofs.Boxes
import SceneScript.Proofs.Substitution

/-
  The form in which texts, boxes and scripts come back from
  their files.

  Key definitions include:
    * `Text.onDisk`
    * `Dialogue.onDisk`
    * `Script.onDisk`

  Correctness is stated by:
    * `Text.hasLineBreak_stored`
    * `Dialogue.joined_onDisk`
    * `Dialogue.ofJoined_onDisk`
    * `Script.onDisk_eq_self_iff`

  Only characters change.  No line break and no separator is
  made or removed, so that every cut stays where it was.
-/

namespace SceneScript

------------------------------------------------------------
-- Disk Forms of Texts
------------------------------------------------------------

/- A map leaves a list alone when it leaves its items alone. -/
theorem map_eq_self_iff
    {α : Type}
    {f : α → α}
    {items : List α} :
    items.map f = items ↔ ∀ item ∈ items, f item = item := by
  induction items with
  | nil => simp
  | cons first rest ih => simp [ih]

namespace Text

/- The text that comes back from a table file. -/
def onDisk (text : Text) : Text :=
  text.map Width.diskChar

/- A substitution neither makes nor removes a line break. -/
theorem hasLineBreak_map_of_keepsInert
    {f : Char → Char}
    (hKeeps : Width.KeepsInert f)
    (text : Text) :
    hasLineBreak (text.map f) = hasLineBreak text :=
  hasLineBreak_map (hKeeps.eq_mark_iff (by simp))
    (hKeeps.eq_mark_iff (by simp)) text

/- Storing a text neither makes nor removes a line break. -/
theorem hasLineBreak_stored (text : Text) :
    hasLineBreak (text.map Width.storedChar) =
      hasLineBreak text :=
  hasLineBreak_map_of_keepsInert Width.keepsInert_storedChar
    text

/- The disk form of a text has the same number of characters. -/
@[simp]
theorem length_onDisk (text : Text) :
    text.onDisk.length = text.length :=
  List.length_map _

/- A text without characters stays one. -/
theorem onDisk_eq_nil_iff (text : Text) :
    text.onDisk = [] ↔ text = [] :=
  List.map_eq_nil_iff

/-
  A text comes back as it is exactly when each of its
  characters does.
-/
theorem onDisk_eq_self_iff (text : Text) :
    text.onDisk = text ↔
      ∀ c ∈ text, Width.diskChar c = c :=
  map_eq_self_iff

end Text

------------------------------------------------------------
-- Boxes
------------------------------------------------------------

namespace Dialogue

/- The box that comes back from a table file. -/
def onDisk (dialogue : Dialogue) : Dialogue where
  lines := dialogue.lines.map Text.onDisk
  length_le := by
    simpa using dialogue.length_le
  isLine := by
    intro line hLine
    rcases List.mem_map.mp hLine with ⟨source, hSource, rfl⟩
    have hSourceLine := dialogue.isLine source hSource
    constructor
    · exact fun h =>
        hSourceLine.1 ((Text.onDisk_eq_nil_iff source).mp h)
    · intro hMem
      rcases List.mem_map.mp hMem with ⟨c, hChar, hSame⟩
      have hSeparator :=
        (Width.keepsInert_diskChar.eq_mark_iff (by simp) c).mp
          hSame
      exact hSourceLine.2 (hSeparator ▸ hChar)

/- Disk forms of boxes are joined to disk forms of texts. -/
theorem joined_onDisk (dialogue : Dialogue) :
    dialogue.onDisk.joined = dialogue.joined.onDisk := by
  have hSeparator :
      [separator].map Width.diskChar = [separator] := by
    decide
  exact Text.joinWith_map hSeparator dialogue.lines

/- The disk form of a text splits into that of its box. -/
theorem ofJoined_onDisk (text : Text) :
    ofJoined text.onDisk = (ofJoined text).onDisk := by
  apply eq_of_lines_eq
  have hSplit :
      Text.splitOn separator (text.map Width.diskChar) =
        (Text.splitOn separator text).map
          (List.map Width.diskChar) :=
    Text.splitOn_map
      (Width.keepsInert_diskChar.eq_mark_iff (by simp)) text
  have hFilled :
      (fun line : Text => decide (line ≠ [])) ∘
          List.map Width.diskChar =
        fun line : Text => decide (line ≠ []) := by
    funext line
    simp
  simp only [ofJoined, onDisk, Text.onDisk]
  rw [hSplit, List.filter_map, hFilled, List.map_take]
  rfl

/- A box comes back as it is exactly when its lines do. -/
theorem onDisk_eq_self_iff (dialogue : Dialogue) :
    dialogue.onDisk = dialogue ↔
      ∀ line ∈ dialogue.lines,
        ∀ c ∈ line, Width.diskChar c = c := by
  have hLines :
      dialogue.onDisk = dialogue ↔
        dialogue.lines.map Text.onDisk = dialogue.lines :=
    ⟨congrArg Dialogue.lines, fun h => eq_of_lines_eq h⟩
  rw [hLines, map_eq_self_iff]
  simp only [Text.onDisk_eq_self_iff]

end Dialogue

------------------------------------------------------------
-- Scripts
------------------------------------------------------------

namespace Command

/- The command that comes back from its files. -/
def onDisk (command : Command) : Command :=
  command.mapText Dialogue.onDisk

end Command

namespace Script

/- The script that comes back from its files. -/
def onDisk (script : Script) : Script :=
  script.map Command.onDisk

/- The dialogues that come back are those in disk form. -/
theorem dialogue_mem_onDisk_iff
    {script : Script}
    {text : Dialogue} :
    Command.dialogue text ∈ script.onDisk ↔
      ∃ source,
        Command.dialogue source ∈ script ∧
          text = source.onDisk := by
  unfold onDisk
  rw [List.mem_map]
  constructor
  · rintro ⟨command, hCommand, hSame⟩
    cases command with
    | dialogue source =>
        cases hSame
        exact ⟨source, hCommand, rfl⟩
    | _ => simp [Command.onDisk, Command.mapText] at hSame
  · rintro ⟨source, hSource, rfl⟩
    exact ⟨_, hSource, rfl⟩

/-
  A script comes back as it is exactly when every character
  of its dialogues does.
-/
theorem onDisk_eq_self_iff (script : Script) :
    script.onDisk = script ↔
      ∀ text, Command.dialogue text ∈ script →
        ∀ line ∈ text.lines,
          ∀ c ∈ line, Width.diskChar c = c := by
  unfold onDisk
  rw [map_eq_self_iff]
  constructor
  · intro hSame text hText
    have hBox := hSame _ hText
    simp only [Command.onDisk, Command.mapText,
      Command.dialogue.injEq] at hBox
    exact (Dialogue.onDisk_eq_self_iff text).mp hBox
  · intro hChars command hCommand
    cases command with
    | dialogue text =>
        have hBox :=
          (Dialogue.onDisk_eq_self_iff text).mpr
            (hChars text hCommand)
        simp [Command.onDisk, Command.mapText, hBox]
    | _ => rfl

end Script

end SceneScript
