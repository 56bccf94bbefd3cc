import SceneScript.Proofs.Boxes
import SceneScript.Proofs.Grammar
import SceneScript.Proofs.Numerals

/-
  Captions tell commands apart, except for the bytes that
  they do not show.

  Key definitions include:
    * `Command.shown`
    * `Opcode.initials`

  Correctness is stated by:
    * `Command.take_caption`
    * `Command.caption_eq_iff`
    * `IsSegment.exists_line_of_lf_mem_caption`

  The first three characters of a caption belong to one
  opcode only.  A name may hold any character, but what
  follows it has no apostrophe, so the last one ends the name.
-/

namespace SceneScript

------------------------------------------------------------
-- Last Occurrences
------------------------------------------------------------

/-
  A list is cut in one way only at the last occurrence of an
  item.
-/
theorem append_cons_inj_of_last
    {α : Type}
    {item : α}
    {front back front' back' : List α}
    (hBack : item ∉ back)
    (hBack' : item ∉ back')
    (hSame : front ++ item :: back = front' ++ item :: back') :
    front = front' ∧ back = back' := by
  rcases List.append_eq_append_iff.mp hSame with
    ⟨between, hFront, hRest⟩ | ⟨between, hFront, hRest⟩
  · cases between with
    | nil => exact ⟨by simp [hFront], (List.cons.inj hRest).2⟩
    | cons _ later =>
        refine (hBack ?_).elim
        rw [(List.cons.inj hRest).2]
        simp
  · cases between with
    | nil =>
        exact ⟨by simp [hFront], (List.cons.inj hRest).2.symm⟩
    | cons _ later =>
        refine (hBack' ?_).elim
        rw [(List.cons.inj hRest).2]
        simp

------------------------------------------------------------
-- Parts of Captions
------------------------------------------------------------

/- The characters that captions of an opcode start with. -/
def Opcode.initials : Opcode → Text
| dialogue => ['D', 'i', 'a']
| wait => ['W', 'a', 'i']
| sound => ['P', 'l', 'a']
| fadeIn => ['F', 'a', 'd']
| transition => ['T', 'r', 'a']
| background => ['D', 'i', 's']
| character => ['S', 'h', 'o']
| finish => ['E', 'n', 'd']

/- Different opcodes have different initials. -/
theorem Opcode.initials_injective
    {opcode other : Opcode}
    (hInitials : opcode.initials = other.initials) :
    opcode = other := by
  cases opcode <;> cases other <;>
    first | rfl | cases hInitials

/- Placements are told apart by their words. -/
theorem Placement.caption_injective
    {placement other : Placement}
    (hCaption : placement.caption = other.caption) :
    placement = other := by
  obtain ⟨side, facing⟩ := placement
  obtain ⟨side', facing'⟩ := other
  revert hCaption
  cases side <;> cases facing <;> cases side' <;>
    cases facing' <;> decide +kernel

/- The words of a placement have no apostrophe or LF. -/
theorem Placement.not_mem_caption (placement : Placement) :
    '\'' ∉ placement.caption.toList ∧
      '\n' ∉ placement.caption.toList := by
  obtain ⟨side, facing⟩ := placement
  cases side <;> cases facing <;> decide +kernel

/- An LF in a name is one of the bytes of the name. -/
theorem lf_mem_bytes_of_mem_toList
    {name : String}
    (hLf : '\n' ∈ name.toList) :
    0x0A ∈ name.toByteArray.data.toList := by
  rw [← String.ofList_toList (s := name),
    String.toByteArray_ofList, List.utf8Encode,
    List.data_toByteArray]
  exact List.mem_flatMap.mpr ⟨'\n', hLf, by decide⟩

/- No listed name has an LF. -/
theorem SymbolKind.lf_not_mem_name
    (kind : SymbolKind)
    {name : String}
    (hName : name ∈ kind.names) :
    '\n' ∉ name.toList := by
  have hBytes :
      ∀ name ∈ kind.names,
        0x0A ∉ name.toByteArray.data.toList := by
    cases kind <;> decide +kernel
  intro hLf
  exact hBytes name hName (lf_mem_bytes_of_mem_toList hLf)

/- A text of digits and one other character has no LF. -/
theorem Numeral.lf_not_mem
    {text : Text}
    {other : Char}
    (hOther : other ≠ '\n')
    (hText : ∀ c ∈ text, c = other ∨ c.isDigit = true) :
    '\n' ∉ text := by
  intro hMem
  rcases hText _ hMem with hSame | hDigit
  · exact hOther hSame.symm
  · exact absurd hDigit (by decide)

namespace Command

/- A name with words in front and an apostrophe behind. -/
theorem toList_apostrophe (words name : String) :
    (words ++ name ++ "'").toList =
      words.toList ++ (name.toList ++ ['\'']) := by
  rw [String.toList_append, String.toList_append,
    List.append_assoc]
  rfl

/- The caption of a sound has its name in apostrophes. -/
theorem caption_sound (name : String) :
    (sound name).caption =
      "Play sound '".toList ++ (name.toList ++ ['\'']) :=
  toList_apostrophe _ name

/- The caption of a wipe has its name and its speed. -/
theorem caption_transition
    (unknown : UInt8)
    (name : String)
    (speed : Int16) :
    (transition unknown name speed).caption =
      "Transition '".toList ++
        (name.toList ++
          '\'' ::
            (" at speed ".toList ++
              Numeral.signedDecimal speed.toInt)) := by
  change
    ("Transition '" ++ name ++ "' at speed ").toList ++ _ = _
  rw [String.toList_append, String.toList_append,
    List.append_assoc, List.append_assoc]
  rfl

/- The caption of a picture has its name in apostrophes. -/
theorem caption_background
    (unknown : UInt8)
    (name : String) :
    (background unknown name).caption =
      "Display Background '".toList ++
        (name.toList ++ ['\'']) :=
  toList_apostrophe _ name

/- The caption of a character has its name and its place. -/
theorem caption_character
    (placement : Placement)
    (name : String) :
    (character placement name).caption =
      "Show character '".toList ++
        (name.toList ++
          '\'' ::
            (" at '".toList ++
              (placement.caption.toList ++ ['\'']))) := by
  change
    ("Show character '" ++ name ++ "' at '" ++
      placement.caption ++ "'").toList = _
  simp only [String.toList_append, List.append_assoc]
  rfl

------------------------------------------------------------
-- Captions
------------------------------------------------------------

/- The command as far as its caption shows it. -/
def shown : Command → Command
| fadeIn _ _ _ _ => fadeIn 0 0 0 0
| transition _ name speed => transition 0 name speed
| background _ name => background 0 name
| command => command

/- What is not shown does not change the caption. -/
@[simp]
theorem caption_shown (command : Command) :
    command.shown.caption = command.caption := by
  cases command <;> rfl

/- A caption starts with the initials of its opcode. -/
theorem take_caption (command : Command) :
    command.caption.take 3 = command.opcode.initials := by
  cases command with
  | sound name =>
      rw [caption_sound]
      rfl
  | transition unknown name speed =>
      rw [caption_transition]
      rfl
  | background unknown name =>
      rw [caption_background]
      rfl
  | character placement name =>
      rw [caption_character]
      rfl
  | _ => rfl

/- Commands with the same caption have the same opcode. -/
theorem opcode_eq_of_caption_eq
    {left right : Command}
    (hCaption : left.caption = right.caption) :
    left.opcode = right.opcode := by
  apply Opcode.initials_injective
  rw [← take_caption, ← take_caption, hCaption]

/- A name and a speed are read off the caption of a wipe. -/
theorem eq_of_caption_transition
    {unknown unknown' : UInt8}
    {name name' : String}
    {speed speed' : Int16}
    (hCaption :
      (transition unknown name speed).caption =
        (transition unknown' name' speed').caption) :
    name = name' ∧ speed = speed' := by
  rw [caption_transition, caption_transition] at hCaption
  have hFree :
      ∀ n : Int,
        '\'' ∉ " at speed ".toList ++
          Numeral.signedDecimal n := by
    intro n hMem
    rcases List.mem_append.mp hMem with hWord | hNumber
    · exact absurd hWord (by decide +kernel)
    · rcases Numeral.mem_signedDecimal hNumber with
        hSign | hDigit
      · exact absurd hSign (by decide)
      · exact absurd hDigit (by decide)
  rcases append_cons_inj_of_last (hFree _) (hFree _)
      (List.append_cancel_left hCaption) with
    ⟨hName, hSpeed⟩
  exact
    ⟨String.toList_injective hName,
      Int16.toInt_inj.mp
        (Numeral.signedDecimal_injective
          (List.append_cancel_left hSpeed))⟩

/- A name and a place are read off a character's caption. -/
theorem eq_of_caption_character
    {placement placement' : Placement}
    {name name' : String}
    (hCaption :
      (character placement name).caption =
        (character placement' name').caption) :
    placement = placement' ∧ name = name' := by
  rw [caption_character, caption_character] at hCaption
  -- The last apostrophe ends the place.  Without it, the last
  -- one stands in front of the place.
  have hFull (place : Placement) (name : String) :
      name.toList ++
          '\'' ::
            (" at '".toList ++
              (place.caption.toList ++ ['\''])) =
        (name.toList ++ "' at ".toList) ++
            '\'' :: place.caption.toList ++ ['\''] := by
    simp
  rw [hFull, hFull] at hCaption
  have hShort :=
    List.append_cancel_right (List.append_cancel_left hCaption)
  rcases append_cons_inj_of_last
      placement.not_mem_caption.1 placement'.not_mem_caption.1
      hShort with
    ⟨hName, hPlace⟩
  exact
    ⟨Placement.caption_injective
        (String.toList_injective hPlace),
      String.toList_injective
        (List.append_cancel_right hName)⟩

/-
  Two captions are equal exactly when the commands are equal
  as far as their captions show them.
-/
theorem caption_eq_iff {left right : Command} :
    left.caption = right.caption ↔
      left.shown = right.shown := by
  constructor
  · intro hCaption
    have hOpcode := opcode_eq_of_caption_eq hCaption
    cases left with
    | dialogue text =>
        cases right with
        | dialogue other =>
            rw [Dialogue.joined_injective
              (List.append_cancel_left hCaption)]
        | _ => cases hOpcode
    | wait hundredths =>
        cases right with
        | wait other =>
            have hNumber :=
              List.append_cancel_left
                (List.append_cancel_right hCaption)
            rw [UInt16.toNat_inj.mp
              (Numeral.hundredths_injective hNumber)]
        | _ => cases hOpcode
    | sound name =>
        cases right with
        | sound other =>
            rw [caption_sound, caption_sound] at hCaption
            rw [String.toList_injective
              (List.append_cancel_right
                (List.append_cancel_left hCaption))]
        | _ => cases hOpcode
    | fadeIn =>
        cases right with
        | fadeIn => rfl
        | _ => cases hOpcode
    | transition unknown name speed =>
        cases right with
        | transition unknown' name' speed' =>
            rcases eq_of_caption_transition hCaption with
              ⟨rfl, rfl⟩
            rfl
        | _ => cases hOpcode
    | background unknown name =>
        cases right with
        | background unknown' name' =>
            rw [caption_background, caption_background]
              at hCaption
            have hName : name = name' :=
              String.toList_injective
                (List.append_cancel_right
                  (List.append_cancel_left hCaption))
            rw [hName]
            rfl
        | _ => cases hOpcode
    | character placement name =>
        cases right with
        | character placement' name' =>
            rcases eq_of_caption_character hCaption with
              ⟨rfl, rfl⟩
            rfl
        | _ => cases hOpcode
    | finish =>
        cases right with
        | finish => rfl
        | _ => cases hOpcode
  · intro hShown
    rw [← caption_shown left, hShown, caption_shown]

end Command

------------------------------------------------------------
-- Line Feeds
------------------------------------------------------------

/-
  The caption of a command that was read has an LF only if it
  is a dialogue with an LF in one of its lines.
-/
theorem IsSegment.exists_line_of_lf_mem_caption
    {table : LineTable}
    {command : Command}
    {bytes : List UInt8}
    (hSegment : IsSegment table command bytes)
    (hLf : '\n' ∈ command.caption) :
    ∃ text,
      command = .dialogue text ∧
        ∃ line ∈ text.lines, '\n' ∈ line := by
  cases hSegment with
  | dialogue hIndex hLine =>
      refine ⟨_, rfl, ?_⟩
      rcases List.mem_append.mp hLf with hWord | hText
      · exact absurd hWord (by decide +kernel)
      · exact
          (Text.mem_joinWith_iff (by decide) _).mp hText
  | @wait hundredths low high hHundredths =>
      have hNumber :=
        Numeral.lf_not_mem (by decide) fun _ =>
          Numeral.mem_hundredths (n := hundredths.toNat)
      rcases List.mem_append.mp hLf with hFront | hWord
      · rcases List.mem_append.mp hFront with hWord | hMem
        · exact absurd hWord (by decide +kernel)
        · exact (hNumber hMem).elim
      · exact absurd hWord (by decide +kernel)
  | sound hCode hName =>
      have hFree :=
        SymbolKind.lf_not_mem_name .sound
          (List.mem_map_of_mem hName)
      rw [Command.caption_sound] at hLf
      simp [hFree] at hLf
  | fadeIn =>
      have hWord : '\n' ∈ "Fade in".toList := hLf
      exact absurd hWord (by decide +kernel)
  | @transition unknown code low high speed name hName hSpeed =>
      have hFree :=
        SymbolKind.lf_not_mem_name .transition
          (List.mem_map_of_mem hName)
      have hNumber :=
        Numeral.lf_not_mem (by decide) fun _ =>
          Numeral.mem_signedDecimal (n := speed.toInt)
      rw [Command.caption_transition] at hLf
      simp [hFree, hNumber] at hLf
  | background hName =>
      have hFree :=
        SymbolKind.lf_not_mem_name .background
          (List.mem_map_of_mem hName)
      rw [Command.caption_background] at hLf
      simp [hFree] at hLf
  | @character placement _ _ _ _ _ name hPlacement hCode
      hName =>
      have hFree :=
        SymbolKind.lf_not_mem_name .character
          (List.mem_map_of_mem hName)
      have hPlace := placement.not_mem_caption.2
      rw [Command.caption_character] at hLf
      simp [hFree, hPlace] at hLf
  | finish => exact absurd hLf (by decide +kernel)

end SceneScript
