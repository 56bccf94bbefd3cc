import Mathlib.Data.List.Forall2
import SceneScript.Proofs.Boxes
import SceneScript.Proofs.Steps
import SceneScript.Proofs.Tables

/-
  The grammar of script files, and its agreement with the
  reader.

  Key definitions include:
    * `Word.IsMadeOf`
    * `IsSegment`
    * `Spells`

  Correctness is stated by:
    * `Reader.readCommand_eq_ok_iff`
    * `Reader.readAll_eq_ok_iff`
    * `Script.decode_eq_ok_iff_concatenation`

  The grammar is written in bytes, without a cursor.  One
  reading step takes exactly one segment, whatever follows
  it, and a run of steps is the concatenation of segments.
-/

namespace SceneScript

------------------------------------------------------------
-- Words
------------------------------------------------------------

namespace Word

/- Two bytes make up a word, the low one first. -/
def IsMadeOf
    (word : UInt16)
    (low high : UInt8) : Prop :=
  word.toNat = low.toNat + 256 * high.toNat

/- A word is stored as the bytes it is made of. -/
theorem bytes_of_isMadeOf
    {word : UInt16}
    {low high : UInt8}
    (hWord : IsMadeOf word low high) :
    bytes word = [low, high] := by
  rw [IsMadeOf] at hWord
  have hSame : word = ofBytes low high := by
    rw [ofBytes, ← hWord, UInt16.ofNat_toNat]
  rw [hSame, bytes_ofBytes]

/- A word is made of the bytes it is stored as. -/
theorem exists_isMadeOf (word : UInt16) :
    ∃ low high,
      bytes word = [low, high] ∧ IsMadeOf word low high := by
  have hWord := word.toNat_lt
  refine ⟨_, _, rfl, ?_⟩
  rw [IsMadeOf, UInt8.toNat_ofNat', UInt8.toNat_ofNat']
  omega

end Word

------------------------------------------------------------
-- Grammar
------------------------------------------------------------

/-
  The segments that stand for a command.  A dialogue refers
  to a line of the table, and a name to its code.
-/
inductive IsSegment
    (table : LineTable) : Command → List UInt8 → Prop where
  | dialogue
      {index : UInt16} {low high : UInt8} {line : Text}
      (hIndex : Word.IsMadeOf index low high)
      (hLine : table.toList[index.toNat]? = some line) :
      IsSegment table (.dialogue (.ofJoined line))
        [0x23, 0x00, low, high]
  | wait
      {hundredths : UInt16} {low high : UInt8}
      (hHundredths : Word.IsMadeOf hundredths low high) :
      IsSegment table (.wait hundredths)
        [0x23, 0x0F, low, high]
  | sound
      {code : UInt16} {low high : UInt8} {name : String}
      (hCode : Word.IsMadeOf code low high)
      (hName : (name, code) ∈ Catalog.sounds.entries) :
      IsSegment table (.sound name) [0x23, 0x13, low, high]
  | fadeIn {first second third fourth : UInt8} :
      IsSegment table (.fadeIn first second third fourth)
        [0x23, 0x15, first, second, third, fourth]
  | transition
      {unknown code low high : UInt8}
      {speed : Int16} {name : String}
      (hName : (name, code) ∈ Catalog.transitions.entries)
      (hSpeed : Word.IsMadeOf speed.toUInt16 low high) :
      IsSegment table (.transition unknown name speed)
        [0x23, 0x16, unknown, code, low, high]
  | background
      {unknown code : UInt8} {name : String}
      (hName : (name, code) ∈ Catalog.backgrounds.entries) :
      IsSegment table (.background unknown name)
        [0x23, 0x1B, unknown, code]
  | character
      {placement : Placement} {code : UInt16}
      {placeLow placeHigh low high : UInt8} {name : String}
      (hPlacement :
        Word.IsMadeOf placement.code placeLow placeHigh)
      (hCode : Word.IsMadeOf code low high)
      (hName : (name, code) ∈ Catalog.characters.entries) :
      IsSegment table (.character placement name)
        [0x23, 0x1C, placeLow, placeHigh, low, high]
  | finish : IsSegment table .finish [0x23, 0xFE]

/- A byte string is made of the segments of a script. -/
def Spells
    (table : LineTable)
    (script : Script)
    (bytes : List UInt8) : Prop :=
  ∃ segments : List (List UInt8),
    List.Forall₂ (IsSegment table) script segments ∧
      segments.flatten = bytes

------------------------------------------------------------
-- Payloads
------------------------------------------------------------

/- A step that may fail succeeds when both its parts do. -/
theorem bind_eq_ok_iff
    {ε α β : Type}
    {first : Except ε α}
    {next : α → Except ε β}
    {result : β} :
    (first >>= next) = .ok result ↔
      ∃ value, first = .ok value ∧ next value = .ok result := by
  cases first with
  | error error => simp [bind, Except.bind]
  | ok value => simp [bind, Except.bind]

/- A step that may fail fails when one of its parts does. -/
theorem bind_eq_error_iff
    {ε α β : Type}
    {first : Except ε α}
    {next : α → Except ε β}
    {error : ε} :
    (first >>= next) = .error error ↔
      first = .error error ∨
        ∃ value,
          first = .ok value ∧ next value = .error error := by
  cases first with
  | error other => simp [bind, Except.bind]
  | ok value => simp [bind, Except.bind]

/- A code is resolved to the name it is listed with. -/
theorem Catalog.resolve_eq_ok_iff
    {Code : Type}
    [DecidableEq Code]
    {catalog : Catalog Code}
    {widen : Code → UInt16}
    {offset : Nat}
    {code : Code}
    {name : String} :
    catalog.resolve widen offset code = .ok name ↔
      (name, code) ∈ catalog.entries := by
  rw [← Catalog.name?_eq_some_iff, Catalog.resolve]
  cases catalog.name? code <;> simp

namespace Payload

/- What a payload stands for is spelled by its segment. -/
theorem isSegment_of_resolve
    {table : LineTable}
    {offset : Nat}
    {payload : Payload}
    {command : Command}
    (hResolve :
      payload.resolve table.boxes offset = .ok command) :
    IsSegment table command (Segment.bytes payload) := by
  cases payload with
  | dialogue index =>
      rcases Word.exists_isMadeOf index with
        ⟨low, high, hBytes, hIndex⟩
      rw [resolve, LineTable.getElem?_boxes] at hResolve
      cases hLine : table.get? index.toNat with
      | none => simp [hLine] at hResolve
      | some line =>
          rw [hLine] at hResolve
          cases hResolve
          rw [LineTable.get?_eq_getElem?_toList] at hLine
          rw [Segment.bytes, Payload.bytes, hBytes]
          exact .dialogue hIndex hLine
  | wait hundredths =>
      rcases Word.exists_isMadeOf hundredths with
        ⟨low, high, hBytes, hHundredths⟩
      cases hResolve
      rw [Segment.bytes, Payload.bytes, hBytes]
      exact .wait hHundredths
  | sound code =>
      rcases Word.exists_isMadeOf code with
        ⟨low, high, hBytes, hCode⟩
      rcases bind_eq_ok_iff.mp hResolve with
        ⟨name, hName, hCommand⟩
      cases hCommand
      rw [Catalog.resolve_eq_ok_iff] at hName
      rw [Segment.bytes, Payload.bytes, hBytes]
      exact .sound hCode hName
  | fadeIn first second third fourth =>
      cases hResolve
      exact .fadeIn
  | transition unknown code speed =>
      rcases Word.exists_isMadeOf speed.toUInt16 with
        ⟨low, high, hBytes, hSpeed⟩
      rcases bind_eq_ok_iff.mp hResolve with
        ⟨name, hName, hCommand⟩
      cases hCommand
      rw [Catalog.resolve_eq_ok_iff] at hName
      rw [Segment.bytes, Payload.bytes, hBytes]
      exact .transition hName hSpeed
  | background unknown code =>
      rcases bind_eq_ok_iff.mp hResolve with
        ⟨name, hName, hCommand⟩
      cases hCommand
      rw [Catalog.resolve_eq_ok_iff] at hName
      exact .background hName
  | character placeCode code =>
      rcases Word.exists_isMadeOf placeCode with
        ⟨placeLow, placeHigh, hPlaceBytes, hPlaceCode⟩
      rcases Word.exists_isMadeOf code with
        ⟨low, high, hBytes, hCode⟩
      rcases bind_eq_ok_iff.mp hResolve with
        ⟨name, hName, hCommand⟩
      rw [Catalog.resolve_eq_ok_iff] at hName
      cases hPlacement : Placement.ofCode? placeCode with
      | none => simp [hPlacement] at hCommand
      | some placement =>
          rw [hPlacement] at hCommand
          cases hCommand
          rw [Placement.ofCode?_eq_some_iff] at hPlacement
          subst hPlacement
          rw [Segment.bytes, Payload.bytes, hPlaceBytes,
            hBytes]
          exact .character hPlaceCode hCode hName
  | finish =>
      cases hResolve
      exact .finish

end Payload

/-
  A segment of the grammar stores a payload that stands for
  the command.
-/
theorem IsSegment.exists_payload
    {table : LineTable}
    {command : Command}
    {segment : List UInt8}
    (hSegment : IsSegment table command segment)
    (offset : Nat) :
    ∃ payload : Payload,
      segment = Segment.bytes payload ∧
        payload.resolve table.boxes offset =
          .ok command := by
  cases hSegment with
  | @dialogue index low high line hIndex hLine =>
      refine ⟨.dialogue index, ?_, ?_⟩
      · rw [Segment.bytes, Payload.bytes,
          Word.bytes_of_isMadeOf hIndex]
        rfl
      · rw [← LineTable.get?_eq_getElem?_toList] at hLine
        simp [Payload.resolve, hLine]
  | @wait hundredths low high hHundredths =>
      refine ⟨.wait hundredths, ?_, rfl⟩
      rw [Segment.bytes, Payload.bytes,
        Word.bytes_of_isMadeOf hHundredths]
      rfl
  | @sound code low high name hCode hName =>
      refine ⟨.sound code, ?_, ?_⟩
      · rw [Segment.bytes, Payload.bytes,
          Word.bytes_of_isMadeOf hCode]
        rfl
      · rw [Payload.resolve,
          Catalog.resolve_eq_ok_iff.mpr hName]
        rfl
  | @fadeIn first second third fourth =>
      exact ⟨.fadeIn first second third fourth, rfl, rfl⟩
  | @transition unknown code low high speed name hName
      hSpeed =>
      refine ⟨.transition unknown code speed, ?_, ?_⟩
      · rw [Segment.bytes, Payload.bytes,
          Word.bytes_of_isMadeOf hSpeed]
        rfl
      · rw [Payload.resolve,
          Catalog.resolve_eq_ok_iff.mpr hName]
        rfl
  | @background unknown code name hName =>
      refine ⟨.background unknown code, rfl, ?_⟩
      rw [Payload.resolve,
        Catalog.resolve_eq_ok_iff.mpr hName]
      rfl
  | @character placement code placeLow placeHigh low high
      name hPlacement hCode hName =>
      refine ⟨.character placement.code code, ?_, ?_⟩
      · rw [Segment.bytes, Payload.bytes,
          Word.bytes_of_isMadeOf hPlacement,
          Word.bytes_of_isMadeOf hCode]
        rfl
      · rw [Payload.resolve,
          Catalog.resolve_eq_ok_iff.mpr hName]
        simp [bind, Except.bind,
          Placement.ofCode?_code, pure, Except.pure]
  | finish => exact ⟨.finish, rfl, rfl⟩

------------------------------------------------------------
-- Reading Steps
------------------------------------------------------------

namespace Reader

/-
  A step succeeds only over a stored payload, which it
  resolves.
-/
theorem exists_payload_of_readCommand
    {boxes : Array Dialogue}
    {start next : Cursor}
    {command : Command}
    (hRead :
      readCommand boxes start = (.ok command, next)) :
    ∃ payload : Payload,
      start.rest = Segment.bytes payload ++ next.rest ∧
        payload.resolve boxes start.offset =
          .ok command := by
  obtain ⟨bytes, offset⟩ := start
  cases Segment.start bytes with
  | nothing => cases hRead
  | unmarked hMarker rest =>
      rw [readCommand_unmarked boxes rest offset hMarker]
        at hRead
      cases hRead
  | markerOnly => cases hRead
  | unlisted hByte rest =>
      rw [readCommand_unlisted boxes rest offset hByte]
        at hRead
      cases hRead
  | cutOff hShort =>
      rw [readCommand_cutOff boxes offset hShort] at hRead
      cases hRead
  | whole payload rest =>
      rw [readCommand_bytes, Prod.mk.injEq] at hRead
      rcases hRead with ⟨hResolve, rfl⟩
      exact ⟨payload, rfl, hResolve⟩

/- A step succeeds exactly on the segments of its command. -/
theorem readCommand_eq_ok_iff
    {table : LineTable}
    {start next : Cursor}
    {command : Command} :
    readCommand table.boxes start = (.ok command, next) ↔
      ∃ segment,
        IsSegment table command segment ∧
          start.rest = segment ++ next.rest ∧
          next.offset = start.offset + segment.length := by
  constructor
  · intro hRead
    rcases exists_payload_of_readCommand hRead with
      ⟨payload, hRest, hResolve⟩
    have hStart :
        start =
          { rest := Segment.bytes payload ++ next.rest
            offset := start.offset } := by
      rw [← hRest]
    rw [hStart, readCommand_bytes] at hRead
    refine
      ⟨Segment.bytes payload,
        Payload.isSegment_of_resolve hResolve, hRest, ?_⟩
    rw [Segment.length_bytes]
    exact (congrArg (·.2.offset) hRead).symm
  · rintro ⟨segment, hSegment, hRest, hOffset⟩
    rcases hSegment.exists_payload start.offset with
      ⟨payload, hBytes, hResolve⟩
    obtain ⟨bytes, offset⟩ := start
    obtain ⟨nextBytes, nextOffset⟩ := next
    simp only at hRest hOffset hResolve
    rw [hRest, hBytes, readCommand_bytes, hResolve, hOffset,
      hBytes, Segment.length_bytes]

end Reader

/- No segment is empty. -/
theorem IsSegment.ne_nil
    {table : LineTable}
    {command : Command}
    {segment : List UInt8}
    (hSegment : IsSegment table command segment) :
    segment ≠ [] := by
  cases hSegment <;> simp

/-
  A byte string starts with at most one segment.  A step from
  its front would otherwise end in two places.
-/
theorem IsSegment.unique
    {table : LineTable}
    {command other : Command}
    {segment otherSegment rest otherRest : List UInt8}
    (hSegment : IsSegment table command segment)
    (hOther : IsSegment table other otherSegment)
    (hSame : segment ++ rest = otherSegment ++ otherRest) :
    command = other ∧
      segment = otherSegment ∧ rest = otherRest := by
  have hRead :
      Reader.readCommand table.boxes
          (Cursor.start (segment ++ rest)) =
        (.ok command,
          { rest, offset := 0 + segment.length }) :=
    Reader.readCommand_eq_ok_iff.mpr
      ⟨segment, hSegment, rfl, rfl⟩
  have hReadOther :
      Reader.readCommand table.boxes
          (Cursor.start (segment ++ rest)) =
        (.ok other,
          { rest := otherRest
            offset := 0 + otherSegment.length }) :=
    Reader.readCommand_eq_ok_iff.mpr
      ⟨otherSegment, hOther, hSame, rfl⟩
  rw [hRead] at hReadOther
  simp only [Prod.mk.injEq, Except.ok.injEq,
    Cursor.mk.injEq] at hReadOther
  rcases hReadOther with ⟨hCommand, hRest, _⟩
  subst hRest
  exact ⟨hCommand, List.append_cancel_right hSame, rfl⟩

/-
  A segment keeps its bytes when the lines of its table change
  in place.  Only the text of a dialogue changes with them.
-/
theorem IsSegment.relocate
    {table other : LineTable}
    {f : Text → Text}
    {g : Dialogue → Dialogue}
    (hBox :
      ∀ line : Text,
        Dialogue.ofJoined (f line) =
          g (Dialogue.ofJoined line))
    (hLines :
      ∀ (index : Nat) (line : Text),
        table.toList[index]? = some line →
          other.toList[index]? = some (f line))
    {command : Command}
    {segment : List UInt8}
    (hSegment : IsSegment table command segment) :
    IsSegment other (command.mapText g) segment := by
  cases hSegment with
  | dialogue hIndex hLine =>
      rw [Command.mapText, ← hBox]
      exact .dialogue hIndex (hLines _ _ hLine)
  | wait hHundredths => exact .wait hHundredths
  | sound hCode hName => exact .sound hCode hName
  | fadeIn => exact .fadeIn
  | transition hName hSpeed =>
      exact .transition hName hSpeed
  | background hName => exact .background hName
  | character hPlacement hCode hName =>
      exact .character hPlacement hCode hName
  | finish => exact .finish

/- A segment means the same when its table has grown. -/
theorem IsSegment.mono
    {table grown : LineTable}
    (hGrown : table.toList <+: grown.toList)
    {command : Command}
    {segment : List UInt8}
    (hSegment : IsSegment table command segment) :
    IsSegment grown command segment := by
  have hRelocated :
      IsSegment grown (command.mapText id) segment := by
    refine
      hSegment.relocate (f := id) (fun _ => rfl) ?_
    intro index line hLine
    rcases hGrown with ⟨later, hLater⟩
    have hInside : index < table.toList.length :=
      (List.getElem?_eq_some_iff.mp hLine).1
    rw [← hLater, List.getElem?_append_left hInside]
    exact hLine
  rwa [Command.mapText_id] at hRelocated

------------------------------------------------------------
-- Whole Scripts
------------------------------------------------------------

namespace Spells

/- The script without commands is spelled without bytes. -/
theorem nil_iff
    {table : LineTable}
    {bytes : List UInt8} :
    Spells table [] bytes ↔ bytes = [] := by
  constructor
  · rintro ⟨segments, hSegments, rfl⟩
    cases hSegments
    rfl
  · rintro rfl
    exact ⟨[], .nil, rfl⟩

/- A script is spelled by its first segment and the others. -/
theorem cons_iff
    {table : LineTable}
    {command : Command}
    {script : Script}
    {bytes : List UInt8} :
    Spells table (command :: script) bytes ↔
      ∃ segment rest,
        IsSegment table command segment ∧
          Spells table script rest ∧
          bytes = segment ++ rest := by
  constructor
  · rintro ⟨segments, hSegments, rfl⟩
    cases hSegments with
    | @cons _ segment _ later hFirst hLater =>
        exact
          ⟨segment, later.flatten, hFirst,
            ⟨later, hLater, rfl⟩, List.flatten_cons⟩
  · rintro ⟨segment, rest, hFirst, hScript, rfl⟩
    rcases hScript with ⟨later, hLater, rfl⟩
    exact
      ⟨segment :: later, .cons hFirst hLater,
        List.flatten_cons⟩

/-
  A script keeps its bytes when the lines of its table change
  in place.
-/
theorem relocate
    {table other : LineTable}
    {f : Text → Text}
    {g : Dialogue → Dialogue}
    (hBox :
      ∀ line : Text,
        Dialogue.ofJoined (f line) =
          g (Dialogue.ofJoined line))
    (hLines :
      ∀ (index : Nat) (line : Text),
        table.toList[index]? = some line →
          other.toList[index]? = some (f line))
    {script : Script}
    {bytes : List UInt8}
    (hSpells : Spells table script bytes) :
    Spells other (script.map (Command.mapText g)) bytes := by
  rcases hSpells with ⟨segments, hSegments, hBytes⟩
  refine ⟨segments, ?_, hBytes⟩
  rw [List.forall₂_map_left_iff]
  exact hSegments.imp fun _ _ => .relocate hBox hLines

/- Only the script without commands has no bytes. -/
theorem eq_nil
    {table : LineTable}
    {script : Script}
    (hSpells : Spells table script []) :
    script = [] := by
  cases script with
  | nil => rfl
  | cons command later =>
      rcases cons_iff.mp hSpells with
        ⟨segment, rest, hSegment, _, hNil⟩
      have hBoth := List.append_eq_nil_iff.mp hNil.symm
      exact (hSegment.ne_nil hBoth.1).elim

end Spells

/-
  A byte string is cut into segments in at most one way, and
  the segments stand for at most one script.
-/
theorem eq_of_forall₂_isSegment
    {table : LineTable}
    {script other : Script}
    {segments otherSegments : List (List UInt8)}
    (hSegments :
      List.Forall₂ (IsSegment table) script segments)
    (hOther :
      List.Forall₂ (IsSegment table) other otherSegments)
    (hSame : segments.flatten = otherSegments.flatten) :
    script = other ∧ segments = otherSegments := by
  induction hSegments generalizing other otherSegments with
  | nil =>
      cases hOther with
      | nil => exact ⟨rfl, rfl⟩
      | cons hFirst _ =>
          rw [List.flatten_nil, List.flatten_cons] at hSame
          have hBoth := List.append_eq_nil_iff.mp hSame.symm
          exact (hFirst.ne_nil hBoth.1).elim
  | cons hFirst _ ih =>
      cases hOther with
      | nil =>
          rw [List.flatten_nil, List.flatten_cons] at hSame
          have hBoth := List.append_eq_nil_iff.mp hSame
          exact (hFirst.ne_nil hBoth.1).elim
      | cons hOtherFirst hOtherLater =>
          rw [List.flatten_cons, List.flatten_cons] at hSame
          rcases hFirst.unique hOtherFirst hSame with
            ⟨hCommand, hSegment, hRest⟩
          rcases ih hOtherLater hRest with
            ⟨hScript, hLater⟩
          exact
            ⟨by rw [hCommand, hScript],
              by rw [hSegment, hLater]⟩

namespace Reader

/- Where bytes are left, a script is spelled step by step. -/
theorem spells_iff_step
    {table : LineTable}
    {cursor : Cursor}
    {script : Script}
    (hRest : cursor.rest ≠ []) :
    Spells table script cursor.rest ↔
      ∃ command later,
        script = command :: later ∧
          (readCommand table.boxes cursor).1 =
            .ok command ∧
          Spells table later
            (readCommand table.boxes cursor).2.rest := by
  constructor
  · intro hSpells
    cases script with
    | nil => exact (hRest (Spells.nil_iff.mp hSpells)).elim
    | cons command later =>
        rcases Spells.cons_iff.mp hSpells with
          ⟨segment, rest, hSegment, hLater, hBytes⟩
        have hStep :
            readCommand table.boxes cursor =
              (.ok command,
                { rest
                  offset :=
                    cursor.offset + segment.length }) :=
          readCommand_eq_ok_iff.mpr
            ⟨segment, hSegment, hBytes, rfl⟩
        refine ⟨command, later, rfl, ?_, ?_⟩
        · rw [hStep]
        · rw [hStep]
          exact hLater
  · rintro ⟨command, later, rfl, hCommand, hLater⟩
    have hStep :
        readCommand table.boxes cursor =
          (.ok command,
            (readCommand table.boxes cursor).2) :=
      Prod.ext hCommand rfl
    rcases readCommand_eq_ok_iff.mp hStep with
      ⟨segment, hSegment, hBytes, _⟩
    exact
      Spells.cons_iff.mpr
        ⟨segment, _, hSegment, hLater, hBytes⟩

/- A run of steps accepts exactly what a script spells. -/
theorem readAll_eq_ok_iff
    (table : LineTable)
    (cursor : Cursor)
    (script : Script) :
    readAll table.boxes cursor = .ok script ↔
      Spells table script cursor.rest := by
  fun_induction readAll table.boxes cursor
    generalizing script with
  | case1 cursor hRest =>
      rw [hRest]
      constructor
      · rintro ⟨⟩
        exact Spells.nil_iff.mpr rfl
      · intro hSpells
        rw [hSpells.eq_nil]
  | case2 cursor hRest step error hStep =>
      have hFailed :
          (readCommand table.boxes cursor).1 =
            .error error :=
        hStep
      rw [spells_iff_step hRest, hFailed]
      simp
  | case3 cursor hRest step command hStep error hLater ih =>
      have hCommand :
          (readCommand table.boxes cursor).1 = .ok command :=
        hStep
      rw [spells_iff_step hRest, hCommand]
      simp only [reduceCtorEq, false_iff]
      rintro ⟨_, later, _, _, hSpells⟩
      have hRead := (ih later).mpr hSpells
      simp [hLater] at hRead
  | case4 cursor hRest step command hStep later hLater ih =>
      have hCommand :
          (readCommand table.boxes cursor).1 = .ok command :=
        hStep
      rw [spells_iff_step hRest, hCommand]
      constructor
      · rintro ⟨⟩
        exact ⟨command, later, rfl, rfl, (ih later).mp hLater⟩
      · rintro ⟨_, other, rfl, ⟨⟩, hSpells⟩
        have hRead := (ih other).mpr hSpells
        rw [hLater] at hRead
        cases hRead
        rfl

/- A reader that did not fail reads all that is left. -/
theorem readToEnd_of_not_failed
    {reader : Reader}
    (hGoesOn : reader.failed = false)
    (requireEnd : Bool) :
    reader.readToEnd requireEnd =
      match readAll reader.boxes reader.cursor with
      | .error error => .error error
      | .ok script =>
          if requireEnd && !script.isTerminated then
            .error .missingEnd
          else
            .ok script := by
  rw [readToEnd, hGoesOn]
  cases readAll reader.boxes reader.cursor with
  | error error => rfl
  | ok script =>
      cases hEnd : requireEnd && !script.isTerminated <;>
        simp [bind, Except.bind, pure, Except.pure, hEnd,
          throw, throwThe, MonadExceptOf.throw]

end Reader

namespace Script

/- Decoding runs from the front of the byte string. -/
theorem decode_eq
    (bytes : List UInt8)
    (table : LineTable)
    (requireEnd : Bool) :
    decode bytes table requireEnd =
      match Reader.readAll table.boxes (Cursor.start bytes) with
      | .error error => .error error
      | .ok script =>
          if requireEnd && !isTerminated script then
            .error .missingEnd
          else
            .ok script := by
  exact Reader.readToEnd_of_not_failed rfl requireEnd

/-
  Without a demand for an end, decoding accepts exactly what
  a script spells.
-/
theorem decode_eq_ok_iff_spells
    {bytes : List UInt8}
    {table : LineTable}
    {script : Script} :
    decode bytes table false = .ok script ↔
      Spells table script bytes := by
  have hRead :=
    Reader.readAll_eq_ok_iff table (Cursor.start bytes)
      script
  rw [decode_eq]
  refine Iff.trans ?_ hRead
  cases Reader.readAll table.boxes (Cursor.start bytes) <;>
    simp

/- What is decoded is spelled by the script, end or not. -/
theorem spells_of_decode
    {bytes : List UInt8}
    {table : LineTable}
    {requireEnd : Bool}
    {script : Script}
    (hDecode : decode bytes table requireEnd = .ok script) :
    Spells table script bytes := by
  have hRead :
      Reader.readAll table.boxes (Cursor.start bytes) =
        .ok script := by
    rw [decode_eq] at hDecode
    split at hDecode
    · simp at hDecode
    · rename_i read hRead
      split at hDecode
      · simp at hDecode
      · rw [hRead, hDecode]
  exact
    (Reader.readAll_eq_ok_iff table (Cursor.start bytes)
      script).mp hRead

/- What a script spells is decoded, up to the demand made. -/
theorem decode_of_spells
    {bytes : List UInt8}
    {table : LineTable}
    {script : Script}
    (hSpells : Spells table script bytes)
    (requireEnd : Bool) :
    decode bytes table requireEnd =
      if requireEnd && !isTerminated script then
        .error .missingEnd
      else
        .ok script := by
  have hRead :
      Reader.readAll table.boxes (Cursor.start bytes) =
        .ok script :=
    (Reader.readAll_eq_ok_iff table (Cursor.start bytes)
      script).mpr hSpells
  rw [decode_eq, hRead]

/-
  The reader accepts a byte string exactly when it is the
  concatenation of one segment for each command, and there is
  at most one way to cut it so.
-/
theorem decode_eq_ok_iff_concatenation
    (bytes : List UInt8)
    (table : LineTable) :
    (∀ script : Script,
      decode bytes table false = .ok script ↔
        ∃ segments : List (List UInt8),
          List.Forall₂ (IsSegment table) script segments ∧
            segments.flatten = bytes) ∧
      ∀ (script other : Script)
        (segments otherSegments : List (List UInt8)),
        List.Forall₂ (IsSegment table) script segments →
          segments.flatten = bytes →
            List.Forall₂ (IsSegment table) other
                otherSegments →
              otherSegments.flatten = bytes →
                script = other ∧ segments = otherSegments := by
  constructor
  · intro script
    exact decode_eq_ok_iff_spells
  · intro script other segments otherSegments
      hScript hBytes hOther hOtherBytes
    exact
      eq_of_forall₂_isSegment hScript hOther
        (hBytes.trans hOtherBytes.symm)

/-
  A dialogue of the second line, a flipped character and an
  end, read off their segments.  No other cut is possible.
-/
theorem decode_three_segments :
    ∃ (bytes : List UInt8) (table : LineTable),
      bytes =
          [0x23, 0x00, 0x01, 0x00,
            0x23, 0x1C, 0x01, 0x01, 0x0A, 0x00,
            0x23, 0xFE] ∧
        table = .ofList [['a'], ['b', '↓', 'c']] ∧
        decode bytes table false =
          .ok
            [.dialogue (.ofJoined ['b', '↓', 'c']),
              .character ⟨.left, .left⟩ "Kuromi (Talking)",
              .finish] ∧
        ∀ (other : Script) (segments : List (List UInt8)),
          List.Forall₂ (IsSegment table) other segments →
            segments.flatten = bytes →
              segments.map List.length = [4, 6, 2] := by
  have hIndex : Word.IsMadeOf 1 0x01 0x00 := rfl
  have hPlacement :
      Word.IsMadeOf (Placement.mk .left .left).code
        0x01 0x01 :=
    rfl
  have hCode : Word.IsMadeOf 0x000A 0x0A 0x00 := rfl
  let table : LineTable := .ofList [['a'], ['b', '↓', 'c']]
  have hLine :
      table.toList[(1 : UInt16).toNat]? =
        some ['b', '↓', 'c'] := by
    rw [LineTable.toList_ofList]
    rfl
  have hSegments :
      List.Forall₂ (IsSegment table)
        [.dialogue (.ofJoined ['b', '↓', 'c']),
          .character ⟨.left, .left⟩ "Kuromi (Talking)",
          .finish]
        [[0x23, 0x00, 0x01, 0x00],
          [0x23, 0x1C, 0x01, 0x01, 0x0A, 0x00],
          [0x23, 0xFE]] :=
    .cons (.dialogue hIndex hLine)
      (.cons (.character hPlacement hCode (by decide))
        (.cons .finish .nil))
  refine ⟨_, table, rfl, rfl, ?_, ?_⟩
  · exact
      ((decode_eq_ok_iff_concatenation _ _).1 _).mpr
        ⟨_, hSegments, rfl⟩
  · intro other segments hOther hBytes
    have hSame :=
      (decode_eq_ok_iff_concatenation _ _).2 _ _ _ _
        hOther hBytes hSegments rfl
    rw [hSame.2]
    rfl

end Script

end SceneScript
