import SceneScript.Proofs.Fronts
import SceneScript.Proofs.Renumbering

/-
  Which scripts can be encoded, and to what.

  Key definitions include:
    * `Command.symbol?`
    * `Command.IsNamed`
    * `Command.Fails`
    * `Script.IsEncodable`

  Correctness is stated by:
    * `Command.store_eq_error_iff`
    * `Script.tracks_of_encode`
    * `Script.exists_encode_iff`
    * `Script.encode_eq_error_iff`
    * `Script.encode_outcome`

  A script is judged as a whole by its names and by how many
  texts it has, whatever their order.  The order decides only
  which command is blamed, and it is the first one that makes
  the commands up to it too much.
-/

namespace SceneScript

------------------------------------------------------------
-- Names
------------------------------------------------------------

/- Looking up fails for the names that are not listed. -/
theorem Catalog.lookup_eq_error_iff
    {Code : Type}
    {catalog : Catalog Code}
    {name : String}
    {error : EncodeError} :
    catalog.lookup name = .error error ↔
      name ∉ catalog.names ∧
        error = .unknownName catalog.kind name := by
  rw [← code?_eq_none_iff, lookup]
  cases catalog.code? name <;> simp [eq_comm]

/- What is stored with a code fails when it is looked up. -/
theorem Catalog.lookup_bind_eq_error_iff
    {Code α : Type}
    {catalog : Catalog Code}
    {name : String}
    {stored : Code → α}
    {error : EncodeError} :
    (do
      let code ← catalog.lookup name
      return stored code) = .error error ↔
      name ∉ catalog.names ∧
        error = .unknownName catalog.kind name := by
  rw [bind_eq_error_iff, lookup_eq_error_iff]
  simp [pure, Except.pure]

namespace Command

/- The name that a command refers to, with its kind. -/
def symbol? : Command → Option (SymbolKind × String)
| sound name => some (.sound, name)
| transition _ name _ => some (.transition, name)
| background _ name => some (.background, name)
| character _ name => some (.character, name)
| _ => none

/- The name that a command refers to is listed. -/
def IsNamed (command : Command) : Prop :=
  ∀ kind name,
    command.symbol? = some (kind, name) →
      name ∈ kind.names

/- Without its line, a command fails only by its name. -/
theorem payload_eq_error_iff
    {index : UInt16}
    {command : Command}
    {error : EncodeError} :
    command.payload index = .error error ↔
      ∃ kind name,
        command.symbol? = some (kind, name) ∧
          name ∉ kind.names ∧
          error = .unknownName kind name := by
  cases command with
  | sound name | transition _ name _ | background _ name
  | character _ name =>
      refine Catalog.lookup_bind_eq_error_iff.trans ?_
      constructor
      · rintro ⟨hAbsent, hError⟩
        exact ⟨_, name, rfl, hAbsent, hError⟩
      · rintro ⟨_, _, ⟨⟩, hAbsent, hError⟩
        exact ⟨hAbsent, hError⟩
  | _ => simp [payload, symbol?]

/-
  A command cannot be stored behind others.  Its name is not
  listed, or its text is one more than a word can number.
-/
def Fails
    (before : Script)
    (command : Command)
    (error : EncodeError) : Prop :=
  (∃ kind name,
    command.symbol? = some (kind, name) ∧
      name ∉ kind.names ∧
      error = .unknownName kind name) ∨
    65536 <
        (Script.texts (before ++ [command])).eraseDups.length ∧
      error = .tableOverflow 65537

/-
  A dialogue overflows a table that has as many lines as a
  word can number, and only if its text is new.
-/
theorem store_dialogue_eq_error_iff
    {table : LineTable}
    (hFits : table.toList.length ≤ 65536)
    (text : Dialogue)
    {error : EncodeError} :
    ((dialogue text).store table).1 = .error error ↔
      65536 < (table.add text.joined).2.toList.length ∧
        error = .tableOverflow 65537 := by
  have hIndex := LineTable.fst_add table text.joined
  have hGrown := LineTable.toList_add table text.joined
  have hSize :=
    LineTable.length_toList (table.add text.joined).2
  by_cases hMem : text.joined ∈ table.toList
  · rw [if_pos hMem] at hGrown
    have hKnown := List.idxOf_lt_length_of_mem hMem
    have hSmall : (table.add text.joined).1 < 65536 := by
      omega
    have hNumbered : ¬65536 < table.toList.length := by
      omega
    simp [store, hSmall, payload, hGrown, hNumbered]
  · rw [if_neg hMem] at hGrown
    rw [List.idxOf_eq_length hMem] at hIndex
    have hLength :
        (table.add text.joined).2.toList.length =
          table.toList.length + 1 := by
      rw [hGrown, List.length_append]
      rfl
    by_cases hFull : table.toList.length = 65536
    · have hLarge : ¬(table.add text.joined).1 < 65536 := by
        omega
      have hOver : (table.add text.joined).2.size = 65537 := by
        omega
      simp [store, hLarge, hLength, hFull, hOver, eq_comm]
    · have hSmall : (table.add text.joined).1 < 65536 := by
        omega
      have hNumbered : ¬65536 < table.toList.length + 1 := by
        omega
      simp [store, hSmall, payload, hLength, hNumbered]

/-
  A command is refused by the table of the commands in front
  of it exactly when it fails behind them.
-/
theorem store_eq_error_iff
    {table : LineTable}
    {before : Script}
    (hLines : table.toList = before.texts.eraseDups)
    (hFits : before.texts.eraseDups.length ≤ 65536)
    (command : Command)
    {error : EncodeError} :
    (command.store table).1 = .error error ↔
      command.Fails before error := by
  cases hText : command.text? with
  | none =>
      rw [store_of_text?_eq_none table hText,
        payload_eq_error_iff, Fails,
        Script.texts_concat_of_text?_eq_none before hText]
      simp [Nat.not_lt.mpr hFits]
  | some line =>
      cases command with
      | dialogue text =>
          have hGrown :=
            LineTable.toList_add_eq_eraseDups hLines
              text.joined
          rw [← hLines] at hFits
          rw [store_dialogue_eq_error_iff hFits, hGrown,
            Fails, Script.texts_concat_dialogue]
          simp [symbol?]
      | _ => simp [text?] at hText

/- A dialogue is stored with the position of its text. -/
theorem dialogueIndex?_of_segment?
    {lines : List Text}
    {text : Dialogue}
    {segment : List UInt8}
    (hSegment :
      (dialogue text).segment? lines = some segment) :
    Segment.dialogueIndex? segment =
      some (lines.idxOf text.joined) := by
  rcases Option.bind_eq_some_iff.mp hSegment with
    ⟨index, hIndex, hFits⟩
  rw [ite_eq_iff] at hFits
  rcases hFits with ⟨hSmall, hBytes⟩ | ⟨_, hNone⟩
  · rw [← Option.some.inj hBytes, Segment.dialogueIndex?_bytes,
      List.idxOf_eq_getD_idxOf?, hIndex, UInt16.toNat_ofNat',
      Nat.mod_eq_of_lt hSmall]
    rfl
  · simp at hNone

end Command

------------------------------------------------------------
-- Encodable Scripts
------------------------------------------------------------

namespace Script

/-
  All names of a script are listed, and a word can number its
  texts.
-/
def IsEncodable (script : Script) : Prop :=
  (∀ command ∈ script, command.IsNamed) ∧
    script.texts.eraseDups.length ≤ 65536

/- One more command is encodable if it does not fail. -/
theorem isEncodable_concat_iff
    {before : Script}
    {command : Command} :
    IsEncodable (before ++ [command]) ↔
      IsEncodable before ∧
        ∀ error, ¬command.Fails before error := by
  have hPrefix :=
    (prefix_eraseDups_texts before [command]).length_le
  constructor
  · rintro ⟨hNamed, hFits⟩
    have hBefore : IsEncodable before :=
      ⟨fun other hOther => hNamed other (by simp [hOther]),
        Nat.le_trans hPrefix hFits⟩
    refine ⟨hBefore, ?_⟩
    rintro error (⟨kind, name, hName, hAbsent, _⟩ | ⟨hOver, _⟩)
    · exact
        hAbsent (hNamed command (by simp) kind name hName)
    · exact Nat.not_lt.mpr hFits hOver
  · rintro ⟨⟨hNamed, _⟩, hFails⟩
    constructor
    · intro other hOther
      rcases List.mem_append.mp hOther with hBefore | hLast
      · exact hNamed other hBefore
      · rw [List.mem_singleton] at hLast
        subst hLast
        intro kind name hName
        by_contra hAbsent
        exact
          hFails _ (.inl ⟨kind, name, hName, hAbsent, rfl⟩)
    · by_contra hOver
      exact
        hFails _ (.inr ⟨Nat.not_le.mp hOver, rfl⟩)

------------------------------------------------------------
-- Scripts in Front of Others
------------------------------------------------------------

/- Commands are stored behind others, into their table. -/
theorem storeAll_append
    (table : LineTable)
    (front later : Script) :
    storeAll table (front ++ later) =
      match storeAll table front with
      | .error error => .error error
      | .ok (payloads, grown) =>
          match storeAll grown later with
          | .error error => .error error
          | .ok (others, final) =>
              .ok (payloads ++ others, final) := by
  induction front generalizing table with
  | nil =>
      simp only [List.nil_append, storeAll]
      cases storeAll table later <;> rfl
  | cons command front ih =>
      rw [List.cons_append, storeAll, storeAll]
      rcases command.store table with ⟨stored, grown⟩
      cases stored with
      | error error => rfl
      | ok payload =>
          simp only [ih]
          cases storeAll grown front with
          | error error => rfl
          | ok stored =>
              simp only
              cases storeAll stored.2 later <;> rfl

variable {front : Script}

/- A script that fails still does with commands behind it. -/
theorem encode_append_of_error
    {error : EncodeError}
    (hFront : front.encode = .error error)
    (later : Script) :
    (front ++ later).encode = .error error := by
  rw [encode_eq] at hFront ⊢
  rw [storeAll_append]
  cases hStored : storeAll .empty front with
  | error other =>
      rw [hStored] at hFront
      exact hFront
  | ok stored => simp [hStored] at hFront

/- A script that is encoded is encoded in front of others. -/
theorem encode_append_of_ok
    {first : Encoded}
    (hFront : front.encode = .ok first)
    (later : Script) :
    (front ++ later).encode =
      match storeAll first.table later with
      | .error error => .error error
      | .ok (payloads, table) =>
          .ok
            { script :=
                first.script ++
                  payloads.flatMap Segment.bytes
              table } := by
  rcases exists_storeAll_of_encode hFront with
    ⟨payloads, hStored, hBytes⟩
  rw [encode_eq, storeAll_append, hStored, hBytes]
  simp only
  cases storeAll first.table later with
  | error error => rfl
  | ok stored =>
      simp only [List.flatMap_append]

end Script

------------------------------------------------------------
-- What Encoding Yields
------------------------------------------------------------

/- A writer that does not fail has written every command. -/
theorem Writer.after_of_writeAll
    {writer next : Writer}
    {script : Script}
    (hWrite : writer.writeAll script = (.ok (), next)) :
    writer.after script = next ∧
      writer.accepted script = script := by
  induction script generalizing writer with
  | nil =>
      cases hWrite
      exact ⟨rfl, rfl⟩
  | cons command script ih =>
      rw [writeAll] at hWrite
      rw [after, accepted]
      rcases hStep : writer.writeCommand command with
        ⟨result, other⟩
      rw [hStep] at hWrite
      cases result with
      | error error => simp at hWrite
      | ok =>
          rcases ih hWrite with ⟨hAfter, hAccepted⟩
          exact ⟨hAfter, congrArg (command :: ·) hAccepted⟩

namespace Script

/- What is encoded is held by a writer that wrote all of it. -/
theorem tracks_of_encode
    {script : Script}
    {encoded : Encoded}
    (hEncode : script.encode = .ok encoded) :
    ∃ writer : Writer,
      writer.Tracks script script ∧
        writer.table = encoded.table ∧
        writer.sink.written.toList = encoded.script := by
  rcases exists_storeAll_of_encode hEncode with
    ⟨payloads, hStored, hBytes⟩
  have hWrite :=
    Writer.writeAll_of_capacity_eq_none
      (Writer.start .unlimited) rfl script
  have hTable : (Writer.start .unlimited).table = .empty :=
    rfl
  rw [hTable, hStored] at hWrite
  rcases Writer.after_of_writeAll hWrite with
    ⟨hAfter, hAccepted⟩
  have hTracks := Writer.tracks_start.after script
  rw [hAccepted, hAfter] at hTracks
  refine ⟨_, hTracks, rfl, ?_⟩
  rw [hBytes]
  simp [Writer.start, Sink.unlimited]

/- The table of a script holds its texts in order of use. -/
theorem toList_of_encode
    {script : Script}
    {encoded : Encoded}
    (hEncode : script.encode = .ok encoded) :
    encoded.table.toList = script.texts.eraseDups := by
  rcases tracks_of_encode hEncode with
    ⟨writer, hTracks, hTable, _⟩
  rw [← hTable]
  exact hTracks.toList_eq

/-
  One more command leaves an earlier failure alone.  Without
  one, encoding fails exactly when the command does.
-/
theorem encode_concat_cases
    (script : Script)
    (command : Command) :
    (∃ error,
      script.encode = .error error ∧
        (script ++ [command]).encode = .error error) ∨
      ∃ first,
        script.encode = .ok first ∧
          ∀ error,
            (script ++ [command]).encode = .error error ↔
              command.Fails script error := by
  cases hScript : script.encode with
  | error error =>
      exact
        .inl
          ⟨error, rfl, encode_append_of_error hScript _⟩
  | ok first =>
      rcases spells_of_encode hScript with
        ⟨segments, hSegments, _⟩
      refine .inr ⟨first, rfl, fun error => ?_⟩
      rw [← Command.store_eq_error_iff
          (toList_of_encode hScript)
          (length_eraseDups_texts_le hSegments) command,
        encode_append_of_ok hScript, storeAll]
      rcases command.store first.table with ⟨stored, table⟩
      cases stored <;> simp [storeAll]

/- A script is encoded exactly if it is encodable. -/
theorem exists_encode_iff (script : Script) :
    (∃ encoded, script.encode = .ok encoded) ↔
      script.IsEncodable := by
  induction script using List.reverseRecOn with
  | nil =>
      have hEncode := encode_eq []
      simp [hEncode, storeAll, IsEncodable, texts]
  | append_singleton script command ih =>
      rw [isEncodable_concat_iff, ← ih]
      rcases encode_concat_cases script command with
        ⟨error, hScript, hBoth⟩ | ⟨first, hScript, hFails⟩
      · simp [hScript, hBoth]
      · simp only [← hFails, hScript]
        cases Script.encode (script ++ [command]) <;> simp

/-
  Encoding fails as the first command does that is one too
  much for those in front of it.
-/
theorem encode_eq_error_iff
    (script : Script)
    {error : EncodeError} :
    script.encode = .error error ↔
      ∃ front command later,
        script = front ++ command :: later ∧
          IsEncodable front ∧
          command.Fails front error := by
  constructor
  · intro hEncode
    induction script using List.reverseRecOn with
    | nil => simp [encode_eq, storeAll] at hEncode
    | append_singleton script command ih =>
        rcases encode_concat_cases script command with
          ⟨other, hScript, hBoth⟩ | ⟨first, hScript, hFails⟩
        · rw [hBoth] at hEncode
          cases hEncode
          rcases ih hScript with
            ⟨front, blamed, later, rfl, hFront, hBlamed⟩
          exact
            ⟨front, blamed, later ++ [command], by simp,
              hFront, hBlamed⟩
        · exact
            ⟨script, command, [], rfl,
              (exists_encode_iff script).mp ⟨first, hScript⟩,
              (hFails error).mp hEncode⟩
  · rintro ⟨front, command, later, rfl, hFront, hBlamed⟩
    rcases (exists_encode_iff front).mpr hFront with
      ⟨first, hFirst⟩
    rcases encode_concat_cases front command with
      ⟨other, hFront, _⟩ | ⟨_, _, hFails⟩
    · rw [hFirst] at hFront
      simp at hFront
    · rw [List.append_cons]
      exact
        encode_append_of_error ((hFails error).mpr hBlamed)
          later

/- What is encoded starts with what a front is encoded to. -/
theorem exists_encode_of_prefix
    {front script : Script}
    {encoded : Encoded}
    (hEncode : script.encode = .ok encoded)
    (hFront : front <+: script) :
    ∃ first,
      front.encode = .ok first ∧
        first.script <+: encoded.script ∧
        first.table.toList <+: encoded.table.toList := by
  rcases hFront with ⟨later, rfl⟩
  cases hFirst : front.encode with
  | error error =>
      rw [encode_append_of_error hFirst] at hEncode
      simp at hEncode
  | ok first =>
      rw [encode_append_of_ok hFirst] at hEncode
      cases hStored : storeAll first.table later with
      | error error => simp [hStored] at hEncode
      | ok stored =>
          have hGrown := (isSegment_of_storeAll hStored).1
          rw [hStored] at hEncode
          cases hEncode
          exact
            ⟨first, rfl, List.prefix_append _ _, hGrown⟩

/-
  A script is encoded exactly if all its names are listed and
  it has at most 65536 different texts.  Otherwise the first
  command that breaks this is blamed, for its name or for its
  text.  The table holds the texts in the order of their
  first use, and a dialogue refers to the position of its
  text there.  The bytes are those of the segments, as many
  as the opcodes ask for, and a front of the script is
  encoded to a front of both.
-/
theorem encode_outcome (script : Script) :
    ((∃ encoded, script.encode = .ok encoded) ↔
        script.IsEncodable) ∧
      (∀ error,
        script.encode = .error error ↔
          ∃ front command later,
            script = front ++ command :: later ∧
              IsEncodable front ∧
              command.Fails front error) ∧
      ∀ encoded,
        script.encode = .ok encoded →
          encoded.table.toList = script.texts.eraseDups ∧
            (∃ segments,
              List.Forall₂
                  (fun command segment =>
                    IsSegment encoded.table command segment ∧
                      ∀ text,
                        command = .dialogue text →
                          Segment.dialogueIndex? segment =
                            some
                              (encoded.table.toList.idxOf
                                text.joined))
                  script segments ∧
                encoded.script = segments.flatten) ∧
            encoded.script.length = script.storedLength ∧
            ∀ front : Script,
              front <+: script →
                ∃ first,
                  front.encode = .ok first ∧
                    first.script <+: encoded.script ∧
                    first.table.toList <+:
                      encoded.table.toList := by
  refine
    ⟨exists_encode_iff script,
      fun error => encode_eq_error_iff script,
      fun encoded hEncode =>
        ⟨toList_of_encode hEncode, ?_,
          (spells_of_encode hEncode).length_eq,
          fun front => exists_encode_of_prefix hEncode⟩⟩
  rcases tracks_of_encode hEncode with
    ⟨writer, hTracks, hTable, hBytes⟩
  rcases hTracks.segments with
    ⟨segments, hSegments, hFlatten⟩
  rw [hTable] at hSegments
  refine ⟨segments, ?_, by rw [hFlatten, hBytes]⟩
  refine List.Forall₂.imp ?_ hSegments
  intro command segment hSegment
  refine
    ⟨Command.isSegment_of_segment? hSegment, ?_⟩
  rintro text rfl
  exact Command.dialogueIndex?_of_segment? hSegment

/-
  Two texts in three dialogues are encoded.  With a sound
  behind them that is not listed, its name is blamed.
-/
theorem encode_outcome_refused_sound :
    ∃ (script : Script) (encoded : Encoded),
      script =
          [.dialogue (.ofJoined ['a']),
            .dialogue (.ofJoined ['b']),
            .wait 50,
            .dialogue (.ofJoined ['a'])] ∧
        script.encode = .ok encoded ∧
        encoded.table.toList = [['a'], ['b']] ∧
        encoded.script.length = 16 ∧
        Script.encode
            (script ++ [.sound "Kazoo SFX", .finish]) =
          .error (.unknownName .sound "Kazoo SFX") := by
  let script : Script :=
    [.dialogue (.ofJoined ['a']),
      .dialogue (.ofJoined ['b']),
      .wait 50,
      .dialogue (.ofJoined ['a'])]
  have hEncodable : script.IsEncodable :=
    ⟨by simp [script, Command.IsNamed, Command.symbol?],
      by decide⟩
  rcases (encode_outcome script).1.mpr hEncodable with
    ⟨encoded, hEncode⟩
  have hYields := (encode_outcome script).2.2 _ hEncode
  refine
    ⟨script, encoded, rfl, hEncode, hYields.1,
      hYields.2.2.1, ?_⟩
  exact
    ((encode_outcome _).2.1 _).mpr
      ⟨script, .sound "Kazoo SFX", [.finish], rfl,
        hEncodable,
        .inl ⟨.sound, _, rfl, by decide, rfl⟩⟩

end Script

end SceneScript
