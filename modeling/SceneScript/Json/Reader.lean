import SceneScript.Json.Lexeme

/-
  Reading JSON values, arrays and objects.

  Key definitions include:
    * `Json.arrayRest`
    * `Json.objectRest`
    * `Json.value`
    * `Json.wrongKind`
    * `Json.whole`

  Readers of arrays and objects take a reader for their parts,
  so that a part of the wrong shape is noticed where it
  stands.  `room` counts the levels of nesting that are still
  allowed.  `limit` bounds the number of parts of an array or
  an object.  The length of the whole text is enough, since
  every part has a character of its own.
-/

namespace SceneScript

namespace Json

------------------------------------------------------------
-- Scalars
------------------------------------------------------------

/- The number of levels of nesting that a text may have. -/
def maxNesting : Nat := 127

/- Read a value that is neither an array nor an object. -/
def scalar : ReadFn Json :=
  fun input =>
    match input with
    | [] => .error .unfinished
    | 'n' :: rest => word null ['u', 'l', 'l'] rest
    | 't' :: rest => word (bool true) ['r', 'u', 'e'] rest
    | 'f' :: rest =>
        word (bool false) ['a', 'l', 's', 'e'] rest
    | '"' :: rest => do
        let (text, rest) ← stringRest rest
        return (str text, rest)
    | c :: rest =>
        if c = '-' ∨ c.isDigit then
          number (c :: rest)
        else
          .error .malformed

/-
  The fault of a value whose kind is not the one that is due.
  A scalar is read first, and its own fault comes before the
  mismatch.
-/
def wrongKind
    {α : Type} : ReadFn α :=
  fun input =>
    match input with
    | '[' :: _ => .error .mismatch
    | '{' :: _ => .error .mismatch
    | _ =>
        match scalar input with
        | .error fault => .error fault
        | .ok _ => .error .mismatch

/- Read a string where only a string is right. -/
def strictString : ReadFn String :=
  fun input =>
    match input with
    | '"' :: rest => stringRest rest
    | _ => wrongKind input

------------------------------------------------------------
-- Arrays
------------------------------------------------------------

/- Read the items behind an item, with the closing bracket. -/
def moreItems
    {α : Type}
    (item : ReadFn α) :
    Nat → ReadFn (List α)
| 0, _ => .error .unfinished
| fuel + 1, input =>
    match skipSpace input with
    | [] => .error .unfinished
    | ']' :: rest => .ok ([], rest)
    | ',' :: rest =>
        match skipSpace rest with
        | [] => .error .unfinished
        | ']' :: _ => .error .malformed
        | next => do
            let (first, rest) ← item next
            let (later, rest) ← moreItems item fuel rest
            return (first :: later, rest)
    | _ :: _ => .error .malformed

/- Read an array behind its opening bracket. -/
def arrayRest
    {α : Type}
    (limit : Nat)
    (item : ReadFn α) : ReadFn (List α) :=
  fun input =>
    match skipSpace input with
    | [] => .error .unfinished
    | ']' :: rest => .ok ([], rest)
    | next => do
        let (first, rest) ← item next
        let (later, rest) ← moreItems item limit rest
        return (first :: later, rest)

------------------------------------------------------------
-- Objects
------------------------------------------------------------

/- Read the colon behind a key. -/
def colon : ReadFn Unit :=
  fun input =>
    match skipSpace input with
    | [] => .error .unfinished
    | ':' :: rest => .ok ((), rest)
    | _ :: _ => .error .malformed

/- Read the value behind a key. -/
def afterColon
    {α : Type}
    (item : ReadFn α) : ReadFn α :=
  fun input => do
    let (_, rest) ← colon input
    match skipSpace rest with
    | [] => throw .unfinished
    | next => item next

/- Read the entries behind an entry, with the closing brace. -/
def moreEntries
    {σ : Type}
    (entry : σ → String → ReadFn σ) :
    Nat → σ → ReadFn σ
| 0, _, _ => .error .unfinished
| fuel + 1, state, input =>
    match skipSpace input with
    | [] => .error .unfinished
    | '}' :: rest => .ok (state, rest)
    | ',' :: rest =>
        match skipSpace rest with
        | [] => .error .unfinished
        | '"' :: next => do
            let (key, rest) ← stringRest next
            let (state, rest) ← entry state key rest
            moreEntries entry fuel state rest
        | _ :: _ => .error .malformed
    | _ :: _ => .error .malformed

/-
  Read an object behind its opening brace.  `entry` reads
  what follows a key and adds the entry to a state.
-/
def objectRest
    {σ : Type}
    (limit : Nat)
    (entry : σ → String → ReadFn σ)
    (state : σ) : ReadFn σ :=
  fun input =>
    match skipSpace input with
    | [] => .error .unfinished
    | '}' :: rest => .ok (state, rest)
    | '"' :: next => do
        let (key, rest) ← stringRest next
        let (state, rest) ← entry state key rest
        moreEntries entry limit state rest
    | _ :: _ => .error .malformed

------------------------------------------------------------
-- Values
------------------------------------------------------------

/- Add an entry with any value in front of the others. -/
def anyEntry
    (item : ReadFn Json)
    (entries : List (String × Json))
    (key : String) :
    ReadFn (List (String × Json)) :=
  fun input => do
    let (found, rest) ← afterColon item input
    return ((key, found) :: entries, rest)

/- Read any value, without space in front of it. -/
def value (limit : Nat) : Nat → ReadFn Json
| 0 => fun input =>
    match input with
    | '[' :: _ => .error .malformed
    | '{' :: _ => .error .malformed
    | _ => scalar input
| room + 1 => fun input =>
    match input with
    | '[' :: rest => do
        let (items, rest) ← arrayRest limit (value limit room) rest
        return (arr items, rest)
    | '{' :: rest => do
        let (entries, rest) ←
          objectRest limit (anyEntry (value limit room)) [] rest
        return (obj entries.reverse, rest)
    | _ => scalar input

/-
  Read a text that consists of one value.  `item` is given
  the length of the text as its limit.
-/
def whole
    {α : Type}
    (item : Nat → ReadFn α)
    (input : Text) : Except Fault α := do
  match skipSpace input with
  | [] => throw .unfinished
  | next =>
      let (found, rest) ← item input.length next
      match skipSpace rest with
      | [] => return found
      | _ :: _ => throw .malformed

/- Read any JSON text. -/
def read (input : Text) : Except Fault Json :=
  whole (fun limit => value limit maxNesting) input

end Json

end SceneScript
