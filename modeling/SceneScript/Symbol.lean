/-
  Names for the numeric codes of scripts.

  Key definitions include:
    * `SymbolKind`
    * `Catalog`
    * `Catalog.name?`
    * `Catalog.code?`
    * `Catalog.first`
-/

namespace SceneScript

------------------------------------------------------------
-- Kinds
------------------------------------------------------------

/- What a code stands for. -/
inductive SymbolKind where
| sound
| background
| character
| transition
deriving DecidableEq, Repr

/- The word for a kind. -/
def SymbolKind.word : SymbolKind → String
| sound => "sound"
| background => "background"
| character => "character"
| transition => "transition"

------------------------------------------------------------
-- Catalogs
------------------------------------------------------------

/-
  Names with their codes, in the order of presentation.  No
  name has two codes, and no code has two names.
-/
structure Catalog (Code : Type) where
  kind : SymbolKind
  entries : List (String × Code)
  nodup_names : (entries.map (·.1)).Nodup
  nodup_codes : (entries.map (·.2)).Nodup

namespace Catalog

variable {Code : Type}

/- The number of entries. -/
def size (catalog : Catalog Code) : Nat :=
  catalog.entries.length

/- The names in order. -/
def names (catalog : Catalog Code) : List String :=
  catalog.entries.map (·.1)

/- The codes in order. -/
def codes (catalog : Catalog Code) : List Code :=
  catalog.entries.map (·.2)

/- The name of a code. -/
def name?
    [DecidableEq Code]
    (catalog : Catalog Code)
    (code : Code) : Option String :=
  (catalog.entries.find? (·.2 == code)).map (·.1)

/- The code of a name. -/
def code?
    (catalog : Catalog Code)
    (name : String) : Option Code :=
  (catalog.entries.find? (·.1 == name)).map (·.2)

/- The name that new commands start with. -/
def first (catalog : Catalog Code) : String :=
  (catalog.names.head?).getD ""

end Catalog

end SceneScript
