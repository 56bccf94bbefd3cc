import SceneScript.Symbol

/-
  The names of the codes found in scripts.

  Key definitions include:
    * `Catalog.sounds`
    * `Catalog.backgrounds`
    * `Catalog.characters`
    * `Catalog.transitions`

  The order of a catalog is the order in which an editor
  offers its names.
-/

namespace SceneScript

namespace Catalog

/- Music, sound effects and voice clips. -/
def sounds : Catalog UInt16 where
  kind := .sound
  entries := [
    ("Silence", 0x0000),
    ("Title BGM", 0x0001),
    ("Unknown BGM 02", 0x0002),
    ("Unknown BGM 03", 0x0003),
    ("Unknown BGM 04", 0x0004),
    ("Unknown BGM 05", 0x0005),
    ("Unknown BGM 06", 0x0006),
    ("Unknown BGM 07", 0x0007),
    ("Unknown BGM 08", 0x0008),
    ("Unknown BGM 09", 0x0009),
    ("Rolling Hills BGM", 0x000A),
    ("Silence 0B", 0x000B),
    ("Button Select SFX", 0x000C),
    ("Deselect SFX", 0x000D),
    ("Unknown SFX 0E", 0x000E),
    ("Unknown SFX 0F", 0x000F),
    ("Page Turn SFX", 0x0010),
    ("Incorrect SFX", 0x0011),
    ("Correct SFX", 0x0012),
    ("Unknown SFX 13", 0x0013),
    ("Unknown SFX 14", 0x0014),
    ("Unknown SFX 15", 0x0015),
    ("Win SFX", 0x0016),
    ("Unknown SFX 17", 0x0017),
    ("Unknown SFX 18", 0x0018),
    ("Unknown SFX 19", 0x0019),
    ("Unknown SFX 1A", 0x001A),
    ("Unknown SFX 1B", 0x001B),
    ("Unknown SFX 1C", 0x001C),
    ("Unknown SFX 1D", 0x001D),
    ("Unknown SFX 1E", 0x001E),
    ("Unknown SFX 1F", 0x001F),
    ("Unknown SFX 20", 0x0020),
    ("Unknown SFX 21", 0x0021),
    ("Dunk SFX", 0x0022),
    ("Unknown SFX 23", 0x0023),
    ("Unknown SFX 24", 0x0024),
    ("Unknown SFX 25", 0x0025),
    ("Unknown SFX 26", 0x0026),
    ("Unknown SFX 27", 0x0027),
    ("Wind SFX", 0x0028),
    ("Unknown SFX 29", 0x0029),
    ("Unknown SFX 2A", 0x002A),
    ("Unknown SFX 2B", 0x002B),
    ("Unknown Sting SFX 2C", 0x002C),
    ("My Melo: Ah, Kuromi-chan!", 0x002D),
    ("My Melo: Kuromi-chan!", 0x002E),
    ("My Melo: Kuromi-chaaaaan!", 0x002F),
    ("My Melo: Ah, Kuromi-chan! (2)", 0x0030),
    ("My Melo: Kuromi-chan?", 0x0031),
    ("My Melo: Kuromi-chaan!", 0x0032),
    ("My Melo: Kuromi-chan! (2)", 0x0033),
    ("Kuromi: Jaa ikuyo... hirake, yume no tobira!", 0x0034),
    ("Kuromi: Ikuyo... hirake, yume no tobira!", 0x0035),
    ("Kuromi: Hirakeeee, yume no tobira!", 0x0036),
    ("Kuromi: Hirake, yume no tobira!", 0x0037),
    ("Kuromi: Jaa ikuyo. Hirake, yume no tobira!", 0x0038),
    ("Kuromi: Ikuyo! Hirake, yume no tobira!", 0x0039),
    ("Kuromi: Hiirakee! Yume no tobira!", 0x003A),
    ("Kuromi: Hirake! Yume no tobira!", 0x003B),
    ("Unknown SFX 3C", 0x003C)]
  nodup_names := by decide +kernel
  nodup_codes := by decide +kernel

/- Background pictures, named by their files. -/
def backgrounds : Catalog UInt8 where
  kind := .background
  entries := [
    ("bg01.png", 0x01),
    ("bg02.png", 0x02),
    ("bg03.png", 0x03),
    ("bg04.png", 0x04),
    ("bg05.png", 0x05),
    ("bg06.png", 0x06),
    ("bg07.png", 0x07),
    ("bg08.png", 0x08)]
  nodup_names := by decide +kernel
  nodup_codes := by decide +kernel

/- Character sprites. -/
def characters : Catalog UInt16 where
  kind := .character
  entries := [
    ("Empty", 0x0000),
    ("My Melo (Silent)", 0x0001),
    ("My Melo (Talking)", 0x0002),
    ("Uta (Silent)", 0x0003),
    ("Uta (Talking)", 0x0004),
    ("My Sweet Piano (Silent)", 0x0005),
    ("My Sweet Piano (Talking)", 0x0006),
    ("Flat (Silent)", 0x0007),
    ("Flat (Talking)", 0x0008),
    ("Kuromi (Silent)", 0x0009),
    ("Kuromi (Talking)", 0x000A),
    ("Rhythm (Silent)", 0x000B),
    ("Rhythm (Talking)", 0x000C),
    ("Risu (Silent)", 0x000D),
    ("Risu (Talking)", 0x000E),
    ("Hedgehog (Silent)", 0x000F),
    ("Hedgehog (Talking)", 0x0010),
    ("Kuma (Silent)", 0x0011),
    ("Kuma (Talking)", 0x0012),
    ("Grandpa (Silent)", 0x0013),
    ("Grandpa (Talking)", 0x0014),
    ("Baku (Silent)", 0x0015),
    ("Baku (Talking)", 0x0016)]
  nodup_names := by decide +kernel
  nodup_codes := by decide +kernel

/- Screen wipes. -/
def transitions : Catalog UInt8 where
  kind := .transition
  entries := [
    ("Transparent Wipe Right (Clean Screen)", 0x02),
    ("Transparent Wipe Right (Draw New)", 0x03),
    ("Pink Wipe Left (Clean)", 0x04),
    ("Pink Wipe Left", 0x05),
    ("White Center Wipe Out", 0x06),
    ("White Center Wipe In (Needs Fade In)", 0x07),
    ("White Curtains Out (Transparent)", 0x0A),
    ("White Curtains Out (White)", 0x0B)]
  nodup_names := by decide +kernel
  nodup_codes := by decide +kernel

end Catalog

end SceneScript
