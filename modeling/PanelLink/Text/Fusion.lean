import PanelLink.Text.Columns

/-!
Characters that are written as one with those behind them. Some scripts fuse certain
letters, emoji are joined into one, and a selector changes the style of the character
before it. A text is therefore measured from its end: what stands at the front of the part
already measured decides what the next character adds.
-/

namespace PanelLink.Text

/-! ## Letters that fuse -/

def joiner : Char := '\u200D'

def lamRanges : List CodeRange := [
  (0x644, 0x644), (0x6B5, 0x6B8), (0x76A, 0x76A), (0x8A6, 0x8A6), (0x8C7, 0x8C7)]

def alefRanges : List CodeRange := [
  (0x622, 0x623), (0x625, 0x625), (0x627, 0x627), (0x671, 0x673), (0x675, 0x675),
  (0x773, 0x774), (0x870, 0x882)]

def subscriptRanges : List CodeRange := [
  (0x1780, 0x1782), (0x1784, 0x1787), (0x1789, 0x178C), (0x178E, 0x1793),
  (0x1795, 0x1798), (0x179B, 0x179D), (0x17A0, 0x17A0), (0x17A2, 0x17A2),
  (0x17A7, 0x17A7), (0x17AB, 0x17AC), (0x17AF, 0x17AF)]

def tifinaghRanges : List CodeRange := [(0x2D31, 0x2D65), (0x2D6F, 0x2D6F)]

def seeThroughRanges : List CodeRange := [
  (0x34F, 0x34F), (0x17B4, 0x17B5), (0x180B, 0x180D), (0x180F, 0x180F), (0xFE00, 0xFE0F),
  (0xE0100, 0xE01EF)]

/-- Characters without a place that still keep an Arabic lam from fusing with an alef. -/
def solidRanges : List CodeRange := [
  (0x605, 0x605), (0x890, 0x891), (0x8E2, 0x8E2), (0x9BE, 0x9BE), (0x9D7, 0x9D7),
  (0xB3E, 0xB3E), (0xB57, 0xB57), (0xBBE, 0xBBE), (0xBD7, 0xBD7), (0xCC0, 0xCC0),
  (0xCC2, 0xCC2), (0xCC7, 0xCC8), (0xCCA, 0xCCB), (0xCD5, 0xCD6), (0xD3E, 0xD3E),
  (0xD4E, 0xD4E), (0xD57, 0xD57), (0xDCF, 0xDCF), (0xDDF, 0xDDF), (0x1160, 0x11FF),
  (0x1715, 0x1715), (0x1734, 0x1734), (0x180E, 0x180E), (0x1B35, 0x1B35),
  (0x1B3B, 0x1B3B), (0x1B3D, 0x1B3D), (0x1B43, 0x1B44), (0x1BAA, 0x1BAA),
  (0x1BF2, 0x1BF3), (0x200C, 0x200D), (0x2065, 0x2069), (0x302E, 0x302F),
  (0x3164, 0x3164), (0xA8FA, 0xA8FA), (0xA953, 0xA953), (0xA9C0, 0xA9C0),
  (0xD7B0, 0xD7C6), (0xD7CB, 0xD7FB), (0xFFA0, 0xFFA0), (0xFFF0, 0xFFF8),
  (0x111C0, 0x111C0), (0x111C2, 0x111C3), (0x11235, 0x11235), (0x1133E, 0x1133E),
  (0x1134D, 0x1134D), (0x11357, 0x11357), (0x113B8, 0x113B8), (0x113C2, 0x113C2),
  (0x113C5, 0x113C5), (0x113C7, 0x113C9), (0x113CF, 0x113CF), (0x113D1, 0x113D1),
  (0x114B0, 0x114B0), (0x114BD, 0x114BD), (0x115AF, 0x115AF), (0x116B6, 0x116B6),
  (0x11930, 0x11930), (0x1193D, 0x1193D), (0x1193F, 0x1193F), (0x11941, 0x11941),
  (0x11A84, 0x11A89), (0x11D46, 0x11D46), (0x11F02, 0x11F02), (0x11F41, 0x11F41),
  (0x16FF0, 0x16FF1), (0x1D165, 0x1D166), (0x1D16D, 0x1D172), (0x1D250, 0x1D252),
  (0x1D25F, 0x1D25F), (0x1D280, 0x1D281), (0xE0000, 0xE0000), (0xE0002, 0xE001F),
  (0xE0080, 0xE00FF), (0xE01F0, 0xE0FFF)]

def isTifinagh (character : Char) : Bool := inRanges tifinaghRanges character.toNat

/-- Whether Arabic letters fuse across a character, the Unicode value Transparent of
Joining_Type. -/
def isTransparent (character : Char) : Bool :=
  columns character = 0 && !inRanges solidRanges character.toNat

inductive Ligature where
  /-- Arabic alef, which fuses with lam. -/
  | alef
  /-- Hebrew lamed, which fuses with alef when a joiner stands between them. -/
  | lamed (joined : Bool)
  /-- Buginese ya, which fuses with a and the vowel sign i across a joiner. -/
  | ya (joined : Bool)
  /-- Buginese ya behind the vowel sign and the joiner. -/
  | vowelYa
  /-- A Tifinagh consonant, which fuses with another across a joiner. -/
  | tifinagh (joined : Bool)
  /-- A Tifinagh consonant behind the joiner of that script. -/
  | joinedTifinagh
  | tone
  /-- Old Turkic i, which fuses with ch when a joiner stands between them. -/
  | orkhonI (joined : Bool)
  /-- A Khmer letter that goes below the one before it, behind the sign for that. -/
  | subscript
deriving DecidableEq, Repr

/-! ## Emoji that are joined -/

inductive EmojiPart where
  | emoji
  | modifier
  | flagLetter
  | flagLetters
  /-- A joiner and an emoji. In what follows, they stand behind the part named. -/
  | joiner
  | keycap
  | joinedFlagLetter
  /-- An even number of flag letters. -/
  | joinedFlags
  /-- An odd number of flag letters, three or more. -/
  | joinedFlagsAndLetter
  /-- The end of the tags of a flag, with so many letters before it. -/
  | tagLetters (count : Nat)
  /-- So many digits in front of the letters and the end of the tags of a flag. -/
  | tagDigits (count : Nat)
deriving DecidableEq, Repr

/-! ## The front of a text -/

inductive Front where
  | plain
  | letter (ligature : Ligature)
  | emoji (part : EmojiPart)
  /-- The vowel sign e of Kirat Rai, which fuses with other vowels. -/
  | vowelE
  | vowelAi
deriving DecidableEq, Repr

def frontOf (character : Char) : Front :=
  let code := character.toNat
  if isEmoji character then .emoji .emoji
  else if isModifier character then .emoji .modifier
  else if isFlagLetter character then .emoji .flagLetter
  else if inRanges alefRanges code then .letter .alef
  else if character = '\u05DC' then .letter (.lamed false)
  else if inRanges subscriptRanges code then .letter .subscript
  else if character = '\u1A10' then .letter (.ya false)
  else if isTifinagh character then .letter (.tifinagh false)
  else if character = '\uA4FC' || character = '\uA4FD' then .letter .tone
  else if character.toNat = 0x10C03 then .letter (.orkhonI false)
  else if character.toNat = 0x16D67 then .vowelE
  else if character.toNat = 0x16D68 then .vowelAi
  else .plain

structure Addition where
  columns : Int
  front : Front
deriving DecidableEq, Repr

def alone (character : Char) : Addition := ⟨columns character, frontOf character⟩

namespace Ligature

def join : Ligature → Ligature
  | lamed _ => lamed true
  | ya _ => ya true
  | tifinagh _ => tifinagh true
  | orkhonI _ => orkhonI true
  | other => other

def fuse (character : Char) : Ligature → Option Addition
  | alef =>
      if inRanges lamRanges character.toNat then some ⟨0, .plain⟩
      else if isTransparent character then some ⟨0, .letter alef⟩
      else none
  | lamed true => if character = '\u05D0' then some ⟨0, .plain⟩ else none
  | ya true => if character = '\u1A17' then some ⟨0, .letter vowelYa⟩ else none
  | vowelYa => if character = '\u1A15' then some ⟨0, .plain⟩ else none
  | tifinagh joined =>
      if character = tifinaghJoiner then some ⟨1, .letter joinedTifinagh⟩
      else if joined && isTifinagh character then some ⟨0, .plain⟩
      else none
  | joinedTifinagh => if isTifinagh character then some ⟨-1, .plain⟩ else none
  | tone =>
      if 0xA4F8 ≤ character.toNat && character.toNat ≤ 0xA4FB then some ⟨0, .plain⟩
      else none
  | orkhonI true => if character.toNat = 0x10C32 then some ⟨0, .plain⟩ else none
  | subscript => if character = '\u17D2' then some ⟨-1, .plain⟩ else none
  | lamed false | ya false | orkhonI false => none

/-- What a character adds before such a letter. Joiners and marks to be passed over do not
part what fuses, except in Arabic, which has a rule of its own. -/
def precede (character : Char) (ligature : Ligature) : Addition :=
  if ligature ≠ alef && character = joiner then ⟨0, .letter ligature.join⟩
  else if ligature ≠ alef && inRanges seeThroughRanges character.toNat then
    ⟨0, .letter ligature⟩
  else (ligature.fuse character).getD (alone character)

end Ligature

namespace EmojiPart

def joins : EmojiPart → Bool
  | emoji | modifier | flagLetters | joinedFlags | joinedFlagsAndLetter => true
  | _ => false

def beforeJoiner (character : Char) : Option Addition :=
  if character = Text.keycap then some ⟨0, .emoji keycap⟩
  else if isFlagLetter character then some ⟨1, .emoji joinedFlagLetter⟩
  else if isModifier character then some ⟨0, .emoji modifier⟩
  else if character = tagEnd then some ⟨0, .emoji (tagLetters 0)⟩
  else if isEmoji character then some ⟨0, .emoji emoji⟩
  else none

/-- What a character adds before the tags of a flag, if it takes part. A region has three
letters or more, or three digits in front of at most four letters. -/
def beforeTags (character : Char) : EmojiPart → Option Addition
  | tagLetters count =>
      if isTagLetter character && count < 6 then some ⟨0, .emoji (tagLetters (count + 1))⟩
      else if isTagDigit character && count ≤ 4 then some ⟨0, .emoji (tagDigits 1)⟩
      else if character = blackFlag && 3 ≤ count then some ⟨0, .emoji emoji⟩
      else none
  | tagDigits count =>
      if isTagDigit character && count < 3 then some ⟨0, .emoji (tagDigits (count + 1))⟩
      else if character = blackFlag && count = 3 then some ⟨0, .emoji emoji⟩
      else none
  | _ => none

/-- What a character adds before a part of an emoji, if it takes part. Flag letters pair
up from the start of their run, so a letter more may take a pair away from the emoji
behind the joiner or give one to it. -/
def fuse (character : Char) (part : EmojiPart) : Option Addition :=
  if part.joins && character = Text.joiner then some ⟨0, .emoji joiner⟩
  else match part with
    | modifier => if isModifierBase character then some ⟨0, .emoji emoji⟩ else none
    | flagLetter | flagLetters =>
        if isFlagLetter character then some ⟨1, .emoji flagLetters⟩ else none
    | joiner => beforeJoiner character
    | joinedFlagLetter | joinedFlagsAndLetter =>
        if isFlagLetter character then some ⟨-1, .emoji joinedFlags⟩ else none
    | joinedFlags =>
        if isFlagLetter character then some ⟨3, .emoji joinedFlagsAndLetter⟩ else none
    | tagLetters _ | tagDigits _ => beforeTags character part
    | emoji | keycap => none

end EmojiPart

namespace Front

def precede (character : Char) : Front → Addition
  | plain => alone character
  | letter ligature => ligature.precede character
  | emoji part => (part.fuse character).getD (alone character)
  | vowelE =>
      if character.toNat = 0x16D63 || character.toNat = 0x16D69 then ⟨0, plain⟩
      else if character.toNat = 0x16D67 then ⟨0, vowelAi⟩
      else if character.toNat = 0x16D68 then ⟨1, vowelE⟩
      else alone character
  | vowelAi => if character.toNat = 0x16D63 then ⟨0, plain⟩ else alone character

end Front

end PanelLink.Text
