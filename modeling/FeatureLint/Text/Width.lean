import FeatureLint.Unicode.Property

namespace FeatureLint.Text

open Unicode (CodeSet)

/-- Characters that take no column of their own: marks, formats, and vowels and finals of Hangul. -/
def zeroWidth : CodeSet :=
  (CodeSet.unions [Unicode.graphemeExtend, Unicode.tabled "defaultignorablecodepoint",
    .ofTable "605 70F 890-891 8E2 D4E 1161-11FF A8FA D7B0-D7C6 D7CB-D7FB 111C2-111C3 113D1 1193F
      11941 11A3A 11A84-11A89 11D46 11F02"]).diff ⟨[(0x115F, 0x115F), (0x2D7F, 0x2D7F)]⟩

/-- Characters that take two columns. -/
def wide : CodeSet :=
  .ofTable "1100-115F 17A4 231A-231B 2329-232A 23E9-23EC 23F0 23F3 25FD-25FE 2614-2615 2630-2637
    2648-2653 267F 268A-268F 2693 26A1 26AA-26AB 26BD-26BE 26C4-26C5 26CE 26D4 26EA 26F2-26F3 26F5
    26FA 26FD 2705 270A-270B 2728 274C 274E 2753-2755 2757 2795-2797 27B0 27BF 2B1B-2B1C 2B50 2B55
    2E80-2E99 2E9B-2EF3 2F00-2FD5 2FF0-3029 3030-303E 3041-3096 309B-30FF 3105-312F 3131-3163
    3165-318E 3190-31E5 31EF-321E 3220-3247 3250-A48C A490-A4C6 A960-A97C AC00-D7A3 F900-FAFF
    FE10-FE19 FE30-FE52 FE54-FE66 FE68-FE6B FF01-FF60 FFE0-FFE6 16FE0-16FE3 17000-187F7 18800-18CD5
    18CFF-18D08 1AFF0-1AFF3 1AFF5-1AFFB 1AFFD-1AFFE 1B000-1B122 1B132 1B150-1B152 1B155 1B164-1B167
    1B170-1B2FB 1D300-1D356 1D360-1D376 1F004 1F0CF 1F18E 1F191-1F19A 1F200-1F202 1F210-1F23B
    1F240-1F248 1F250-1F251 1F260-1F265 1F300-1F320 1F32D-1F335 1F337-1F37C 1F37E-1F393 1F3A0-1F3CA
    1F3CF-1F3D3 1F3E0-1F3F0 1F3F4 1F3F8-1F43E 1F440 1F442-1F4FC 1F4FF-1F53D 1F54B-1F54E 1F550-1F567
    1F57A 1F595-1F596 1F5A4 1F5FB-1F64F 1F680-1F6C5 1F6CC 1F6D0-1F6D2 1F6D5-1F6D7 1F6DC-1F6DF
    1F6EB-1F6EC 1F6F4-1F6FC 1F7E0-1F7EB 1F7F0 1F90C-1F93A 1F93C-1F945 1F947-1F9FF 1FA70-1FA7C
    1FA80-1FA89 1FA8F-1FAC6 1FACE-1FADC 1FADF-1FAE9 1FAF0-1FAF8 20000-2FFFD 30000-3FFFD"

/-- Characters without a column that Arabic letters do not join across. -/
def barrierMarks : CodeSet :=
  .ofTable "605 890-891 8E2 9BE 9D7 B3E B57 BBE BD7 CC0 CC2 CC7-CC8 CCA-CCB CD5-CD6 D3E D4E D57 DCF
    DDF 1160-11FF 1715 1734 180E 1B35 1B3B 1B3D 1B43-1B44 1BAA 1BF2-1BF3 200C-200D 2065-2069
    302E-302F 3164 A8FA A953 A9C0 D7B0-D7C6 D7CB-D7FB FF9E-FFA0 FFF0-FFF8 111C0 111C2-111C3
    11235 1133E 1134D 11357 113B8 113C2 113C5 113C7-113C9 113CF 113D1 114B0 114BD 115AF 116B6
    11930 1193D-11941/2 11A3A 11A84-11A89 11D46 11F02 11F41 16FF0-16FF1 1D165-1D166 1D16D-1D172
    E0000 E0002-E001F E0080-E00FF E01F0-E0FFF"

/-- Emoji that are shown as text if a text selector follows; ideographs stay wide. -/
def textBases : CodeSet :=
  .ofTable "231A-231B 23E9-23EA 23F3 25FD-25FE 2614-2615 2648-2653 267F 2693 26A1 26AA-26AB
    26BD-26BE 26C4-26C5 26D4 26EA 26F2-26F3 26F5 26FA 26FD 2753 2757 2B1B-2B1C 2B50 2B55 1F004
    1F30D-1F30F 1F315 1F31C 1F378 1F393 1F3A7 1F3AC-1F3AE 1F3C2 1F3C4 1F3C6 1F3CA 1F3E0 1F3ED
    1F408 1F415 1F41F 1F426 1F442 1F446-1F449 1F44D-1F44E 1F453 1F46A 1F47D 1F4A3 1F4B0 1F4B3
    1F4BB 1F4BF 1F4CB 1F4DA 1F4DF 1F4E4-1F4E6 1F4EA-1F4ED 1F4F7 1F4F9-1F4FB 1F508 1F50D
    1F512-1F513 1F550-1F567 1F610 1F687 1F68D 1F691 1F694 1F698 1F6AD 1F6B2 1F6B9-1F6BA 1F6BC"

def emojiPresentation : CodeSet := Unicode.tabled "emojipresentation"

/-- Characters that an emoji selector turns into an emoji. -/
def emojiBases : CodeSet :=
  .unions [(Unicode.tabled "emoji").diff emojiPresentation, textBases,
    ⟨[(0x1F21A, 0x1F21A), (0x1F22F, 0x1F22F)]⟩]

def modifierBases : CodeSet := Unicode.tabled "emojimodifierbase"

/-- What stands behind a character, where it can join with it. A joiner is the zero width joiner. -/
inductive Behind where
  | plain
  | lineFeed
  | modifier
  /-- One regional indicator, or more. -/
  | region
  | regions
  | emoji
  /-- A joiner and an emoji. -/
  | joinedEmoji
  | joinedKeycap
  | joinedRegion
  | joinedEvenRegions
  | joinedOddRegions
  /-- The end of a tag sequence with so many letters, a joiner and an emoji. -/
  | joinedTags (letters : Nat)
  | alef
  | lamed (joiner : Bool)
  | ya (joiner : Bool)
  | vowelAndYa
  | tifinagh (joiner : Bool)
  | joinedTifinagh
  | lisuTone
  | turkicI (joiner : Bool)
  | khmerLetter
  | kiratRaiE
  | kiratRaiAi
  deriving DecidableEq, Repr

/-- A selector in front of what stands behind: for the emoji form of a character, or for its text
form. -/
inductive Selector where
  | none
  | emoji
  | text
  deriving DecidableEq, Repr

structure Context where
  behind : Behind
  selector : Selector
  deriving DecidableEq, Repr

def Context.plain : Context := ⟨.plain, .none⟩

/-- Letters that go on joining over selectors. -/
def Behind.isLetter : Behind → Bool
  | .alef | .lamed _ | .ya _ | .vowelAndYa | .tifinagh _ | .joinedTifinagh | .lisuTone | .turkicI _
  | .khmerLetter | .kiratRaiE | .kiratRaiAi => true
  | _ => false

/-- Letters that go on joining over joiners and the like. -/
def Behind.isTransparent : Behind → Bool
  | .lamed _ | .ya _ | .vowelAndYa | .tifinagh _ | .joinedTifinagh | .lisuTone | .turkicI _
  | .khmerLetter => true
  | _ => false

def Behind.withJoiner : Behind → Behind
  | .lamed _ => .lamed true
  | .ya _ => .ya true
  | .tifinagh _ => .tifinagh true
  | .turkicI _ => .turkicI true
  | b => b

def Behind.isJoinedEmoji : Behind → Bool
  | .joinedEmoji | .joinedKeycap => true
  | _ => false

/-- What is left to join once a selector found no base. -/
def Behind.unselected (b : Behind) : Behind := if b.isLetter then b else .plain

def inRange (c : Char) (lo hi : Nat) : Bool := lo ≤ c.toNat && c.toNat ≤ hi

def isIgnorableMark (c : Char) : Bool :=
  inRange c 0x34F 0x34F || inRange c 0x17B4 0x17B5 || inRange c 0x180B 0x180D
    || inRange c 0x180F 0x180F || inRange c 0x200D 0x200D || inRange c 0xFE00 0xFE0F
    || inRange c 0xE0100 0xE01EF

def isLam (c : Char) : Bool :=
  inRange c 0x644 0x644 || inRange c 0x6B5 0x6B8 || inRange c 0x76A 0x76A || inRange c 0x8A6 0x8A6
    || inRange c 0x8C7 0x8C7

def isAlef (c : Char) : Bool :=
  inRange c 0x622 0x623 || inRange c 0x625 0x625 || inRange c 0x627 0x627 || inRange c 0x671 0x673
    || inRange c 0x675 0x675 || inRange c 0x773 0x774 || inRange c 0x870 0x882

/-- Khmer letters that can be written below another one. -/
def khmerLetters : CodeSet :=
  .ofTable "1780-1782 1784-1787 1789-178C 178E-1793 1795-1798 179B-179D 17A0 17A2 17A7
    17AB-17AC 17AF"

def isTifinagh (c : Char) : Bool := inRange c 0x2D31 0x2D65 || inRange c 0x2D6F 0x2D6F

def isRegion (c : Char) : Bool := inRange c 0x1F1E6 0x1F1FF

/-- The columns of a character alone, and what it is to the character before it. -/
def alone (c : Char) : Int × Behind :=
  let n := c.toNat
  if n = 0x0A then (1, .lineFeed)
  else if n = 0x5DC then (1, .lamed false)
  else if isAlef c then (1, .alef)
  else if khmerLetters.contains n then (1, .khmerLetter)
  else if n = 0x17D8 then (3, .plain)
  else if n = 0x1A10 then (1, .ya false)
  else if isTifinagh c then (1, .tifinagh false)
  else if inRange c 0xA4FC 0xA4FD then (1, .lisuTone)
  else if n = 0x10C03 then (1, .turkicI false)
  else if n = 0x16D67 then (1, .kiratRaiE)
  else if n = 0x16D68 then (1, .kiratRaiAi)
  else if isRegion c then (1, .region)
  else if inRange c 0x1F3FB 0x1F3FF then (2, .modifier)
  else if emojiPresentation.contains n then (2, .emoji)
  else if zeroWidth.contains n then (0, .plain)
  else if wide.contains n then (2, .plain)
  else (1, .plain)

/-- The columns that a character adds to what it joins with, if it does. -/
def joined (c : Char) (b : Behind) : Option (Int × Behind) :=
  let n := c.toNat
  match b with
  | .alef =>
    if isLam c then some (0, .plain)
    else if (alone c).1 = 0 && !barrierMarks.contains n then some (0, .alef)
    else none
  | .lamed true => if n = 0x5D0 then some (0, .plain) else none
  | .khmerLetter => if n = 0x17D2 then some (-1, .plain) else none
  | .ya true => if n = 0x1A17 then some (0, .vowelAndYa) else none
  | .vowelAndYa => if n = 0x1A15 then some (0, .plain) else none
  | .tifinagh joiner =>
    if n = 0x2D7F then some (1, .joinedTifinagh)
    else if joiner && isTifinagh c then some (0, .plain)
    else none
  | .joinedTifinagh => if isTifinagh c then some (-1, .plain) else none
  | .lisuTone => if inRange c 0xA4F8 0xA4FB then some (0, .plain) else none
  | .turkicI true => if n = 0x10C32 then some (0, .plain) else none
  | .kiratRaiE =>
    if n = 0x16D63 || n = 0x16D69 then some (0, .plain)
    else if n = 0x16D67 then some (0, .kiratRaiAi)
    else if n = 0x16D68 then some (1, .kiratRaiE)
    else none
  | .kiratRaiAi => if n = 0x16D63 then some (0, .plain) else none
  | .modifier =>
    if modifierBases.contains n then some (0, .emoji)
    else if n = 0x200D then some (0, .joinedEmoji)
    else none
  | .region => if isRegion c then some (1, .regions) else none
  | .regions =>
    if isRegion c then some (1, .regions)
    else if n = 0x200D then some (0, .joinedEmoji)
    else none
  | .emoji => if n = 0x200D then some (0, .joinedEmoji) else none
  | .joinedEmoji =>
    if n = 0x20E3 then some (0, .joinedKeycap)
    else if isRegion c then some (1, .joinedRegion)
    else if inRange c 0x1F3FB 0x1F3FF then some (0, .modifier)
    else if n = 0xE007F then some (0, .joinedTags 0)
    else if (alone c).2 = .emoji then some (0, .emoji)
    else none
  | .joinedRegion => if isRegion c then some (-1, .joinedEvenRegions) else none
  | .joinedOddRegions =>
    if isRegion c then some (-1, .joinedEvenRegions)
    else if n = 0x200D then some (0, .joinedEmoji)
    else none
  | .joinedEvenRegions =>
    if isRegion c then some (3, .joinedOddRegions)
    else if n = 0x200D then some (0, .joinedEmoji)
    else none
  | .joinedTags letters =>
    if inRange c 0xE0061 0xE007A && letters < 6 then some (0, .joinedTags (letters + 1))
    else if n = 0x1F3F4 && 3 ≤ letters then some (0, .emoji)
    else none
  | _ => none

/-- The columns that a character adds in front of what stands behind it. -/
def widthIn (c : Char) (x : Context) : Int × Context :=
  let n := c.toNat
  if x.selector = .emoji && emojiBases.contains n then
    (if x.behind.isJoinedEmoji then 0 else 2, ⟨.emoji, .none⟩)
  else
    let x := if x.selector = .emoji then ⟨x.behind.unselected, .none⟩ else x
    if n ≤ 0xA0 then
      if n = 0x0A then (1, ⟨.lineFeed, .none⟩)
      else if n = 0x0D && x = ⟨.lineFeed, .none⟩ then (0, .plain)
      else (1, .plain)
    else if n = 0xFE0F then
      let kept := x.behind.isLetter || x.behind.isJoinedEmoji
      (0, ⟨if kept then x.behind else .plain, .emoji⟩)
    else if n = 0xFE0E then
      (0, ⟨if x.behind.isLetter then x.behind else .plain, .text⟩)
    else if x.selector = .text && textBases.contains n then (1, .plain)
    else
      let behind := if x.selector = .text then x.behind.unselected else x.behind
      if behind.isTransparent && n = 0x200D then (0, ⟨behind.withJoiner, .none⟩)
      else if behind.isTransparent && isIgnorableMark c then (0, ⟨behind, .none⟩)
      else
        let (w, b) := (joined c behind).getD (alone c)
        (w, ⟨b, .none⟩)

/-- The columns of a text. It is measured from its end, since what stands behind a character decides
whether the two join. -/
def displayWidth (cs : List Char) : Nat :=
  let (sum, _) := cs.foldr (fun c (sum, x) => let (w, x) := widthIn c x; (sum + w, x))
    ((0 : Int), Context.plain)
  sum.toNat

end FeatureLint.Text
