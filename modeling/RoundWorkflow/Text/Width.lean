import RoundWorkflow.Text.Width.Tables

/-!
# Display width

A character takes one column of a terminal, two when it is a wide one of the East Asian
scripts or a pictograph, and none when it only marks another or formats the text.  But
what a character takes may also depend on the characters after it: a selector makes a
character a pictograph or a plain one, pictographs may be joined to a single one, and
letters of some scripts grow together.

So the width of a line is found from its end to its beginning.  What has been seen is
summed up in a `Follower`, which tells how the next character on the left is changed.
`displayWidth` is the number of columns of a text on one line.
-/

namespace RoundWorkflow.Text

/-- What begins after a place of a line, as far as a character before it may be changed. -/
inductive Follower where
  /-- Nothing that changes a character. -/
  | plain
  | lineFeed
  /-- A modifier of the colour of a pictograph. -/
  | modifier
  /-- One letter of the name of a region, or more of them. -/
  | regionLetter
  | regionLetters
  | pictograph
  /-- A joiner before a pictograph. -/
  | joiner
  /-- The mark of a key cap before a joiner. -/
  | joinedKeyCap
  /-- Letters of regions before a joiner: one, then an even and an odd number of them. -/
  | joinedRegionLetter
  | joinedEvenLetters
  | joinedOddLetters
  /-- The end of a tag before a joiner, and letters and digits of the tag. -/
  | tagEnd
  | tagLetters (count : Nat)
  | tagDigits (count : Nat)
  /-- An Arabic alef. -/
  | alef
  /-- A Hebrew lamed; the flag tells, here and below, whether a joiner comes before it. -/
  | lamed (joined : Bool)
  /-- A Khmer letter that may stand under another. -/
  | subscript
  /-- A Buginese ya, and one with a vowel sign before it. -/
  | ya (joined : Bool)
  | yaWithVowel (joined : Bool)
  /-- A Tifinagh consonant, and one with a joining mark before it. -/
  | consonant (joined : Bool)
  | markedConsonant (joined : Bool)
  /-- A Lisu tone letter that ends a pair. -/
  | toneLetter
  /-- An Old Turkic i. -/
  | orkhonI (joined : Bool)
  /-- A Kirat Rai vowel sign of one part, and one of two. -/
  | vowelSign
  | vowelSigns
  deriving DecidableEq, Repr, Inhabited

namespace Follower

/-- Whether a pictograph is joined to what follows. -/
def isJoined : Follower → Bool
  | joiner | joinedKeyCap | joinedRegionLetter | joinedEvenLetters | joinedOddLetters | tagEnd |
    tagLetters _ | tagDigits _ => true
  | _ => false

/-- Whether letters grow together with what follows. -/
def isLetter : Follower → Bool
  | alef | lamed _ | subscript | ya _ | yaWithVowel _ | consonant _ | markedConsonant _
  | toneLetter | orkhonI _ | vowelSign | vowelSigns => true
  | _ => false

/-- What follows with a joiner before it, if letters may be joined to it. -/
def join? : Follower → Option Follower
  | lamed _ => some (lamed true)
  | subscript => some subscript
  | ya _ => some (ya true)
  | yaWithVowel _ => some (yaWithVowel true)
  | consonant _ => some (consonant true)
  | markedConsonant _ => some (markedConsonant true)
  | toneLetter => some toneLetter
  | orkhonI _ => some (orkhonI true)
  | _ => none

end Follower

/-- What follows a place of a line. -/
structure Outlook where
  /-- What begins after the place, selectors left out. -/
  follower : Follower
  /-- Whether a selector of pictographs comes first. -/
  picture : Bool
  /-- Whether a selector of plain characters comes first. -/
  plainly : Bool
  deriving DecidableEq, Repr, Inhabited

namespace Outlook

/-- Before something and no selector. -/
def on (f : Follower) : Outlook := ⟨f, false, false⟩

/-- At the end of a line. -/
def nothing : Outlook := on .plain

/-- Before a selector of pictographs. -/
def selectPicture (o : Outlook) : Outlook :=
  if o.follower.isLetter || o.follower.isJoined then ⟨o.follower, true, o.plainly⟩ else
    ⟨.plain, true, false⟩

/-- Before a selector of plain characters. -/
def selectPlain (o : Outlook) : Outlook :=
  if o.follower.isLetter then ⟨o.follower, o.picture, true⟩ else ⟨.plain, false, true⟩

/-- Without a selector of pictographs that has nothing to select. -/
def dropPicture (o : Outlook) : Outlook :=
  if o.follower.isLetter then { o with picture := false } else nothing

end Outlook

/-- Whether a code point lies between two others. -/
def isWithin (n low high : Nat) : Bool := low ≤ n && n ≤ high

/-- Whether an alef after the letter grows together with it. -/
def isLam (n : Nat) : Bool :=
  n = 0x644 || isWithin n 0x6B5 0x6B8 || n = 0x76A || n = 0x8A6 || n = 0x8C7

/-- Whether the letter is an alef. -/
def isAlef (n : Nat) : Bool :=
  n = 0x622 || n = 0x623 || n = 0x625 || n = 0x627 || isWithin n 0x671 0x673 || n = 0x675 ||
    isWithin n 0x870 0x882

/-- Whether the letter is a Tifinagh consonant. -/
def isTifinagh (n : Nat) : Bool := isWithin n 0x2D31 0x2D65 || n = 0x2D6F

/-- Whether the character is a letter of the name of a region. -/
def isRegionLetter (n : Nat) : Bool := isWithin n 0x1F1E6 0x1F1FF

/-- Whether the character changes the colour of a pictograph. -/
def isModifier (n : Nat) : Bool := isWithin n 0x1F3FB 0x1F3FF

/-- Whether the character may stand between two letters that grow together. -/
def isPassedOver (n : Nat) : Bool :=
  n = 0x34F || isWithin n 0x17B4 0x17B5 || isWithin n 0x180B 0x180D || n = 0x180F || n = 0x200D ||
    isWithin n 0xFE00 0xFE0F || isWithin n 0xE0100 0xE01EF

/-- The columns of a character by itself. -/
def charWidth (n : Nat) : Nat :=
  if n ≤ 0xA0 then 1
  else if n = 0x17D8 then 3
  else if inRanges n zeroWidthRanges then 0
  else if inRanges n wideRanges then 2
  else 1

/-- What a character is for the one before it. -/
def outlookOf (n : Nat) : Outlook :=
  if n = 0xFE0F then ⟨.plain, true, false⟩
  else if n = 0xFE0E then ⟨.plain, false, true⟩
  else .on <|
    if isAlef n then .alef
    else if n = 0x5DC then .lamed false
    else if isWithin n 0x1780 0x17AF then .subscript
    else if n = 0x1A10 then .ya false
    else if isTifinagh n then .consonant false
    else if isWithin n 0xA4FC 0xA4FD then .toneLetter
    else if n = 0x10C03 then .orkhonI false
    else if n = 0x16D67 then .vowelSign
    else if n = 0x16D68 then .vowelSigns
    else if isRegionLetter n then .regionLetter
    else if isModifier n then .modifier
    else if inRanges n pictographRanges then .pictograph
    else .plain

/-- The columns that a character adds to letters it grows together with, and what comes of them. -/
def growth? (f : Follower) (n : Nat) : Option (Int × Outlook) :=
  match f with
  | .alef =>
    if isLam n then some (0, .nothing)
    else if inRanges n transparentRanges then some (0, .on .alef)
    else none
  | .lamed true => if n = 0x5D0 then some (0, .nothing) else none
  | .subscript => if n = 0x17D2 then some (-1, .nothing) else none
  | .ya true => if n = 0x1A17 then some (0, .on (.yaWithVowel false)) else none
  | .yaWithVowel false => if n = 0x1A15 then some (0, .nothing) else none
  | .consonant joined =>
    if n = 0x2D7F then some (1, .on (.markedConsonant false))
    else if joined && isTifinagh n then some (0, .nothing)
    else none
  | .markedConsonant false => if isTifinagh n then some (-1, .nothing) else none
  | .toneLetter => if isWithin n 0xA4F8 0xA4FB then some (0, .nothing) else none
  | .orkhonI true => if n = 0x10C32 then some (0, .nothing) else none
  | .vowelSign =>
    if n = 0x16D63 || n = 0x16D69 then some (0, .nothing)
    else if n = 0x16D67 then some (0, .on .vowelSigns)
    else if n = 0x16D68 then some (1, .on .vowelSign)
    else none
  | .vowelSigns => if n = 0x16D63 then some (0, .nothing) else none
  | _ => none

/-- The columns that a character adds to a pictograph it is a part of, and what comes of it. -/
def picture? (f : Follower) (n : Nat) : Option (Int × Outlook) :=
  let isTagLetter := isWithin n 0xE0061 0xE007A
  let isTagDigit := isWithin n 0xE0030 0xE0039
  let isFlag := n = 0x1F3F4
  let whole : Option (Int × Outlook) := some (0, .on .pictograph)
  match f with
  | .modifier =>
    if inRanges n modifiableRanges then whole
    else if n = 0x200D then some (0, .on .joiner)
    else none
  | .regionLetter => if isRegionLetter n then some (1, .on .regionLetters) else none
  | .regionLetters =>
    if isRegionLetter n then some (1, .on .regionLetters)
    else if n = 0x200D then some (0, .on .joiner)
    else none
  | .pictograph => if n = 0x200D then some (0, .on .joiner) else none
  | .joiner =>
    if n = 0x20E3 then some (0, .on .joinedKeyCap)
    else if isRegionLetter n then some (1, .on .joinedRegionLetter)
    else if isModifier n then some (0, .on .modifier)
    else if n = 0xE007F then some (0, .on .tagEnd)
    else if inRanges n pictographRanges then whole
    else none
  | .joinedRegionLetter => if isRegionLetter n then some (-1, .on .joinedEvenLetters) else none
  | .joinedOddLetters =>
    if isRegionLetter n then some (-1, .on .joinedEvenLetters)
    else if n = 0x200D then some (0, .on .joiner)
    else none
  | .joinedEvenLetters =>
    if isRegionLetter n then some (3, .on .joinedOddLetters)
    else if n = 0x200D then some (0, .on .joiner)
    else none
  | .tagEnd =>
    if isTagLetter then some (0, .on (.tagLetters 1))
    else if isTagDigit then some (0, .on (.tagDigits 1))
    else none
  | .tagLetters count =>
    if isTagLetter && count < 6 then some (0, .on (.tagLetters (count + 1)))
    else if isTagDigit && count < 5 then some (0, .on (.tagDigits 1))
    else if isFlag && 3 ≤ count then whole
    else none
  | .tagDigits count =>
    if isTagDigit && count < 3 then some (0, .on (.tagDigits (count + 1)))
    else if isFlag && count = 3 then whole
    else none
  | _ => none

/-- The columns that a character beyond ASCII adds to a line, and what it is for the one before it.
No selector that may change it comes after it. -/
def addWidth (f : Follower) (n : Nat) : Int × Outlook :=
  let passed : Option (Int × Outlook) :=
    f.join?.bind fun joined =>
      if n = 0x200D then some (0, .on joined) else if isPassedOver n then some (0, .on f) else none
  match passed <|> growth? f n <|> picture? f n with
  | some added => added
  | none => (charWidth n, outlookOf n)

/-- The columns that a character adds to a line, and what it is for the one before it. -/
def widthBefore (o : Outlook) (c : Char) : Int × Outlook :=
  let n := c.toNat
  if o.picture && inRanges n selectableRanges then
    (if o.follower.isJoined then 0 else 2, .on .pictograph)
  else
    let o := if o.picture then o.dropPicture else o
    if n ≤ 0xA0 then
      if c = '\n' then (1, .on .lineFeed)
      else if c = '\r' && o = .on .lineFeed then (0, .nothing)
      else (1, .nothing)
    else if o = .nothing then (charWidth n, outlookOf n)
    else if n = 0xFE0F then (0, o.selectPicture)
    else if n = 0xFE0E then (0, o.selectPlain)
    else if o.plainly && inRanges n narrowableRanges then (1, .nothing)
    else addWidth o.follower n

/-- The columns that the characters of a line take. -/
def displayWidth (cs : List Char) : Nat :=
  let (width, _) := cs.foldr (fun c (sum, o) =>
    let (added, o) := widthBefore o c
    (sum + added, o)) ((0 : Int), Outlook.nothing)
  width.toNat

end RoundWorkflow.Text
