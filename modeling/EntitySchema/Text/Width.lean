import EntitySchema.Text.Columns
import EntitySchema.Text.Emoji

/-!
# Text/Width — the number of terminal columns a text takes

The columns of a line are those of its characters (`charWidth`), but for sequences that show as one:
emoji tied together by joiners, flags, emoji with a skin tone or a selector, and pairs of letters that
several scripts write as one.  A character that ends such a sequence is known before the characters in
front of it are looked at, so a line is walked from its end to its front: `step` gives the columns that
a character adds to what stands behind it, and `Behind` is as much of that as the next character has
to know.  A character may add less than none, where the ones behind it had been counted too high.
-/

namespace EntitySchema.Text

/-- Letters with which another letter in front can make one sign. -/
inductive Ligature
  /-- Hebrew lamed, joined to an alef. -/
  | lamed
  /-- Buginese ya, joined to the vowel i of an a. -/
  | ya
  /-- The vowel i of a Buginese ya. -/
  | yaVowel
  /-- A Tifinagh consonant. -/
  | consonant
  /-- A Tifinagh consonant and the mark that binds another to it. -/
  | boundConsonant
  /-- A Lisu tone letter that ends a pair. -/
  | tone
  /-- Old Turkic orkhon i. -/
  | orkhonI
  /-- A Khmer letter that can stand below another. -/
  | subscript
  deriving DecidableEq, Repr

/-- How the text behind a character begins. -/
inductive Opening
  /-- With nothing that matters. -/
  | plain
  | lineFeed
  /-- An Arabic alef. -/
  | alef
  /-- Such a letter, and whether a joiner stands in front of it. -/
  | letter (l : Ligature) (joined : Bool)
  /-- Kirat Rai vowels that others can be written with. -/
  | vowelE
  | vowelAi
  | skinTone
  | regional
  /-- Two regional indicators or more. -/
  | regionals
  | emoji
  /-- A joiner and an emoji; all below are sequences in front of these two. -/
  | joinedEmoji
  /-- The mark that puts a digit into a key. -/
  | joinedKeycap
  | joinedRegional
  | evenRegionals
  /-- An odd number of regional indicators, three or more. -/
  | oddRegionals
  /-- The end of a flag's tag, with some of its letters. -/
  | tagLetters (count : Nat)
  /-- The end of a flag's tag, with some of its digits. -/
  | tagDigits (count : Nat)
  deriving DecidableEq, Repr

/-- Characters that select how the one in front of them shows. -/
inductive Selector
  | text
  | emoji
  /-- A quotation mark two columns wide. -/
  | fullWidth
  deriving DecidableEq, Repr

/-- What a character has to know of the text behind it: how it begins, but for a selector, and which
selector that is. -/
structure Behind where
  opening : Opening
  selector : Option Selector
  deriving DecidableEq, Repr

/-! ## Classes of characters -/

/-- Does `c` lie between two code points? -/
def isWithin (first last : Nat) (c : Char) : Bool := first ≤ c.toNat && c.toNat ≤ last

/-- Is `c` the joiner? -/
def isJoiner (c : Char) : Bool := c.toNat = 0x200D

/-- The selector that `c` is. -/
def selector? (c : Char) : Option Selector :=
  if c.toNat = 0xFE0E then some .text
  else if c.toNat = 0xFE0F then some .emoji
  else if c.toNat = 0xFE01 then some .fullWidth
  else none

/-- Is `c` a curly quotation mark? -/
def isQuotationMark (c : Char) : Bool :=
  isWithin 0x2018 0x2019 c || isWithin 0x201C 0x201D c

/-- Arabic letters of the group of alef. -/
def alefIntervals : List (Nat × Nat) := [
  (0x622, 0x623), (0x625, 0x625), (0x627, 0x627), (0x671, 0x673), (0x675, 0x675), (0x773, 0x774),
  (0x870, 0x882)]

/-- Arabic letters of the group of lam. -/
def lamIntervals : List (Nat × Nat) := [
  (0x644, 0x644), (0x6B5, 0x6B8), (0x76A, 0x76A), (0x8A6, 0x8A6), (0x8C7, 0x8C7)]

/-- Khmer letters that can stand below another. -/
def subscriptIntervals : List (Nat × Nat) := [
  (0x1780, 0x1782), (0x1784, 0x1787), (0x1789, 0x178C), (0x178E, 0x1793), (0x1795, 0x1798),
  (0x179B, 0x179D), (0x17A0, 0x17A0), (0x17A2, 0x17A2), (0x17A7, 0x17A7), (0x17AB, 0x17AC),
  (0x17AF, 0x17AF)]

/-- Marks that may stand inside a ligature. -/
def ligatureMarks : List (Nat × Nat) := [
  (0x34F, 0x34F), (0x17B4, 0x17B5), (0x180B, 0x180D), (0x180F, 0x180F), (0x200D, 0x200D),
  (0xFE00, 0xFE0F), (0xE0100, 0xE01EF)]

/-- Is `c` a Tifinagh consonant? -/
def isTifinaghConsonant (c : Char) : Bool := isWithin 0x2D31 0x2D65 c || c.toNat = 0x2D6F

/-- The ligature that `c` may end. -/
def ligature? (c : Char) : Option Ligature :=
  if c.toNat = 0x5DC then some .lamed
  else if c.toNat = 0x1A10 then some .ya
  else if isTifinaghConsonant c then some .consonant
  else if isWithin 0xA4FC 0xA4FD c then some .tone
  else if c.toNat = 0x10C03 then some .orkhonI
  else if inIntervals subscriptIntervals c.toNat then some .subscript
  else none

/-- How a text begins that begins with `c`. -/
def Opening.ofChar (c : Char) : Opening :=
  match ligature? c with
  | some l => .letter l false
  | none =>
    if inIntervals alefIntervals c.toNat then .alef
    else if c.toNat = 0x16D67 then .vowelE
    else if c.toNat = 0x16D68 then .vowelAi
    else if isTone c then .skinTone
    else if isRegional c then .regional
    else if isEmoji c then .emoji
    else .plain

/-! ## Selectors -/

/-- Is a letter there that may be part of a ligature? -/
def Opening.isLetter : Opening → Bool
  | .alef => true
  | .letter _ _ => true
  | _ => false

/-- Does a joiner tie an emoji to the next? -/
def Opening.isJoined : Opening → Bool
  | .joinedEmoji => true
  | .joinedKeycap => true
  | _ => false

/-- Puts a selector in front: letters are seen through it, and by the one for emoji joined emoji too. -/
def Behind.select (b : Behind) (s : Selector) : Behind :=
  ⟨if b.opening.isLetter || (s = .emoji && b.opening.isJoined) then b.opening else .plain, some s⟩

/-- What is behind a character that the selector for emoji does not suit. -/
def Behind.unselected (b : Behind) : Behind :=
  if b.selector = some .emoji then ⟨if b.opening.isLetter then b.opening else .plain, none⟩ else b

/-! ## Sequences -/

/-- The columns that `c` adds in front of a letter, if they make one sign. -/
def Ligature.step? (c : Char) (joined : Bool) : Ligature → Option (Int × Opening)
  | .lamed => if joined && c.toNat = 0x5D0 then some (0, .plain) else none
  | .ya => if joined && c.toNat = 0x1A17 then some (0, .letter .yaVowel true) else none
  | .yaVowel => if c.toNat = 0x1A15 then some (0, .plain) else none
  | .consonant =>
    if c.toNat = 0x2D7F then some (1, .letter .boundConsonant true)
    else if joined && isTifinaghConsonant c then some (0, .plain)
    else none
  | .boundConsonant => if isTifinaghConsonant c then some (-1, .plain) else none
  | .tone => if isWithin 0xA4F8 0xA4FB c then some (0, .plain) else none
  | .orkhonI => if joined && c.toNat = 0x10C32 then some (0, .plain) else none
  | .subscript => if c.toNat = 0x17D2 then some (-1, .plain) else none

/-- The opening of a joiner in front of an emoji. -/
def joinedBy (c : Char) : Option (Int × Opening) :=
  if isJoiner c then some (0, .joinedEmoji) else none

/-- The columns that `c` adds in front of an opening, if the two belong together, and the opening that
they make. -/
def Opening.step? (c : Char) : Opening → Option (Int × Opening)
  | .plain => none
  | .lineFeed => none
  | .alef =>
    if inIntervals lamIntervals c.toNat then some (0, .plain)
    else if isTransparent c then some (0, .alef)
    else none
  | .letter l joined =>
    if isJoiner c then some (0, .letter l true)
    else if inIntervals ligatureMarks c.toNat then some (0, .letter l joined)
    else l.step? c joined
  | .vowelE =>
    if c.toNat = 0x16D63 || c.toNat = 0x16D69 then some (0, .plain)
    else if c.toNat = 0x16D67 then some (0, .vowelAi)
    else if c.toNat = 0x16D68 then some (1, .vowelE)
    else none
  | .vowelAi => if c.toNat = 0x16D63 then some (0, .plain) else none
  | .skinTone => if isToneBase c then some (0, .emoji) else joinedBy c
  | .regional => if isRegional c then some (1, .regionals) else none
  | .regionals => if isRegional c then some (1, .regionals) else joinedBy c
  | .emoji => joinedBy c
  | .joinedEmoji =>
    if c.toNat = 0x20E3 then some (0, .joinedKeycap)
    else if isRegional c then some (1, .joinedRegional)
    else if isTone c then some (0, .skinTone)
    else if c.toNat = 0xE007F then some (0, .tagLetters 0)
    else if Opening.ofChar c = .emoji then some (0, .emoji)
    else none
  | .joinedKeycap => none
  | .joinedRegional => if isRegional c then some (-1, .evenRegionals) else none
  | .evenRegionals => if isRegional c then some (3, .oddRegionals) else joinedBy c
  | .oddRegionals => if isRegional c then some (-1, .evenRegionals) else joinedBy c
  | .tagLetters count =>
    if isWithin 0xE0061 0xE007A c && count < 6 then some (0, .tagLetters (count + 1))
    else if isWithin 0xE0030 0xE0039 c && count ≤ 4 then some (0, .tagDigits 1)
    else if c.toNat = 0x1F3F4 && 3 ≤ count then some (0, .emoji)
    else none
  | .tagDigits count =>
    if isWithin 0xE0030 0xE0039 c && count < 3 then some (0, .tagDigits (count + 1))
    else if c.toNat = 0x1F3F4 && count = 3 then some (0, .emoji)
    else none

/-! ## Lines -/

/-- The columns that `c` adds in front of what is behind it, and what then is behind the next. -/
def Behind.step (c : Char) (b : Behind) : Int × Behind :=
  if b.selector = some .emoji && canBeEmoji c then
    (if b.opening.isJoined then 0 else 2, ⟨.emoji, none⟩)
  else
    let b := b.unselected
    if c = '\n' then (1, ⟨.lineFeed, none⟩)
    else if c = '\r' && b.opening = .lineFeed then (0, ⟨.plain, none⟩)
    else if c.toNat ≤ 0xA0 then (1, ⟨.plain, none⟩)
    else
      match selector? c with
      | some s => (0, b.select s)
      | none =>
        if b.selector = some .text && canBeText c then (1, ⟨.plain, none⟩)
        else if b.selector = some .fullWidth && isQuotationMark c then (2, ⟨.plain, none⟩)
        else
          match b.opening.step? c with
          | some (columns, opening) => (columns, ⟨opening, none⟩)
          | none => (charWidth c, ⟨.ofChar c, none⟩)

/-- The columns of characters, and what is behind a character in front of them. -/
def walkBack (cs : List Char) : Int × Behind :=
  cs.foldr
    (fun c r =>
      let s := r.2.step c
      (r.1 + s.1, s.2))
    (0, ⟨.plain, none⟩)

/-- The columns that one line of text takes. -/
def width (s : String) : Nat := (walkBack s.toList).1.toNat

end EntitySchema.Text
