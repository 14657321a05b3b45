import LS8.Text.LineBreak.Table

/-!
# Where a line may end

The line breaking rules of the Unicode standard for the places between characters. Numbers are kept
together pair by pair, brackets are treated alike in all scripts, and no dictionary of any language
is asked.

* `breakClass`: the class of a character;
* `BreakClass.staysAcross`, `BreakClass.staysBeside`: characters that stay on one line, with spaces
  between them or without;
* `BreakContext`, `BreakContext.after`: what a line that has been read so far is known by;
* `BreakContext.allows`: whether a line may end before a character of this class.
-/

set_option autoImplicit false

namespace LS8

/-- The class of a character. In the block of Hangul syllables, every twenty-eighth ends with a
vowel. -/
def breakClass (c : Char) : BreakClass :=
  if 0xac00 ≤ c.toNat ∧ c.toNat ≤ 0xd7a3 then
    if (c.toNat - 0xac00) % 28 = 0 then .syllableOpen else .syllableClosed
  else
    match breakSets.find? (·.2.contains c) with
    | some entry => entry.1
    | none => .alphabetic

namespace BreakClass

/-- Whether a line ends after the character, whatever follows. -/
def endsLine (k : BreakClass) : Bool := [mandatory, carriageReturn, lineFeed, nextLine].contains k

/-- Whether the character belongs to the one before it. -/
def joins (k : BreakClass) : Bool := [combiningMark, zeroWidthJoiner].contains k

/-- The characters that end a bracket, a clause or a part of a number. -/
def closing : List BreakClass :=
  [closePunctuation, closeParenthesis, exclamation, infixNumeric, solidus]

/-- Letters. -/
def letters : List BreakClass := [alphabetic, hebrewLetter]

/-- The letters and the syllables of Hangul. -/
def hangul : List BreakClass := [leadingJamo, vowelJamo, trailingJamo, syllableOpen, syllableClosed]

/-- Ideographs and emoji. -/
def pictures : List BreakClass := [ideographic, emojiBase, emojiModifier]

/-- Whether two characters stay on one line even if there are spaces between them. -/
def staysAcross (last next : BreakClass) : Bool :=
  next = wordJoiner || closing.contains next || last = openPunctuation
    || (last = quotation && next = openPunctuation)
    || ([closePunctuation, closeParenthesis].contains last && next = nonstarter)
    || (last = breakBoth && next = breakBoth)

/-- Classes of which the first stay on one line with the second right after them. -/
def pairs : List (List BreakClass × List BreakClass) :=
  [(letters, [numeric]), ([numeric], letters),
   ([prefixNumeric], pictures), (pictures, [postfixNumeric]),
   ([prefixNumeric, postfixNumeric], letters), (letters, [prefixNumeric, postfixNumeric]),
   ([closePunctuation, closeParenthesis, numeric], [prefixNumeric, postfixNumeric]),
   ([prefixNumeric, postfixNumeric], [openPunctuation, numeric]),
   ([hyphen, infixNumeric, numeric, solidus], [numeric]),
   ([leadingJamo], [leadingJamo, vowelJamo, syllableOpen, syllableClosed]),
   ([vowelJamo, syllableOpen], [vowelJamo, trailingJamo]),
   ([trailingJamo, syllableClosed], [trailingJamo]),
   (hangul, [postfixNumeric]), ([prefixNumeric], hangul),
   (letters, letters), ([infixNumeric], letters),
   (numeric :: letters, [openPunctuation]), ([closeParenthesis], numeric :: letters),
   ([emojiBase], [emojiModifier]), ([solidus], [hebrewLetter])]

/-- Whether two characters stay on one line if nothing stands between them. -/
def staysBeside (last next : BreakClass) : Bool :=
  if last = wordJoiner || last = glue || last = quotation || next = quotation then true
  else if next = glue then !([breakAfter, hyphen].contains last)
  else if last = contingent || next = contingent then false
  else
    last = breakBefore || [breakAfter, hyphen, nonstarter, inseparable].contains next
      || pairs.any fun pair => pair.1.contains last && pair.2.contains next

end BreakClass

open BreakClass

/-- What is known of a text that has been read up to some place. -/
structure BreakContext where
  /-- The class of the last character that is no space and joins no other. At the start of a text,
  all is as after a letter. -/
  last : BreakClass := .alphabetic
  /-- Whether spaces follow that character. -/
  spaced : Bool := false
  /-- Whether the text ends with a joiner. -/
  joined : Bool := false
  /-- Whether the last character is a hyphen after a Hebrew letter. -/
  hebrewHyphen : Bool := false
  /-- Whether the last character is the first half of a flag. -/
  halfFlag : Bool := false
deriving DecidableEq

namespace BreakContext

/-- Whether a character that joins the one before it finds one here. -/
def carries (k : BreakContext) : Bool :=
  !k.spaced && !k.last.endsLine && k.last ≠ .zeroWidthSpace

/-- What is known after one more character. Spaces after the end of a line start a line. -/
def after (k : BreakContext) (next : BreakClass) : BreakContext :=
  if next = .space then { last := if k.last.endsLine then .space else k.last, spaced := true }
  else if next.joins then
    if k.carries then { k with joined := next = .zeroWidthJoiner }
    else { joined := next = .zeroWidthJoiner }
  else
    { last := next
      hebrewHyphen :=
        k.last = .hebrewLetter && !k.spaced && [.hyphen, .breakAfter].contains next
      halfFlag := next = .regionalIndicator && !k.halfFlag }

/-- Whether a line may end before a character that joins no other. -/
def allowsBase (k : BreakContext) (next : BreakClass) : Bool :=
  if staysAcross k.last next then false
  else if k.spaced then true
  else if k.hebrewHyphen && next ≠ .contingent then false
  else if k.halfFlag && next = .regionalIndicator then false
  else !staysBeside k.last next

/-- Whether a line may end before a character of this class. -/
def allows (k : BreakContext) (next : BreakClass) : Bool :=
  if k.last.endsLine then !(k.last = .carriageReturn && next = .lineFeed)
  else if next.endsLine || next = .space || next = .zeroWidthSpace then false
  else if k.last = .zeroWidthSpace then true
  else if k.joined then false
  else if next.joins then k.spaced && k.allowsBase .alphabetic
  else k.allowsBase next

end BreakContext

end LS8
