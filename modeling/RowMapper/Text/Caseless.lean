import RowMapper.Text.Blank

/-!
# Caseless letters

SQL keywords are read without regard to case. A letter is folded to the ASCII capital it stands
for; besides the ASCII letters themselves four others fold to one: the long s, the Kelvin sign,
the dotless i and the dotted capital I.
-/

namespace RowMapper.Text

/-- The ASCII capital that a letter stands for when case is disregarded. -/
def foldLetter? (c : Char) : Option Char :=
  if c.isAlpha then some c.toUpper
  else if c = 'ſ' then some 'S'
  else if c = '\u212a' then some 'K'
  else if c = 'ı' || c = 'İ' then some 'I'
  else none

/-- Whether a character is some ASCII letter when case is disregarded. -/
def isCaselessLetter (c : Char) : Bool :=
  (foldLetter? c).isSome

/-- The capital of a letter in the sense of a plain capitalisation. Of the letters that fold to
an ASCII capital the Kelvin sign and the dotted capital I are capitals already and stay. -/
def capital (c : Char) : Char :=
  if c.isAlpha then c.toUpper
  else if c = 'ſ' then 'S'
  else if c = 'ı' then 'I'
  else c

/-- What follows a keyword, given by its capitals, at the front of a text. -/
def dropKeyword? : List Char → List Char → Option (List Char)
  | [], cs => some cs
  | _ :: _, [] => none
  | k :: ks, c :: cs => if foldLetter? c = some k then dropKeyword? ks cs else none

/-- What follows the blanks at the front of a text, of which there must be one at least. -/
def dropBlanks? : List Char → Option (List Char)
  | [] => none
  | c :: cs => if isBlank c then some (trimStart cs) else none

/-- What follows a phrase: keywords with blanks between them. -/
def dropPhrase? : List String → List Char → Option (List Char)
  | [], cs => some cs
  | [word], cs => dropKeyword? word.toList cs
  | word :: words, cs => do
      dropPhrase? words (← dropBlanks? (← dropKeyword? word.toList cs))

end RowMapper.Text
