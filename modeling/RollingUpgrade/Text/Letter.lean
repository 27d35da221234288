namespace RollingUpgrade.Text

-- The lower-case form of a character where that form is ASCII, else the character. Beside the
-- capitals A to Z only the Kelvin sign has such a form.
def lowerAscii (c : Char) : Char := if c = '\u212a' then 'k' else c.toLower

-- Whether the lower-case form of `s` is `word`, a word in ASCII lower case.
def isWordInAnyCase (word s : String) : Bool := s.toList.map lowerAscii == word.toList

-- The text with the letters A to Z made small, and no others.
def lowerLatin (s : String) : String := s.map Char.toLower

end RollingUpgrade.Text
