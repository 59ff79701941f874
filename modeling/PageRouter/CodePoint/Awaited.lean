import PageRouter.CodePoint.Table

/-!
# Awaited characters

Unicode grows, and names may hold characters that have come after Unicode 17.  What is known of them
here is where they stand: in blocks of their own, and in free stretches of blocks that are being
filled.  A stretch is taken as a whole, because which of its code points get a character is not for
this library to say.

What a character will be — a mark, a sign, or a letter — is enough to judge a name that holds it.
-/

namespace PageRouter.CodePoint

/-- The stretches of marks: those of Hebrew, of Oriya, of phonetic notation and of Arabic. -/
def awaitedMarks : CodePoints := .read "
  5C8-5CF B54 1ADE-1ADF 1AEC-1AFF 10ECB 10EF0-10EF9"

/-- The stretches of signs: currencies, punctuation, symbols of older computers, of divination, of
music and of arrows, and pictures. -/
def awaitedSigns : CodePoints := .read "
  20C2-20CF 2E5E-2E7F 1CCFD-1CCFF 1CEB4-1CEB9 1CED1-1CEDF 1CEF1-1CEFF 1D1EB-1D1FF 1DB00-1DBFF 1F6D9
  1FA8B-1FA8D 1FACB 1FADD 1FAEB 1FAF9-1FAFA"

/-- The stretches of letters, numerals and notes: those of Bengali, of phonetic notation, of
Devanagari, cuneiform, Chisoi, Khitan, Tangut, Jurchen, Japanese and the seal script, and of music.
-/
def awaitedLetters : CodePoints := .read "
  9FF 208F 11B0A-11B5F 1239A-123FF 1246F 12475-1247F 12544-1268F 16D80-16DAF 18CD6-18CFE 18D1F-18D7F
  18E00-191DF 1B123-1B131 1B168-1B16F 1D127-1D128 1D246-1D28F 1DF1F-1DF24 1DF2B-1DFFF 3D000-3FC3F"

/-- Whether a code point is set aside for a character that names may hold. -/
def isAwaited (c : Char) : Bool :=
  awaitedMarks.contains c.toNat || awaitedSigns.contains c.toNat || awaitedLetters.contains c.toNat

end PageRouter.CodePoint
