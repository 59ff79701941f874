import PageRouter.CodePoint.Mark
import PageRouter.CodePoint.Unassigned

/-!
# Quoted texts

A text that is shown to a developer stands between quotes, and what would not be visible in it is
written as an escape: quotes and backslashes behind a backslash, line ends, tabs and the null
character by their letters, and other characters that show nothing of their own by their code
points.
-/

namespace PageRouter.Text

/-- The code points beside marks without room and unassigned ones that show nothing of their own:
controls, blanks other than the space, signs of format, private use, and marks with room that are
part of the letter before them.  The half-width marks of Japanese sound do show. -/
def hidden : CodePoints := .read "
  0-1F 7F-A0 AD 600-605 61C 6DD 70F 890-891 8E2 9BE 9D7 B3E B57 BBE BD7 CC0 CC2 CC7-CC8 CCA-CCB
  CD5-CD6 D3E D57 DCF DDF 1680 1715 1734 180E 1B35 1B3B 1B3D 1B43-1B44 1BAA 1BF2-1BF3 2000-200F
  2028-202F 205F-2064 2066-206F 3000 302E-302F A953 A9C0 D800-F8FF FEFF FFF9-FFFB 110BD 110CD 111C0
  11235 1133E 1134D 11357 113B8 113C2 113C5 113C7-113C9 113CF 114B0 114BD 115AF 116B6 11930 1193D
  11F41 13430-1343F 16FF0-16FF1 1BCA0-1BCA3 1D165-1D166 1D16D-1D17A E0001 E0020-E007F F0000-FFFFD
  100000-10FFFD"

/-- Whether a character shows nothing of its own. -/
def isHidden (c : Char) : Bool :=
  !(' ' ≤ c && c ≤ '~') &&
    (hidden.contains c.toNat || CodePoint.isNonspacing c || CodePoint.isUnassigned c)

def quotedChar (c : Char) : Text :=
  if c = '"' ∨ c = '\\' then ['\\', c]
  else if c = '\n' then ['\\', 'n']
  else if c = '\r' then ['\\', 'r']
  else if c = '\t' then ['\\', 't']
  else if c = '\x00' then ['\\', '0']
  else if isHidden c then
    ['\\', 'u', '\x7b'] ++ Nat.toDigits 16 c.toNat ++ ['\x7d']
  else [c]

/-- **A text between quotes.** -/
def quoted (text : Text) : Text :=
  '"' :: (text.flatMap quotedChar ++ ['"'])

end PageRouter.Text
