/-!
# Blanks and lines

Blanks are the characters with the white space property: the ASCII controls from tab to carriage
return, the space, and the wider and narrower spaces and separators beyond ASCII.

Everything here works on lists of characters and is a plain combination of list functions.
-/

namespace GroundLink.Text

/-- Whether a character is a blank. -/
def isBlank (c : Char) : Bool :=
  let n := c.toNat
  (9 ≤ n && n ≤ 13) || n = 0x20 || n = 0x85 || n = 0xA0 || n = 0x1680 ||
    (0x2000 ≤ n && n ≤ 0x200A) || n = 0x2028 || n = 0x2029 || n = 0x202F || n = 0x205F ||
    n = 0x3000

def trimStart (cs : List Char) : List Char :=
  cs.dropWhile isBlank

def trim (cs : List Char) : List Char :=
  (trimStart (trimStart cs).reverse).reverse

/-- Cuts a text at the first blank, which belongs to neither part.  Without a blank the second part
is empty. -/
def cutAtBlank (cs : List Char) : List Char × List Char :=
  (cs.takeWhile (!isBlank ·), (cs.dropWhile (!isBlank ·)).drop 1)

/-- Adds a character in front of the first of a list of words, where the first one may still be
empty. -/
def glue (c : Char) : List (List Char) → List (List Char)
  | [] => [[c]]
  | w :: ws => (c :: w) :: ws

/-- Cuts a text at each character of a class.  There is one piece more than such characters. -/
def splitAt (p : Char → Bool) : List Char → List (List Char)
  | [] => [[]]
  | c :: cs => if p c then [] :: splitAt p cs else glue c (splitAt p cs)

/-- The words of a text: its longest parts without blanks. -/
def words (cs : List Char) : List (List Char) :=
  (splitAt isBlank cs).filter (!·.isEmpty)

def lines (cs : List Char) : List (List Char) :=
  splitAt (· = '\n') cs

end GroundLink.Text
