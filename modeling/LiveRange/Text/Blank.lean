/-! Texts as lists of characters, and the blanks that separate their words. -/

namespace LiveRange

abbrev Text := List Char

/-- The characters with the Unicode property White_Space. -/
def isBlank (c : Char) : Bool :=
  let code := c.toNat
  (9 ≤ code && code ≤ 13) || code == 0x20 || code == 0x85 || code == 0xA0 || code == 0x1680 ||
    (0x2000 ≤ code && code ≤ 0x200A) || code == 0x2028 || code == 0x2029 || code == 0x202F ||
    code == 0x205F || code == 0x3000

namespace Text

def trimStart (text : Text) : Text := text.dropWhile isBlank

def trimEnd (text : Text) : Text := (text.reverse.dropWhile isBlank).reverse

def trim (text : Text) : Text := text.trimStart.trimEnd

/-- The maximal runs of characters that are not blank. -/
def words (text : Text) : List Text := (text.splitOnP isBlank).filter (· ≠ [])

/-- At most `limit` words of a row. The last field keeps what remains of the row, blanks inside
it included. A limit of zero counts as one. -/
def fields : Nat → Text → List Text
  | limit + 2, row =>
    match row.trimStart with
    | [] => []
    | first :: rest =>
      (first :: rest).takeWhile (!isBlank ·) ::
        fields (limit + 1) ((first :: rest).dropWhile (!isBlank ·))
  | _, row => if row.trim = [] then [] else [row.trim]

end Text

end LiveRange
