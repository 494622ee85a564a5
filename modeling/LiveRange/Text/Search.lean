import LiveRange.Text.Blank

/-! Fixed marks at the start of a text or anywhere in it. -/

namespace LiveRange.Text

/-- What follows `mark` at the start of the text. -/
def after? (mark : String) (text : Text) : Option Text := mark.toList.isPrefixOf? text

def startsWith (mark : String) (text : Text) : Bool := mark.toList.isPrefixOf text

/-- Whether `mark` stands anywhere in the text. -/
def mentions (mark : String) : Text → Bool
  | [] => startsWith mark []
  | c :: rest => startsWith mark (c :: rest) || mentions mark rest

/-- What follows the longest run of characters in the class at the start of the text, when that
run is not empty. -/
def afterRun? (inRun : Char → Bool) : Text → Option Text
  | [] => none
  | c :: rest => if inRun c then some (rest.dropWhile inRun) else none

theorem startsWith_iff {mark : String} {text : Text} :
    text.startsWith mark = true ↔ mark.toList <+: text := by
  simp [startsWith]

theorem mentions_iff {mark : String} {text : Text} :
    text.mentions mark = true ↔ mark.toList <:+: text := by
  induction text with
  | nil => simp [mentions, startsWith]
  | cons c rest ih => simp [mentions, ih, startsWith_iff, List.infix_cons_iff]

end LiveRange.Text
