import LiveRange.Finding
import LiveRange.Proofs.Entry.Relaid
import LiveRange.Proofs.LocationList.Relaid
import LiveRange.Proofs.SourceTable.Relaid
import Mathlib.Logic.Relation

/-! What three dumps say of a variable does not depend on their layout. -/

namespace LiveRange

/-- The layout of one of the dumps is changed in one place. -/
inductive Dumps.Relaid : Dumps → Dumps → Prop
  | lines {dumps : Dumps} {lines : Text} (one : dumps.lines.Relaid lines) :
      Relaid dumps { dumps with lines }
  | info {dumps : Dumps} {info : Text} (one : dumps.info.Relaid info) :
      Relaid dumps { dumps with info }
  | locations {dumps : Dumps} {locations : Text} (one : dumps.locations.Relaid locations) :
      Relaid dumps { dumps with locations }

namespace Dumps

/-- The dumps hold the same lines, blank lines and the blanks around the others left out. -/
structure SameLines (dumps other : Dumps) : Prop where
  lines : dumps.lines.trimmedLines = other.lines.trimmedLines
  info : dumps.info.trimmedLines = other.info.trimmedLines
  locations : dumps.locations.trimmedLines = other.locations.trimmedLines

variable {dumps other : Dumps}

theorem sameLines_of_relaid (one : Relaid dumps other) : SameLines dumps other := by
  cases one with
  | lines one => exact ⟨Text.trimmedLines_of_relaid one, rfl, rfl⟩
  | info one => exact ⟨rfl, Text.trimmedLines_of_relaid one, rfl⟩
  | locations one => exact ⟨rfl, rfl, Text.trimmedLines_of_relaid one⟩

theorem finding_of_sameLines (same : SameLines dumps other) (source : Path) (line : UInt64) :
    dumps.finding source line = other.finding source line := by
  apply finding_congr
  · exact SourceTable.ofLineDump_of_trimmedLines same.lines
  · exact Declaration.find?_of_trimmedLines same.info
  · exact LocationList.ranges_of_trimmedLines same.locations

/-- Blanks at the ends of lines, blank lines and carriage returns may come and go in any place, one
after another. -/
theorem finding_of_relayings (relaid : Relation.EqvGen Relaid dumps other) (source : Path)
    (line : UInt64) : dumps.finding source line = other.finding source line := by
  induction relaid with
  | rel dumps other one => exact finding_of_sameLines (sameLines_of_relaid one) source line
  | refl dumps => rfl
  | symm dumps other _ ih => exact ih.symm
  | trans dumps middle other _ _ first second => exact first.trans second

/-- A variable whose only range stands below the view pair of a list, and whose location stands
below its declaration line. -/
def viewDumps (feed margin gap : Text → Text) : Dumps where
  lines := " Offset: 0x44\n The Directory Table\n".toList ++ (" 1 /src".toList ++
    feed ('\n' :: " The File Name Table\n 1 1 0 0 main.c\n".toList))
  info := ("<b> DW_AT_stmt_list : 0x44\n <1><c>: Abbrev Number: 2\n<d> DW_AT_decl_file : 1\n" ++
      "<e> DW_AT_decl_line : 12\n").toList ++
    (margin "<f> DW_AT_location : 0x8 (location list)".toList ++ ['\n'])
  locations := "00000008 v0 v0 views at 00000000 for:\n".toList ++
    gap " 1000 10ac (DW_OP_reg0)\n".toList

def spacedDumps : Dumps :=
  viewDumps ('\r' :: ·) (['\u3000'] ++ · ++ ['\u00A0']) ([' ', '\t'] ++ '\n' :: ·)

theorem finding_of_relayings_spacedDumps :
    Relation.EqvGen Relaid (viewDumps id id id) spacedDumps ∧
      (viewDumps id id id).finding "/src/main.c".toList 12 =
        spacedDumps.finding "/src/main.c".toList 12 := by
  have returned : Relaid (viewDumps id id id) (viewDumps ('\r' :: ·) id id) :=
    .lines (.returned ⟨by decide +kernel, by decide +kernel, by decide +kernel⟩)
  have indented : Relaid (viewDumps ('\r' :: ·) id id)
      (viewDumps ('\r' :: ·) (['\u3000'] ++ · ++ ['\u00A0']) id) :=
    .info (.margins ⟨by decide +kernel, by decide +kernel, by decide +kernel⟩ (by decide)
      (by decide) (by decide))
  have spaced : Relaid (viewDumps ('\r' :: ·) (['\u3000'] ++ · ++ ['\u00A0']) id) spacedDumps :=
    .locations (.blankLine (by decide +kernel) (by decide) (by decide))
  have relaid : Relation.EqvGen Relaid (viewDumps id id id) spacedDumps :=
    .trans _ _ _ (.trans _ _ _ (.rel _ _ returned) (.rel _ _ indented)) (.rel _ _ spaced)
  exact ⟨relaid, finding_of_relayings relaid "/src/main.c".toList 12⟩

end Dumps

end LiveRange
