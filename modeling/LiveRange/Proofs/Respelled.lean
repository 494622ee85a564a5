import LiveRange.Finding
import LiveRange.Proofs.Entry.Respelled
import LiveRange.Proofs.LocationList.Respelled
import LiveRange.Proofs.SourceTable.Respelled
import Mathlib.Logic.Relation

/-! What three dumps say of a variable does not depend on how their numbers are spelled. -/

namespace LiveRange

/-- One number of one of the dumps is spelled another way. What has no mark is hexadecimal in a dump
of location lists, and decimal in the other two. -/
inductive Dumps.Respelled : Dumps → Dumps → Prop
  | lines {dumps : Dumps} {lines : Text}
      (one : Numeral.RespelledAt .decimal SourceTable.NumberAt dumps.lines lines) :
      Respelled dumps { dumps with lines }
  | info {dumps : Dumps} {info : Text}
      (one : Numeral.RespelledAt .decimal Declaration.NumberAt dumps.info info) :
      Respelled dumps { dumps with info }
  | locations {dumps : Dumps} {locations : Text}
      (one : Numeral.RespelledAt .hexadecimal LocationList.NumberAt dumps.locations locations) :
      Respelled dumps { dumps with locations }

namespace Dumps

theorem finding_of_respelled {dumps other : Dumps} (one : Respelled dumps other) (source : Path)
    (line : UInt64) : dumps.finding source line = other.finding source line := by
  cases one with
  | lines one =>
      apply finding_congr
      · exact SourceTable.ofLineDump_of_respelled one
      · exact fun _ _ _ => rfl
      · exact fun _ => rfl
  | info one =>
      apply finding_congr
      · rfl
      · exact Declaration.find?_of_respelled one
      · exact fun _ => rfl
  | locations one =>
      apply finding_congr
      · rfl
      · exact fun _ _ _ => rfl
      · exact LocationList.ranges_of_respelled one

/-- Numbers may be spelled another way one after another, in any of the rows. -/
theorem finding_of_respellings {dumps other : Dumps}
    (respelled : Relation.ReflTransGen Respelled dumps other) (source : Path) (line : UInt64) :
    dumps.finding source line = other.finding source line ∧
      ∀ token respelling, Numeral.Respells .decimal token respelling →
        UnitName.parse token = UnitName.parse respelling := by
  refine ⟨?_, fun _ _ => UnitName.parse_of_respells⟩
  induction respelled with
  | refl => rfl
  | tail _ one ih => rw [ih, finding_of_respelled one]

/-- A variable of the program at offset 68, which its unit spells in hexadecimal. -/
def counterDumps (program : String) : Dumps where
  lines := Text.unlines <| [program, " The Directory Table", " 1 /src", " The File Name Table",
    " 1 1 0 0 main.c"].map String.toList
  info := Text.unlines <| [" <b> DW_AT_stmt_list : 0x44", " <c> DW_AT_decl_file : 1",
    " <d> DW_AT_location : 0x8 (location list)", " <e> DW_AT_decl_line : 12"].map String.toList
  locations := Text.unlines <| ["00000008 1000 10ac (DW_OP_reg0)",
    "00000010 <End of list>"].map String.toList

theorem finding_of_respellings_decimalProgram :
    Relation.ReflTransGen Respelled (counterDumps " Offset: 0x44") (counterDumps " Offset: 68") ∧
      (counterDumps " Offset: 0x44").finding "/src/main.c".toList 12 =
        (counterDumps " Offset: 68").finding "/src/main.c".toList 12 ∧
      UnitName.parse ['0', 'x', '4', '4'] = UnitName.parse ['6', '8'] := by
  have hexadecimal : Numeral.Spells .decimal ['0', 'x', '4', '4'] 68 :=
    .intro (.hexadecimal .decimal (.inl rfl)) (by decide : [4, 4] ≠ [])
      (.cons ⟨by decide, .inl rfl⟩ (.cons ⟨by decide, .inl rfl⟩ .nil)) rfl
  have decimal : Numeral.Spells .decimal ['6', '8'] 68 :=
    .intro .bare (by decide : [6, 8] ≠ [])
      (.cons ⟨by decide, .inl rfl⟩ (.cons ⟨by decide, .inl rfl⟩ .nil)) rfl
  have respells : Numeral.Respells .decimal ['0', 'x', '4', '4'] ['6', '8'] :=
    ⟨68, hexadecimal, decimal⟩
  have place : SourceTable.NumberAt [] " Offset: ".toList ['0', 'x', '4', '4'] [] :=
    ⟨by decide, .header (by decide)⟩
  have one : Numeral.RespelledAt .decimal SourceTable.NumberAt (counterDumps " Offset: 0x44").lines
      (counterDumps " Offset: 68").lines := by
    refine @Numeral.RespelledAt.intro _ _ _ _ [] ([" The Directory Table", " 1 /src",
      " The File Name Table", " 1 1 0 0 main.c"].map String.toList) " Offset: ".toList _ _ [] ?_ ?_
      place respells
    · decide +kernel
    · decide +kernel
  have respelled : Relation.ReflTransGen Respelled (counterDumps " Offset: 0x44")
      (counterDumps " Offset: 68") := .single (.lines one)
  obtain ⟨same, names⟩ := finding_of_respellings respelled "/src/main.c".toList 12
  exact ⟨respelled, same, names _ _ respells⟩

end Dumps

end LiveRange
