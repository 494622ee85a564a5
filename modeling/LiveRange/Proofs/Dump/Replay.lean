import LiveRange.Proofs.Query
import LiveRange.Proofs.Text.Words
import LiveRange.Proofs.Utf8.Decode

/-! Dumps that a program prints and dumps that were recorded earlier answer every query alike, where
they hold the same bytes. -/

namespace LiveRange

/-- Unless all items of a list have a property, there is a first that lacks it. -/
theorem forall_or_exists_first {α : Type} (property : α → Prop) (items : List α) :
    (∀ item ∈ items, property item) ∨ ∃ before item after, items = before ++ item :: after ∧
      (∀ earlier ∈ before, property earlier) ∧ ¬ property item := by
  induction items with
  | nil => exact Or.inl fun item member => absurd member List.not_mem_nil
  | cons first items ih =>
      by_cases holds : property first
      · rcases ih with all | ⟨before, item, after, rfl, earlier, lacks⟩
        · exact Or.inl (List.forall_mem_cons.mpr ⟨holds, all⟩)
        · exact Or.inr ⟨first :: before, item, after, rfl,
            List.forall_mem_cons.mpr ⟨holds, earlier⟩, lacks⟩
      · exact Or.inr ⟨[], first, items, rfl, by simp, holds⟩

namespace Dump

/-- Bytes that are a dump: they encode a text, and it is not blank. -/
def Legible (bytes : Bytes) (text : Text) : Prop := Utf8.encode text = bytes ∧ ¬ text.Blank

/-- What a source makes of the bytes of a dump. Only the fault of bytes that are no text is its
own. -/
def ofBytes (unreadable : Utf8.Fault → Fault) (bytes : Bytes) : Except Fault Text :=
  (Utf8.decode bytes).mapError unreadable >>= notBlank

section OfBytes

variable {unreadable : Utf8.Fault → Fault} {bytes : Bytes} {text : Text}

theorem ofBytes_of_encode (encoded : Utf8.encode text = bytes) :
    ofBytes unreadable bytes = notBlank text := by
  rw [ofBytes, Utf8.decode_eq_ok_iff.mpr encoded]
  rfl

theorem ofBytes_eq_ok_iff : ofBytes unreadable bytes = .ok text ↔ Legible bytes text := by
  constructor
  · intro read
    cases decoded : Utf8.decode bytes with
    | error fault =>
        rw [ofBytes, decoded] at read
        cases read
    | ok found =>
        have encoded := Utf8.decode_eq_ok_iff.mp decoded
        rw [ofBytes_of_encode encoded, notBlank] at read
        split_ifs at read with blank
        cases read
        exact ⟨encoded, mt Text.trim_eq_nil_iff.mpr blank⟩
  · rintro ⟨encoded, solid⟩
    rw [ofBytes_of_encode encoded, notBlank, if_neg (mt Text.trim_eq_nil_iff.mp solid)]

/-- Where the bytes are a text, any source fails for the same reason. -/
theorem eq_blank_of_ofBytes {fault : Fault} (failed : ofBytes unreadable bytes = .error fault)
    (encoded : Utf8.encode text = bytes) : fault = .blank := by
  rw [ofBytes_of_encode encoded, notBlank] at failed
  split_ifs at failed
  cases failed
  rfl

end OfBytes

/-- The source reads these bytes for the kinds of dump of the object. -/
def Source.Reads (source : Source) (object : Path) (bytes : Kind → Bytes) : Prop :=
  ∀ kind, ∃ unreadable, source kind object = ofBytes unreadable (bytes kind)

theorem Source.supply_eq_ok_iff {source : Source} {kind : Kind} {object : Path} {text : Text} :
    source.supply kind object = .ok text ↔ source kind object = .ok text := by
  rw [supply]
  cases source kind object <;> simp [Except.mapError]

theorem Source.supply_eq_error_iff {source : Source} {kind : Kind} {object : Path}
    {failure : Failure} :
    source.supply kind object = .error failure ↔
      ∃ fault, source kind object = .error fault ∧ failure = .dumpFailed kind fault := by
  rw [supply]
  cases source kind object <;> simp [Except.mapError, eq_comm]

end Dump

namespace Host

/-- The program prints these bytes for the kinds of dump of the object, and ends well. -/
def Prints (host : Host) (program object : Path) (bytes : Dump.Kind → Bytes) : Prop :=
  ∀ kind, ∃ diagnostics, host.start (Dump.invocation program kind object) =
    .ok { status := .code 0, output := bytes kind, diagnostics }

/-- The directory holds these bytes for the kinds of dump. -/
def Holds (host : Host) (directory : Path) (bytes : Dump.Kind → Bytes) : Prop :=
  ∀ kind, host.read (Dump.recordedPath directory kind) = .ok (bytes kind)

variable {host : Host} {bytes : Dump.Kind → Bytes}

theorem Prints.reads {program object : Path} (prints : host.Prints program object bytes) :
    (host.rendered program).Reads object bytes := by
  intro kind
  obtain ⟨diagnostics, finish⟩ := prints kind
  refine ⟨.outputNotText, ?_⟩
  rw [rendered, finish]
  rfl

theorem Holds.reads {directory : Path} (holds : host.Holds directory bytes) (object : Path) :
    (host.recorded directory).Reads object bytes := by
  intro kind
  refine ⟨fun _ => .recordNotText (Dump.recordedPath directory kind), ?_⟩
  rw [recorded, holds kind]
  rfl

end Host

namespace Query

/-- What the texts of the dumps say, all of them legible. -/
def Finds (query : Query) (bytes : Dump.Kind → Bytes) (finding : Finding) : Prop :=
  ∃ text : Dump.Kind → Text, (∀ kind, Dump.Legible (bytes kind) (text kind)) ∧
    finding = Dumps.finding ⟨text .rawline, text .info, text .loc⟩ query.source query.line

/-- Results of a query from two sources that read the same bytes. The first dump that is not legible
fails in both, and for one reason unless it is no text at all. -/
inductive Alike (query : Query) (bytes : Dump.Kind → Bytes) :
    Except Failure Finding → Except Failure Finding → Prop
  | refused (foreign : ¬ Machine.Supported query.machine) :
      Alike query bytes (.error (.machineUnsupported query.machine "arm".toList))
        (.error (.machineUnsupported query.machine "arm".toList))
  | failed {served unasked : List Dump.Kind} {kind : Dump.Kind} {fault other : Dump.Fault}
      (supported : Machine.Supported query.machine)
      (split : Dump.Kind.inOrder = served ++ kind :: unasked)
      (legible : ∀ earlier ∈ served, ∃ text, Dump.Legible (bytes earlier) text)
      (illegible : ∀ text, ¬ Dump.Legible (bytes kind) text)
      (reason : ∀ text, Utf8.encode text = bytes kind → fault = .blank ∧ other = .blank) :
      Alike query bytes (.error (.dumpFailed kind fault)) (.error (.dumpFailed kind other))
  | answered {finding : Finding} (supported : Machine.Supported query.machine)
      (found : query.Finds bytes finding) : Alike query bytes (.ok finding) (.ok finding)

section Reads

variable {source other : Dump.Source} {query : Query} {object : Path} {bytes : Dump.Kind → Bytes}

theorem supply_eq_ok_iff (reads : source.Reads object bytes) {kind : Dump.Kind} {text : Text} :
    source.supply kind object = .ok text ↔ Dump.Legible (bytes kind) text := by
  obtain ⟨unreadable, read⟩ := reads kind
  rw [Dump.Source.supply_eq_ok_iff, read, Dump.ofBytes_eq_ok_iff]

theorem exists_fault (reads : source.Reads object bytes) {kind : Dump.Kind}
    (illegible : ∀ text, ¬ Dump.Legible (bytes kind) text) :
    ∃ fault, source.supply kind object = .error (.dumpFailed kind fault) ∧
      ∀ text, Utf8.encode text = bytes kind → fault = .blank := by
  cases read : source.supply kind object with
  | ok text => exact absurd ((supply_eq_ok_iff reads).mp read) (illegible text)
  | error failure =>
      obtain ⟨fault, failed, rfl⟩ := Dump.Source.supply_eq_error_iff.mp read
      obtain ⟨unreadable, same⟩ := reads kind
      rw [same] at failed
      exact ⟨fault, rfl, fun text => Dump.eq_blank_of_ofBytes failed⟩

theorem alone_of_finds (reads : source.Reads query.object bytes)
    (supported : Machine.Supported query.machine) {finding : Finding}
    (found : query.Finds bytes finding) : (query.alone source.supply).1 = .ok finding := by
  obtain ⟨text, legible, rfl⟩ := found
  have there : ∀ kind, source.supply kind query.object = .ok (text kind) := fun kind =>
    (supply_eq_ok_iff reads).mpr (legible kind)
  rw [(Exchange.answered supported (there .rawline) (there .info) (there .loc)).alone_eq]

theorem alone_of_illegible (reads : source.Reads query.object bytes)
    (supported : Machine.Supported query.machine) {served unasked : List Dump.Kind}
    {kind : Dump.Kind} (split : Dump.Kind.inOrder = served ++ kind :: unasked)
    (legible : ∀ earlier ∈ served, ∃ text, Dump.Legible (bytes earlier) text)
    (illegible : ∀ text, ¬ Dump.Legible (bytes kind) text) :
    ∃ fault, (query.alone source.supply).1 = .error (.dumpFailed kind fault) ∧
      ∀ text, Utf8.encode text = bytes kind → fault = .blank := by
  obtain ⟨fault, missing, reason⟩ := exists_fault reads illegible
  have there : ∀ earlier ∈ served, ∃ text, source.supply earlier query.object = .ok text := by
    intro earlier member
    obtain ⟨text, here⟩ := legible earlier member
    exact ⟨text, (supply_eq_ok_iff reads).mpr here⟩
  refine ⟨fault, ?_, reason⟩
  rw [(Exchange.failed supported split there missing).alone_eq]

/-- Either all three dumps are legible, or there is a first that is not. -/
theorem legible_cases (query : Query) (bytes : Dump.Kind → Bytes) :
    (∃ finding, query.Finds bytes finding) ∨
      ∃ served kind unasked, Dump.Kind.inOrder = served ++ kind :: unasked ∧
        (∀ earlier ∈ served, ∃ text, Dump.Legible (bytes earlier) text) ∧
        ∀ text, ¬ Dump.Legible (bytes kind) text := by
  rcases forall_or_exists_first (fun kind => ∃ text, Dump.Legible (bytes kind) text)
    Dump.Kind.inOrder with all | ⟨served, kind, unasked, split, earlier, illegible⟩
  · have each : ∀ kind, ∃ text, Dump.Legible (bytes kind) text := by
      intro kind
      exact all kind (by cases kind <;> decide)
    choose text legible using each
    exact Or.inl ⟨_, text, legible, rfl⟩
  · exact Or.inr ⟨served, kind, unasked, split, earlier, not_exists.mp illegible⟩

theorem alone_of_unsupported (supply : Dump.Supply)
    (foreign : ¬ Machine.Supported query.machine) :
    (query.alone supply).1 = .error (.machineUnsupported query.machine "arm".toList) := by
  rw [(Exchange.refused foreign).alone_eq]

theorem alike_of_reads (object : Path) (reads : source.Reads query.object bytes)
    (readsOther : other.Reads object bytes) :
    Alike query bytes (query.alone source.supply).1
      ({ query with object }.alone other.supply).1 := by
  by_cases supported : Machine.Supported query.machine
  · rcases legible_cases query bytes with ⟨finding, found⟩ |
      ⟨served, kind, unasked, split, legible, illegible⟩
    · have here := alone_of_finds reads supported found
      have there := @alone_of_finds other { query with object } bytes readsOther supported _ found
      rw [here, there]
      exact .answered supported found
    · obtain ⟨fault, here, reason⟩ := alone_of_illegible reads supported split legible illegible
      obtain ⟨_, there, reasonOther⟩ := @alone_of_illegible other { query with object } bytes
        readsOther supported _ _ _ split legible illegible
      rw [here, there]
      exact .failed supported split legible illegible fun text encoded =>
        ⟨reason text encoded, reasonOther text encoded⟩
  · have here := alone_of_unsupported source.supply supported
    have there := @alone_of_unsupported { query with object } other.supply supported
    rw [here, there]
    exact .refused supported

/-- A query is answered exactly when its machine is supported and every dump is legible. -/
theorem alone_eq_ok_iff (reads : source.Reads query.object bytes) (finding : Finding) :
    (query.alone source.supply).1 = .ok finding ↔
      Machine.Supported query.machine ∧ query.Finds bytes finding := by
  constructor
  · intro answered
    by_cases supported : Machine.Supported query.machine
    · rcases legible_cases query bytes with ⟨other, found⟩ |
        ⟨served, kind, unasked, split, legible, illegible⟩
      · rw [alone_of_finds reads supported found] at answered
        cases answered
        exact ⟨supported, found⟩
      · obtain ⟨fault, failed, _⟩ := alone_of_illegible reads supported split legible illegible
        rw [failed] at answered
        cases answered
    · rw [alone_of_unsupported source.supply supported] at answered
      cases answered
  · rintro ⟨supported, found⟩
    exact alone_of_finds reads supported found

end Reads

/-- The object decides nothing for recorded dumps. -/
theorem recorded_alike_printed {tool archive : Host} {program directory : Path}
    {bytes : Dump.Kind → Bytes} {query : Query} (prints : tool.Prints program query.object bytes)
    (holds : archive.Holds directory bytes) (object : Path) :
    Alike query bytes (query.alone (tool.rendered program).supply).1
        ({ query with object }.alone (archive.recorded directory).supply).1 ∧
      ∀ finding,
        ((query.alone (tool.rendered program).supply).1 = .ok finding ↔
          Machine.Supported query.machine ∧ query.Finds bytes finding) ∧
        (({ query with object }.alone (archive.recorded directory).supply).1 = .ok finding ↔
          Machine.Supported query.machine ∧ query.Finds bytes finding) := by
  have reads := prints.reads
  have readsRecorded := holds.reads object
  refine ⟨alike_of_reads object reads readsRecorded, ?_⟩
  intro finding
  exact ⟨alone_eq_ok_iff reads finding,
    @alone_eq_ok_iff _ { query with object } _ readsRecorded finding⟩

/-- The location dump breaks off inside a character. -/
def brokenBytes : Dump.Kind → Bytes
  | .rawline => Utf8.encode "  Offset: 0x0\n".toList
  | .info => Utf8.encode "  Compilation Unit @ offset 0x0:\n".toList
  | .loc => [0x20, 0xE2, 0x82]

def printingHost : Host where
  read _ := .error .notFound
  present _ := false
  start call :=
    let asked : Option Dump.Kind := Dump.Kind.inOrder.find? (some ·.option = call.arguments.head?)
    .ok { output := (asked.map brokenBytes).getD [] }
  environment? _ := none
  inspect _ := .error "Unknown file magic".toList

def holdingHost : Host where
  read path :=
    match Dump.Kind.inOrder.find? (Dump.recordedPath "dumps".toList · = path) with
    | some kind => .ok (brokenBytes kind)
    | none => .error .notFound
  present _ := false
  start _ := .error .notFound
  environment? _ := none
  inspect _ := .error "Unknown file magic".toList

def variableQuery : Query where
  name := "count".toList
  line := 12
  source := "/src/main.c".toList
  object := "fw.elf".toList
  machine := "armv7e-m".toList

theorem recorded_alike_printed_brokenBytes :
    printingHost.Prints "objdump".toList variableQuery.object brokenBytes ∧
      holdingHost.Holds "dumps".toList brokenBytes ∧
      Alike variableQuery brokenBytes
        (variableQuery.alone (printingHost.rendered "objdump".toList).supply).1
        ({ variableQuery with object := [] }.alone
          (holdingHost.recorded "dumps".toList).supply).1 ∧
      ∀ finding,
        ((variableQuery.alone (printingHost.rendered "objdump".toList).supply).1 = .ok finding ↔
          Machine.Supported variableQuery.machine ∧ variableQuery.Finds brokenBytes finding) ∧
        (({ variableQuery with object := [] }.alone
            (holdingHost.recorded "dumps".toList).supply).1 = .ok finding ↔
          Machine.Supported variableQuery.machine ∧
            variableQuery.Finds brokenBytes finding) := by
  have prints : printingHost.Prints "objdump".toList variableQuery.object brokenBytes := by
    intro kind
    exact ⟨[], by cases kind <;> decide +kernel⟩
  have holds : holdingHost.Holds "dumps".toList brokenBytes := by
    intro kind
    cases kind <;> decide +kernel
  exact ⟨prints, holds, recorded_alike_printed prints holds []⟩

end Query

end LiveRange
