import LiveRange.CommandLine.Run
import LiveRange.Proofs.Numeral.Reading

/-! The arguments of the command are a sequence of items, split in one way only: the last item of
each kind counts, and the first item that is out of place tells how the command ends. -/

namespace LiveRange.CommandLine

namespace Argument

/-- The options that an argument may be, each in all of its spellings. -/
def options : Argument → List String
  | help => ["-h", "--help"]
  | version => ["-v", "--version"]
  | verbose => ["--verbose"]
  | valued .name => ["-n", "--name"]
  | valued .line => ["-l", "--line"]
  | valued .source => ["-s", "--source"]
  | valued .machine => ["-a", "--arch"]
  | valued .program => ["--objdump"]
  | valued .recorded => ["--dumps"]
  | unknown | object => []

/-- What stands first in an item is one of the options, or else told by a dash in front. -/
inductive Spelled : Argument → Text → Prop
  | option {argument : Argument} {text : Text}
      (listed : text ∈ argument.options.map String.toList) : Spelled argument text
  | unknown {text : Text} (dashed : text.head? = some '-')
      (unlisted : ∀ argument : Argument, text ∉ argument.options.map String.toList) :
      Spelled unknown text
  | object {text : Text} (plain : text.head? ≠ some '-') : Spelled object text

theorem mem_spellings_iff {option : String} {argument : Argument} :
    (option, argument) ∈ spellings ↔ option ∈ argument.options := by
  rcases argument with _ | _ | _ | field | _ | _
  case valued => cases field <;> simp [spellings, options]
  all_goals simp [spellings, options]

theorem of_listed (property : Argument → Text → Prop)
    (each : ∀ row ∈ spellings, property row.2 row.1.toList) {argument : Argument} {text : Text}
    (listed : text ∈ argument.options.map String.toList) : property argument text := by
  obtain ⟨option, member, rfl⟩ := List.mem_map.mp listed
  exact each (option, argument) (mem_spellings_iff.mpr member)

theorem ofText_of_listed {argument : Argument} {text : Text}
    (listed : text ∈ argument.options.map String.toList) : ofText text = argument :=
  of_listed (fun argument text => ofText text = argument) (by decide) listed

theorem dashed_of_listed {argument : Argument} {text : Text}
    (listed : text ∈ argument.options.map String.toList) : text.head? = some '-' :=
  of_listed (fun _ text => text.head? = some '-') (by decide) listed

theorem ofText_of_unlisted {text : Text}
    (unlisted : ∀ argument : Argument, text ∉ argument.options.map String.toList) :
    ofText text = if text.head? = some '-' then unknown else object := by
  have absent : spellings.find? (·.1.toList = text) = none := by
    rw [List.find?_eq_none]
    rintro ⟨option, argument⟩ member same
    exact unlisted argument (List.mem_map.mpr
      ⟨option, mem_spellings_iff.mp member, of_decide_eq_true same⟩)
  rw [ofText, absent]

theorem Spelled.ofText {argument : Argument} {text : Text} (spelled : Spelled argument text) :
    Argument.ofText text = argument := by
  cases spelled with
  | option listed => exact ofText_of_listed listed
  | unknown dashed unlisted => rw [ofText_of_unlisted unlisted, if_pos dashed]
  | object plain =>
      have unlisted (argument : Argument) : text ∉ argument.options.map String.toList :=
        fun listed => plain (dashed_of_listed listed)
      rw [ofText_of_unlisted unlisted, if_neg plain]

theorem spelled_ofText (text : Text) : Spelled (ofText text) text := by
  by_cases listed : ∃ argument : Argument, text ∈ argument.options.map String.toList
  · obtain ⟨argument, listed⟩ := listed
    rw [ofText_of_listed listed]
    exact .option listed
  · have unlisted := not_exists.mp listed
    rw [ofText_of_unlisted unlisted]
    split_ifs with dashed
    · exact .unknown dashed unlisted
    · exact .object dashed

end Argument

/-- Arguments that belong together. The value of an option is whatever argument follows it. -/
inductive Item where
  | verbose (option : Text) (spelled : Argument.Spelled .verbose option)
  | valued (field : Field) (option value : Text) (spelled : Argument.Spelled (.valued field) option)
  | object (text : Text) (spelled : Argument.Spelled .object text)
  deriving DecidableEq

namespace Item

def arguments : Item → List Text
  | verbose option _ => [option]
  | valued _ option value _ => [option, value]
  | object text _ => [text]

@[simp] def isVerbose : Item → Bool
  | verbose .. => true
  | valued .. | object .. => false

/-- The value that an item has for a field. -/
@[simp] def value? (field : Field) : Item → Option Text
  | valued other _ value _ => if other = field then some value else none
  | verbose .. | object .. => none

@[simp] def object? : Item → Option Text
  | object text _ => some text
  | verbose .. | valued .. => none

end Item

def arguments (items : List Item) : List Text := items.flatMap Item.arguments

def values (field : Field) (items : List Item) : List Text := items.filterMap (Item.value? field)

def objects (items : List Item) : List Text := items.filterMap Item.object?

/-- Every line is a number of 64 bits, and there is one object at most. -/
structure Accepted (items : List Item) : Prop where
  lines : ∀ value ∈ values .line items, ∃ line, Numeral.SpellsSigned value line
  single : (objects items).length ≤ 1

/-- Each field has the value of the last item for it, and none if there is no such item. -/
structure Options.Tell (options : Options) (items : List Item) : Prop where
  name : options.name = (values .name items).getLast?
  line : ∀ line, options.line = some line ↔
    ∃ value ∈ (values .line items).getLast?, Numeral.SpellsSigned value line
  source : options.source = (values .source items).getLast?
  object : options.object = (objects items).getLast?
  machine : options.machine = (values .machine items).getLast?
  program : options.program = (values .program items).getLast?
  recorded : options.recorded = (values .recorded items).getLast?
  verbose : options.verbose = true ↔ ∃ item ∈ items, item.isVerbose = true

/-- The arguments behind these items start with one that ends the reading. -/
inductive Stops (items : List Item) : List Text → Stop → Prop
  | help {text : Text} {rest : List Text} (spelled : Argument.Spelled .help text) :
      Stops items (text :: rest) .help
  | version {text : Text} {rest : List Text} (spelled : Argument.Spelled .version text) :
      Stops items (text :: rest) .version
  | unknown {text : Text} {rest : List Text} (spelled : Argument.Spelled .unknown text) :
      Stops items (text :: rest) (.refused (.unknownOption text))
  | valueless {field : Field} {option : Text} (spelled : Argument.Spelled (.valued field) option) :
      Stops items [option] (.refused (.missingValue option))
  | badLine {option value : Text} {rest : List Text}
      (spelled : Argument.Spelled (.valued .line) option)
      (bad : ∀ line, ¬ Numeral.SpellsSigned value line) :
      Stops items (option :: value :: rest) (.refused (.badLine value))
  | second {text : Text} {rest : List Text} (spelled : Argument.Spelled .object text)
      (told : objects items ≠ []) : Stops items (text :: rest) (.refused (.unexpected text))

/-- The options that the items come to. -/
def Options.ofItems (items : List Item) : Options where
  name := (values .name items).getLast?
  line := (values .line items).getLast?.bind Numeral.signed?
  source := (values .source items).getLast?
  object := (objects items).getLast?
  machine := (values .machine items).getLast?
  program := (values .program items).getLast?
  recorded := (values .recorded items).getLast?
  verbose := items.any Item.isVerbose

section Reading

variable {items : List Item}

theorem Options.tell_iff {options : Options} : options.Tell items ↔ options = ofItems items := by
  have line (line : UInt64) : (ofItems items).line = some line ↔
      ∃ value ∈ (values .line items).getLast?, Numeral.SpellsSigned value line := by
    simp only [ofItems, Option.bind_eq_some_iff, Numeral.signed?_eq_some_iff, Option.mem_def]
  constructor
  · intro tell
    obtain ⟨name, number, source, object, machine, program, recorded, verbose⟩ := options
    have same : number = (ofItems items).line := by
      apply Option.ext
      intro value
      rw [tell.line value, line value]
    have shown : verbose = items.any Item.isVerbose := by
      rw [Bool.eq_iff_iff, List.any_eq_true]
      exact tell.verbose
    rw [ofItems, Options.mk.injEq]
    exact ⟨tell.name, same, tell.source, tell.object, tell.machine, tell.program, tell.recorded,
      shown⟩
  · rintro rfl
    exact ⟨rfl, line, rfl, rfl, rfl, rfl, rfl, List.any_eq_true⟩

@[simp] theorem values_concat (field : Field) (item : Item) :
    values field (items ++ [item]) = values field items ++ (item.value? field).toList := by
  rw [values, List.filterMap_append, List.filterMap_cons]
  cases item.value? field <;> rfl

@[simp] theorem objects_concat (item : Item) :
    objects (items ++ [item]) = objects items ++ item.object?.toList := by
  rw [objects, List.filterMap_append, List.filterMap_cons]
  cases item.object? <;> rfl

theorem arguments_concat (item : Item) (rest : List Text) :
    arguments (items ++ [item]) ++ rest = arguments items ++ (item.arguments ++ rest) := by
  simp [arguments]

theorem accepted_concat_iff {item : Item} :
    Accepted (items ++ [item]) ↔ Accepted items ∧
      (∀ value ∈ item.value? .line, ∃ line, Numeral.SpellsSigned value line) ∧
        ∀ text ∈ item.object?, objects items = [] := by
  have lengths : (objects (items ++ [item])).length =
      (objects items).length + item.object?.toList.length := by
    rw [objects_concat, List.length_append]
  constructor
  · rintro ⟨lines, single⟩
    rw [values_concat] at lines
    refine ⟨⟨?_, by omega⟩, ?_, ?_⟩
    · intro value member
      exact lines value (List.mem_append_left _ member)
    · intro value shown
      exact lines value (List.mem_append_right _ (Option.mem_toList.mpr shown))
    · intro text shown
      rw [Option.mem_def.mp shown, Option.toList_some, List.length_singleton] at lengths
      exact List.length_eq_zero_iff.mp (by omega)
  · rintro ⟨⟨lines, single⟩, line, object⟩
    constructor
    · rw [values_concat]
      intro value member
      rcases List.mem_append.mp member with earlier | last
      · exact lines value earlier
      · exact line value (Option.mem_toList.mp last)
    · cases shown : item.object? with
      | none =>
          rw [shown, Option.toList_none, List.length_nil] at lengths
          omega
      | some text =>
          rw [shown, Option.toList_some, List.length_singleton, object text shown] at lengths
          exact lengths.le

theorem read_valued {options : Options} {field : Field} {option : Text}
    (spelled : Argument.Spelled (.valued field) option) (value : Text) (rest : List Text) :
    options.read (option :: value :: rest) =
      match options.set field value with
      | .ok options => options.read rest
      | .error error => .error (.refused error) := by
  rw [Options.read.eq_def]
  cases set : options.set field value with
  | ok => simp only [spelled.ofText, set]
  | error => simp only [spelled.ofText, set]

theorem ofItems_concat_verbose {option : Text} (spelled : Argument.Spelled .verbose option) :
    Options.ofItems (items ++ [.verbose option spelled]) =
      { Options.ofItems items with verbose := true } := by
  simp [Options.ofItems]

theorem ofItems_concat_object {text : Text} (spelled : Argument.Spelled .object text)
    (first : objects items = []) :
    Options.ofItems (items ++ [.object text spelled]) =
      { Options.ofItems items with object := some text } := by
  simp [Options.ofItems, first]

/-- Setting the value of one more item, which only a line can fail, replaces the earlier ones. -/
theorem set_ofItems {field : Field} {option value : Text}
    {spelled : Argument.Spelled (.valued field) option}
    (accepted : Accepted (items ++ [.valued field option value spelled])) :
    (Options.ofItems items).set field value =
      .ok (.ofItems (items ++ [.valued field option value spelled])) := by
  cases field with
  | line =>
      obtain ⟨line, spells⟩ := (accepted_concat_iff.mp accepted).2.1 value rfl
      have read := Numeral.signed?_eq_some_iff.mpr spells
      simp [Options.set, read, Options.ofItems]
  | name | source | machine | program | recorded => simp [Options.set, Options.ofItems]

/-- One more item is read into the options of the items before it. -/
theorem read_item {item : Item} (accepted : Accepted (items ++ [item])) (rest : List Text) :
    Options.read (.ofItems items) (item.arguments ++ rest) =
      Options.read (.ofItems (items ++ [item])) rest := by
  cases item with
  | verbose option spelled =>
      rw [Item.arguments, List.singleton_append, ofItems_concat_verbose]
      simp only [Options.read, spelled.ofText]
  | valued field option value spelled =>
      rw [Item.arguments, List.cons_append, List.singleton_append, read_valued spelled,
        set_ofItems accepted]
  | object text spelled =>
      have first := (accepted_concat_iff.mp accepted).2.2 text rfl
      have untold : (Options.ofItems items).object = none := by simp [Options.ofItems, first]
      rw [Item.arguments, List.singleton_append, ofItems_concat_object spelled first]
      simp only [Options.read, spelled.ofText, untold, Option.isSome_none, Bool.false_eq_true,
        if_false]

/-- The items are read one after another, whatever stands behind them. -/
theorem read_arguments (accepted : Accepted items) (rest : List Text) :
    Options.ofArguments (arguments items ++ rest) = Options.read (.ofItems items) rest := by
  induction items using List.reverseRecOn generalizing rest with
  | nil => rfl
  | append_singleton items item ih =>
      rw [arguments_concat, ih (accepted_concat_iff.mp accepted).1, read_item accepted]

theorem read_of_stops {rest : List Text} {stop : Stop} (stops : Stops items rest stop) :
    Options.read (.ofItems items) rest = .error stop := by
  cases stops with
  | help spelled => simp only [Options.read, spelled.ofText]
  | version spelled => simp only [Options.read, spelled.ofText]
  | unknown spelled => simp only [Options.read, spelled.ofText]
  | valueless spelled =>
      have kind := spelled.ofText
      rw [Options.read.eq_def]
      simp only [kind]
  | @badLine _ value _ spelled bad =>
      have unread : Numeral.signed? value = none := by
        rw [Option.eq_none_iff_forall_ne_some]
        intro line read
        exact bad line (Numeral.signed?_eq_some_iff.mp read)
      rw [read_valued spelled]
      simp only [Options.set, unread]
  | second spelled told =>
      have taken : (Options.ofItems items).object.isSome = true := by
        simpa [Options.ofItems] using told
      simp only [Options.read, spelled.ofText, taken, if_true]

/-- One more item either can be read behind the others or ends the reading. -/
theorem accepted_or_stops (accepted : Accepted items) (item : Item) (rest : List Text) :
    Accepted (items ++ [item]) ∨ ∃ stop, Stops items (item.arguments ++ rest) stop := by
  rw [accepted_concat_iff]
  cases item with
  | verbose option spelled => exact .inl ⟨accepted, nofun, nofun⟩
  | valued field option value spelled =>
      by_cases number : field = .line → ∃ line, Numeral.SpellsSigned value line
      · refine .inl ⟨accepted, ?_, nofun⟩
        intro shown told
        rw [Item.value?, Option.mem_def, Option.ite_none_right_eq_some] at told
        obtain ⟨isLine, same⟩ := told
        exact Option.some.inj same ▸ number isLine
      · obtain ⟨rfl, bad⟩ := Classical.not_imp.mp number
        exact .inr ⟨_, .badLine spelled (not_exists.mp bad)⟩
  | object text spelled =>
      by_cases first : objects items = []
      · exact .inl ⟨accepted, nofun, fun _ _ => first⟩
      · exact .inr ⟨_, .second spelled first⟩

/-- These items are read, and behind them the arguments are at their end or stop. -/
structure ReadUpTo (given : List Text) (items : List Item) (rest : List Text) : Prop where
  whole : arguments items ++ rest = given
  accepted : Accepted items
  ended : rest = [] ∨ ∃ stop, Stops items rest stop

theorem exists_readUpTo (accepted : Accepted items) (rest : List Text) :
    ∃ more behind, ReadUpTo (arguments items ++ rest) more behind := by
  -- On what is left: the items that are read get one more, until nothing is left or one stops.
  induction length : rest.length using Nat.strongRecOn generalizing items rest with
  | ind length ih =>
      subst length
      have stopped {stop : Stop} (stops : Stops items rest stop) :
          ∃ more behind, ReadUpTo (arguments items ++ rest) more behind :=
        ⟨items, rest, rfl, accepted, .inr ⟨stop, stops⟩⟩
      have goOn (item : Item) (behind : List Text) (split : rest = item.arguments ++ behind)
          (shorter : behind.length < rest.length) :
          ∃ more behind, ReadUpTo (arguments items ++ rest) more behind := by
        rcases accepted_or_stops accepted item behind with one | ⟨stop, stops⟩
        · rw [split, ← arguments_concat]
          exact ih _ shorter one behind rfl
        · exact stopped (split ▸ stops)
      cases rest with
      | nil => exact ⟨items, [], rfl, accepted, .inl rfl⟩
      | cons text behind =>
          have spelled := Argument.spelled_ofText text
          generalize Argument.ofText text = kind at spelled
          cases kind with
          | help => exact stopped (.help spelled)
          | version => exact stopped (.version spelled)
          | unknown => exact stopped (.unknown spelled)
          | verbose => exact goOn (.verbose text spelled) behind rfl (by simp)
          | object => exact goOn (.object text spelled) behind rfl (by simp)
          | valued field =>
              cases behind with
              | nil => exact stopped (.valueless spelled)
              | cons value behind =>
                  refine goOn (.valued field text value spelled) behind rfl ?_
                  simp only [List.length_cons]
                  omega

theorem ofArguments_cases (given : List Text) :
    (∃ items, arguments items = given ∧ Accepted items ∧
        Options.ofArguments given = .ok (.ofItems items)) ∨
      ∃ items rest stop, arguments items ++ rest = given ∧ Accepted items ∧
        Stops items rest stop ∧ Options.ofArguments given = .error stop := by
  have nothing : Accepted [] := ⟨nofun, Nat.zero_le 1⟩
  obtain ⟨items, rest, whole, accepted, ended⟩ := exists_readUpTo nothing given
  change arguments items ++ rest = given at whole
  subst whole
  rcases ended with rfl | ⟨stop, stops⟩
  · refine .inl ⟨items, (List.append_nil _).symm, accepted, ?_⟩
    rw [read_arguments accepted, Options.read]
  · refine .inr ⟨items, rest, stop, rfl, accepted, stops, ?_⟩
    rw [read_arguments accepted, read_of_stops stops]

theorem ofArguments_eq_ok_iff {given : List Text} {options : Options} :
    Options.ofArguments given = .ok options ↔
      ∃ items, arguments items = given ∧ Accepted items ∧ options.Tell items := by
  constructor
  · intro read
    rcases ofArguments_cases given with ⟨items, whole, accepted, ok⟩ | ⟨_, _, _, _, _, _, error⟩
    · exact ⟨items, whole, accepted, Options.tell_iff.mpr (Except.ok.inj (read.symm.trans ok))⟩
    · cases read.symm.trans error
  · rintro ⟨items, rfl, accepted, tell⟩
    have read := read_arguments accepted []
    rw [List.append_nil, Options.read] at read
    rw [read, Options.tell_iff.mp tell]

theorem ofArguments_eq_error_iff {given : List Text} {stop : Stop} :
    Options.ofArguments given = .error stop ↔
      ∃ items rest, arguments items ++ rest = given ∧ Accepted items ∧ Stops items rest stop := by
  constructor
  · intro read
    rcases ofArguments_cases given with
      ⟨_, _, _, ok⟩ | ⟨items, rest, _, whole, accepted, stops, error⟩
    · cases read.symm.trans ok
    · cases read.symm.trans error
      exact ⟨items, rest, whole, accepted, stops⟩
  · rintro ⟨items, rest, rfl, accepted, stops⟩
    rw [read_arguments accepted, read_of_stops stops]

theorem arguments_append_inj {item other : Item} {rest more : List Text}
    (same : item.arguments ++ rest = other.arguments ++ more) : item = other ∧ rest = more := by
  cases item with
  | verbose option spelled =>
      cases other with
      | verbose => simpa [Item.arguments] using same
      | valued _ _ _ spelledOther | object _ spelledOther =>
          cases same
          cases spelled.ofText.symm.trans spelledOther.ofText
  | valued field option value spelled =>
      cases other with
      | valued _ _ _ spelledOther =>
          cases same
          cases spelled.ofText.symm.trans spelledOther.ofText
          exact ⟨rfl, rfl⟩
      | verbose _ spelledOther | object _ spelledOther =>
          cases same
          cases spelled.ofText.symm.trans spelledOther.ofText
  | object text spelled =>
      cases other with
      | object => simpa [Item.arguments] using same
      | verbose _ spelledOther | valued _ _ _ spelledOther =>
          cases same
          cases spelled.ofText.symm.trans spelledOther.ofText

theorem arguments_injective : Function.Injective arguments := by
  intro items
  induction items with
  | nil =>
      intro others same
      cases others with
      | nil => rfl
      | cons other others => cases other <;> cases same
  | cons item items ih =>
      intro others same
      cases others with
      | nil => cases item <;> cases same
      | cons other others =>
          obtain ⟨rfl, behind⟩ := arguments_append_inj same
          rw [ih behind]

end Reading

/-- Items change places, and those for one field keep their order. -/
structure Reordered (items others : List Item) : Prop where
  perm : items.Perm others
  kept : ∀ field, items.filter (fun item => (item.value? field).isSome) =
    others.filter fun item => (item.value? field).isSome

section Order

variable {items others : List Item} (reordered : Reordered items others)

include reordered

theorem Reordered.values_eq (field : Field) : values field others = values field items := by
  have told (items : List Item) : values field items =
      values field (items.filter fun item => (item.value? field).isSome) := by
    rw [values, values, List.filterMap_filter]
    congr 1
    funext item
    cases item.value? field <;> rfl
  rw [told others, told items, reordered.kept field]

theorem Reordered.objects_eq (accepted : Accepted items) : objects others = objects items := by
  have perm : (objects items).Perm (objects others) := reordered.perm.filterMap Item.object?
  have single := accepted.single
  cases told : objects items with
  | nil => exact List.nil_perm.mp (told ▸ perm)
  | cons object more =>
      rw [told, List.length_cons] at single
      have alone : more = [] := List.length_eq_zero_iff.mp (by omega)
      rw [told, alone] at perm
      rw [alone, List.singleton_perm.mp perm]

theorem Reordered.accepted (accepted : Accepted items) : Accepted others where
  lines := reordered.values_eq .line ▸ accepted.lines
  single := reordered.objects_eq accepted ▸ accepted.single

theorem Reordered.tell (accepted : Accepted items) {options : Options}
    (tell : options.Tell items) : options.Tell others := by
  have verbose : others.any Item.isVerbose = items.any Item.isVerbose := by
    rw [Bool.eq_iff_iff, List.any_eq_true, List.any_eq_true]
    simp only [reordered.perm.mem_iff]
  rw [Options.tell_iff] at tell ⊢
  rw [tell, Options.ofItems, Options.ofItems, reordered.objects_eq accepted, verbose]
  simp only [reordered.values_eq]

end Order

/-- Asked for help or for its version the command succeeds, and otherwise it fails with the message
of the error, under the name that it was called by. -/
def Stop.EndsAs (program : Text) : Stop → Outcome → Prop
  | .help, outcome | .version, outcome => outcome.exitCode = 0
  | .refused error, outcome => outcome.exitCode = 1 ∧
      outcome.messages.head? = some (program ++ ": ".toList ++ error.message)

theorem Stop.endsAs_run {given : List Text} {stop : Stop}
    (stopped : Options.ofArguments given = .error stop) (host : Host) (program : Text) :
    stop.EndsAs program (run host given program) := by
  rw [run, stopped]
  cases stop with
  | help => rfl
  | version => rfl
  | refused error => exact ⟨rfl, rfl⟩

/-- Arguments are read if they are items all through, in which case the last item of each kind
counts. If not, the first that is out of place tells how the command ends. Items for different
fields may change places. -/
theorem ofArguments_items :
    Function.Injective arguments ∧
      (∀ given options, Options.ofArguments given = .ok options ↔
        ∃ items, arguments items = given ∧ Accepted items ∧ options.Tell items) ∧
      (∀ given stop, Options.ofArguments given = .error stop ↔
        ∃ items rest, arguments items ++ rest = given ∧ Accepted items ∧ Stops items rest stop ∧
          ∀ host program, stop.EndsAs program (run host given program)) ∧
      ∀ items others options, Reordered items others →
        Options.ofArguments (arguments items) = .ok options →
          Options.ofArguments (arguments others) = .ok options := by
  refine ⟨arguments_injective, fun _ _ => ofArguments_eq_ok_iff, ?_, ?_⟩
  · intro given stop
    constructor
    · intro stopped
      obtain ⟨items, rest, whole, accepted, stops⟩ := ofArguments_eq_error_iff.mp stopped
      exact ⟨items, rest, whole, accepted, stops, Stop.endsAs_run stopped⟩
    · rintro ⟨items, rest, whole, accepted, stops, _⟩
      exact ofArguments_eq_error_iff.mpr ⟨items, rest, whole, accepted, stops⟩
  · intro items others options reordered read
    obtain ⟨same, split, accepted, tell⟩ := ofArguments_eq_ok_iff.mp read
    cases arguments_injective split
    exact ofArguments_eq_ok_iff.mpr
      ⟨others, rfl, reordered.accepted accepted, reordered.tell accepted tell⟩

def namedItem (option value : String)
    (listed : option.toList ∈ (Argument.valued .name).options.map String.toList) : Item :=
  .valued .name option.toList value.toList (.option listed)

def lineItem (value : String) : Item :=
  .valued .line "-l".toList value.toList (.option (by decide))

def objectItem : Item := .object "fw.elf".toList (.object (by decide))

/-- The name is told twice, first by a value that spells an option. -/
theorem ofArguments_items_namedTwice :
    let items := [namedItem "-n" "--help" (by decide), lineItem "+7",
      namedItem "--name" "count" (by decide), objectItem]
    let others := [objectItem, namedItem "-n" "--help" (by decide),
      namedItem "--name" "count" (by decide), lineItem "+7"]
    let options : Options :=
      { name := some "count".toList, line := some 7, object := some "fw.elf".toList }
    Reordered items others ∧ Options.ofArguments (arguments items) = .ok options ∧
      Options.ofArguments (arguments others) = .ok options := by
  intro items others options
  have reordered : Reordered items others := by
    constructor
    · decide
    · intro field
      cases field <;> decide
  have read : Options.ofArguments (arguments items) = .ok options := by decide +kernel
  exact ⟨reordered, read, ofArguments_items.2.2.2 items others options reordered read⟩

end LiveRange.CommandLine
