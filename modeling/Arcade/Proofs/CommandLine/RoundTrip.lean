import Arcade.Proofs.CommandLine.Reader

/-! # The round trip of a command line

Options are written out as arguments, any of them and in any order, and read again by a library that
does what is documented.

* `number?_toString`: a numeral is read as its number;
* `Options.fields`: the options with their values; `parse_eq_ok_iff`: they are what a library found;
* `Options.Sound`: options with values they take;
* `accepted_of_parse`: **what is accepted** is sound and as it is written;
* `Options.choices`: the options as they are written; `Options.restricted`: options of which only
  some are written;
* `Sound.parse_written`: **sound options are read as they are written**;
* `command_line_round_trip`: both of them, with the settings of the machine that come of it. -/

namespace Arcade.CommandLine

open Arcade.Core (bind_eq_ok_iff)

/-! ### Numerals -/

theorem number?_of_digits {text : List Char} (some : text ≠ [])
    (digits : ∀ c ∈ text, c.isDigit = true) :
    number? text = Option.some (Nat.ofDigitChars 10 text 0) := by
  obtain ⟨first, rest, rfl⟩ := List.exists_cons_of_ne_nil some
  have unsigned : first ≠ '+' := by
    rintro rfl
    exact absurd (digits _ List.mem_cons_self) (by decide)
  have all : (first :: rest).all Char.isDigit = true := List.all_eq_true.mpr digits
  unfold number?
  split
  · rename_i h
    cases h
    exact absurd rfl unsigned
  · simp only [all, List.isEmpty_cons, Bool.not_true, Bool.or_false, Nat.ofDigitChars, Nat.mul_comm]
    rfl

/-- **A number is read back from its numeral.** -/
theorem number?_toString (n : Nat) : number? (toString n).toList = some n := by
  rw [Nat.toString_eq_ofList_toDigits, String.toList_ofList,
    number?_of_digits Nat.toDigits_ne_nil fun c among =>
      Nat.isDigit_of_mem_toDigits (by decide) (by decide) among,
    Nat.ofDigitChars_toDigits (by decide) (by decide)]

/-! ### Options and what a library found -/

namespace Matches

variable {found : Matches} {option : Declaration}

theorem path_eq_ok_iff {text : String} :
    found.path option = .ok text ↔ found.value? option = some (.path text) := by
  unfold path
  split <;> simp_all

theorem flag_eq_ok_iff {isSet : Bool} :
    found.flag option = .ok isSet ↔ found.value? option = some (.flag isSet) := by
  unfold flag
  cases isSet <;> split <;> simp_all

theorem number_eq_ok_iff {n : Nat} :
    found.number option = .ok n ↔ found.value? option = some (.number n) := by
  unfold number
  split <;> simp_all

theorem number?_eq_ok_iff {n? : Option Nat} :
    found.number? option = .ok n? ↔ found.value? option = n?.map .number := by
  unfold number?
  cases n? <;> split <;> simp_all

end Matches

/-- The options, each with its value. -/
def Options.fields (options : Options) : List (Declaration × Option Value) :=
  [(Declared.directory, some (.path options.directory)),
    (Declared.debug, some (.flag options.debug)),
    (Declared.scale, some (.number options.scale)),
    (Declared.headless, some (.flag options.headless)),
    (Declared.frames, options.frames?.map .number),
    (Declared.ships, some (.number options.ships)),
    (Declared.bonusAt1000, some (.flag options.bonusAt1000)),
    (Declared.allowUndocumented, some (.flag options.allowUndocumented)),
    (Declared.sounds, some (.path options.sounds))]

theorem Options.map_fst_fields (options : Options) : options.fields.map Prod.fst = declared := rfl

theorem Options.ofMatches_eq_ok_iff {found : Matches} {options : Options} :
    Options.ofMatches found = .ok options ↔
      ∀ field ∈ options.fields, found.value? field.1 = field.2 := by
  simp only [ofMatches, bind_eq_ok_iff, Matches.path_eq_ok_iff, Matches.flag_eq_ok_iff,
    Matches.number_eq_ok_iff, Matches.number?_eq_ok_iff, fields, List.forall_mem_cons]
  constructor
  · rintro ⟨directory, h1, debug, h2, scale, h3, headless, h4, frames?, h5, ships, h6, bonus, h7,
      undocumented, h8, sounds, h9, h⟩
    cases h
    exact ⟨h1, h2, h3, h4, h5, h6, h7, h8, h9, nofun⟩
  · rintro ⟨h1, h2, h3, h4, h5, h6, h7, h8, h9, -⟩
    exact ⟨_, h1, _, h2, _, h3, _, h4, _, h5, _, h6, _, h7, _, h8, _, h9, rfl⟩

theorem parse_eq_ok_iff {library : Library} {arguments : List String} {options : Options} :
    parse library arguments = .ok options ↔
      ∃ found, library declared arguments = .ok found ∧
        ∀ field ∈ options.fields, found.value? field.1 = field.2 := by
  simp only [parse, bind_eq_ok_iff, Options.ofMatches_eq_ok_iff]

/-! ### What is accepted -/

/-- Options with values they take, and with a number of frames only without a window. -/
structure Options.Sound (options : Options) : Prop where
  directory : options.directory ≠ ""
  scale : 1 ≤ options.scale ∧ options.scale ≤ 8
  frames : ∀ frames, options.frames? = some frames →
    frames < UInt64.size ∧ options.headless = true
  ships : 3 ≤ options.ships ∧ options.ships ≤ 6
  sounds : options.sounds ≠ ""

/-- Options are sound if their values are of the kinds that are declared. -/
theorem Options.sound_iff {options : Options} :
    options.Sound ↔
      (∀ option value, (option, some value) ∈ options.fields → option.kind.Takes value) ∧
        ∀ frames, options.frames? = some frames → options.headless = true := by
  constructor
  · intro sound
    have fields : ∀ field ∈ options.fields, ∀ value, field.2 = some value →
        field.1.kind.Takes value := by
      simp only [fields, List.forall_mem_cons, Option.some.injEq, forall_eq']
      refine ⟨sound.directory, trivial, sound.scale, trivial, fun value chosen => ?_, sound.ships,
        trivial, trivial, sound.sounds, nofun⟩
      obtain ⟨frames, written, rfl⟩ := Option.map_eq_some_iff.mp chosen
      exact ⟨Nat.zero_le _, Nat.le_of_lt_succ (sound.frames frames written).1⟩
    exact ⟨fun option value held => fields _ held value rfl,
      fun frames chosen => (sound.frames frames chosen).2⟩
  · rintro ⟨takes, headless⟩
    refine ⟨takes Declared.directory (.path _) (by simp [fields]),
      takes Declared.scale (.number _) (by simp [fields]), fun frames chosen => ?_,
      takes Declared.ships (.number _) (by simp [fields]),
      takes Declared.sounds (.path _) (by simp [fields])⟩
    have within := takes Declared.frames (.number frames) (by simp [fields, chosen])
    exact ⟨Nat.lt_succ_of_le within.2, headless frames chosen⟩

/-- An option has the value that is written. -/
def Options.Holds (options : Options) (choice : Choice) : Prop :=
  ∃ value, choice.value = .ok value ∧ (choice.option, some value) ∈ options.fields

theorem Options.mem_declared {options : Options} {field : Declaration × Option Value}
    (h : field ∈ options.fields) : field.1 ∈ declared :=
  List.mem_map_of_mem h

/-- Each declared option has its place. -/
theorem Options.exists_field (options : Options) {option : Declaration}
    (among : option ∈ declared) : ∃ value?, (option, value?) ∈ options.fields := by
  rw [← options.map_fst_fields] at among
  obtain ⟨⟨_, value?⟩, held, rfl⟩ := List.mem_map.mp among
  exact ⟨value?, held⟩

/-- No flag has a letter. -/
theorem letter?_of_flag : ∀ option ∈ declared, option.kind = .flag → option.letter? = none := by
  decide

/-- A flag is not set where it is not written. -/
theorem standardValue?_of_flag {option : Declaration} (flag : option.kind = .flag) :
    option.standardValue? = some (.flag false) := by
  rw [Declaration.standardValue?, flag]

namespace Documented

variable {library : Library} {arguments : List String} {found : Matches} {options : Options}

/-- A number of frames is accepted with the flag it needs. -/
theorem headless_of_frames (documented : Documented library declared)
    (h : library declared arguments = .ok found)
    (fields : ∀ field ∈ options.fields, found.value? field.1 = field.2) (frames : Nat)
    (chosen : options.frames? = some frames) : options.headless = true := by
  have has : found.value? Declared.frames = some (.number frames) := by
    rw [fields (Declared.frames, options.frames?.map .number) (by simp [Options.fields]), chosen]
    rfl
  have unset : Declared.frames.standardValue? = none := rfl
  have chosen := documented.chosen_of_value h (by decide) has (by simp [unset])
  obtain ⟨value, needed⟩ := documented.needs _ _ h _ (by decide) _ chosen _ rfl
  obtain ⟨text?, read⟩ :=
    documented.written _ _ h Declared.headless (by decide) value needed
  cases Kind.eq_of_read_flag read
  have held := fields (Declared.headless, some (.flag options.headless)) (by simp [Options.fields])
  rw [Matches.value?, show Declared.headless.name = "headless" from rfl, needed] at held
  exact (Value.flag.inj (Option.some.inj held)).symm

/-- **What is accepted**: options with values they take, as they are written, and with no flag that
is not written. -/
theorem accepted_of_parse (documented : Documented library declared)
    (h : parse library arguments = .ok options) :
    options.Sound ∧
      (∀ choice : Choice, choice.option ∈ declared → choice.Whole → choice.argument ∈ arguments →
        options.Holds choice) ∧
      ∀ option, (option, some (.flag true)) ∈ options.fields →
        "--" ++ option.name ∈ arguments := by
  obtain ⟨found, h, fields⟩ := parse_eq_ok_iff.mp h
  have takes : ∀ option value, (option, some value) ∈ options.fields →
      option.kind.Takes value := fun option value held =>
    documented.takes h (Options.mem_declared held) (fields _ held)
  refine ⟨Options.sound_iff.mpr ⟨takes, documented.headless_of_frames h fields⟩,
    fun choice among whole written => ?_, fun option held => ?_⟩
  · obtain ⟨value, reads, has⟩ := documented.reads _ _ h choice among whole written
    obtain ⟨value?, held⟩ := options.exists_field among
    have same := fields _ held
    rw [Matches.value?, has] at same
    cases same
    exact ⟨value, reads, held⟩
  · have among := Options.mem_declared held
    have flag := Kind.eq_flag_of_takes (takes _ _ held)
    have chosen := documented.chosen_of_value h among (fields _ held)
      (by simp [standardValue?_of_flag flag])
    obtain ⟨argument, written, named⟩ := documented.named _ _ h _ among _ chosen
    cases named with
    | long => exact written
    | attached text valued => exact absurd flag valued
    | short letter =>
      rw [letter?_of_flag _ among flag] at letter
      cases letter

end Documented

/-! ### Options written out -/

/-- The choice that gives an option its value. A flag that is not set is not written. -/
def Choice.ofField? : Declaration × Option Value → Option Choice
  | (option, some (.flag true)) => some { option }
  | (option, some (.path path)) => some { option, text? := some path }
  | (option, some (.number n)) => some { option, text? := some (toString n) }
  | _ => none

theorem Choice.option_of_ofField? {field : Declaration × Option Value} {choice : Choice}
    (h : ofField? field = some choice) : choice.option = field.1 := by
  unfold ofField? at h
  split at h <;> cases h <;> rfl

theorem Kind.read_path {kind : Kind} {path : String} (takes : kind.Takes (.path path)) :
    kind.read (some path) = .ok (.path path) := by
  cases kind with
  | flag => cases takes
  | path => exact if_neg takes
  | number low high => cases takes

theorem Kind.read_numeral {kind : Kind} {n : Nat} (takes : kind.Takes (.number n)) :
    kind.read (some (toString n)) = .ok (.number n) := by
  cases kind with
  | flag => cases takes
  | path => cases takes
  | number low high =>
    simp only [read, number?_toString]
    exact if_pos takes

/-- A choice is read as the value it was written for. -/
theorem Choice.value_of_ofField? {field : Declaration × Option Value} {choice : Choice}
    (h : ofField? field = some choice) (takes : ∀ value, field.2 = some value →
      field.1.kind.Takes value) : ∃ value, field.2 = some value ∧ choice.value = .ok value := by
  unfold ofField? at h
  split at h <;> cases h
  · refine ⟨.flag true, rfl, ?_⟩
    rw [value, Kind.eq_flag_of_takes (takes _ rfl)]
    rfl
  · exact ⟨_, rfl, Kind.read_path (takes _ rfl)⟩
  · exact ⟨_, rfl, Kind.read_numeral (takes _ rfl)⟩

namespace Options

variable (options : Options)

/-- The options as they are written, those that have a value. -/
def choices : List Choice :=
  options.fields.filterMap Choice.ofField?

/-- The options with some of them as they are, and the others as they are if nothing is written. -/
def restricted (written : List Choice) : Options :=
  let keeps (option : Declaration) : Bool := option ∈ written.map Choice.option
  { directory := if keeps Declared.directory then options.directory else "roms"
    debug := if keeps Declared.debug then options.debug else false
    scale := if keeps Declared.scale then options.scale else 2
    headless := if keeps Declared.headless then options.headless else false
    frames? := if keeps Declared.frames then options.frames? else none
    ships := if keeps Declared.ships then options.ships else 3
    bonusAt1000 := if keeps Declared.bonusAt1000 then options.bonusAt1000 else false
    allowUndocumented :=
      if keeps Declared.allowUndocumented then options.allowUndocumented else false
    sounds := if keeps Declared.sounds then options.sounds else "assets/sounds" }

variable {options}

/-- What is not written has its standard value. -/
theorem mem_fields_of_restricted {written : List Choice} :
    ∀ field ∈ (options.restricted written).fields, ∃ value?, (field.1, value?) ∈ options.fields ∧
      field.2 =
        if field.1 ∈ written.map Choice.option then value? else field.1.standardValue? := by
  simp only [fields, List.forall_mem_cons, restricted, decide_eq_true_eq]
  refine ⟨⟨some (.path options.directory), by simp, ?_⟩, ⟨some (.flag options.debug), by simp, ?_⟩,
    ⟨some (.number options.scale), by simp, ?_⟩, ⟨some (.flag options.headless), by simp, ?_⟩,
    ⟨options.frames?.map .number, by simp, ?_⟩, ⟨some (.number options.ships), by simp, ?_⟩,
    ⟨some (.flag options.bonusAt1000), by simp, ?_⟩,
    ⟨some (.flag options.allowUndocumented), by simp, ?_⟩,
    ⟨some (.path options.sounds), by simp, ?_⟩, nofun⟩ <;>
    split_ifs <;> rfl

theorem eq_of_mem_fields {option : Declaration} {value? value'? : Option Value}
    (h : (option, value?) ∈ options.fields) (h' : (option, value'?) ∈ options.fields) :
    value? = value'? := by
  have distinct : (options.fields.map Prod.fst).Nodup := wellFormed_declared.distinct.of_map _
  exact congrArg Prod.snd (List.inj_on_of_nodup_map distinct h h' rfl)

theorem mem_choices_iff {choice : Choice} :
    choice ∈ options.choices ↔
      ∃ value?, (choice.option, value?) ∈ options.fields ∧
        Choice.ofField? (choice.option, value?) = some choice := by
  rw [choices, List.mem_filterMap]
  constructor
  · rintro ⟨⟨option, value?⟩, held, made⟩
    obtain rfl : choice.option = option := Choice.option_of_ofField? made
    exact ⟨value?, held, made⟩
  · rintro ⟨value?, held, made⟩
    exact ⟨_, held, made⟩

/-- An option is written once. -/
theorem eq_of_mem_choices {choice choice' : Choice} (h : choice ∈ options.choices)
    (h' : choice' ∈ options.choices) (same : choice.option.name = choice'.option.name) :
    choice = choice' := by
  obtain ⟨value?, held, made⟩ := mem_choices_iff.mp h
  obtain ⟨value'?, held', made'⟩ := mem_choices_iff.mp h'
  have own : choice.option = choice'.option :=
    wellFormed_declared.eq_of_name (mem_declared held) (mem_declared held') same
  rw [own] at held made
  rw [eq_of_mem_fields held held', made'] at made
  exact (Option.some.inj made).symm

theorem Sound.value_of_choices (sound : options.Sound) {choice : Choice}
    (h : choice ∈ options.choices) :
    choice.option ∈ declared ∧
      ∃ value, (choice.option, some value) ∈ options.fields ∧ choice.value = .ok value := by
  obtain ⟨value?, held, made⟩ := mem_choices_iff.mp h
  have takes : ∀ value, value? = some value → choice.option.kind.Takes value := by
    rintro value rfl
    exact (sound_iff.mp sound).1 _ _ held
  obtain ⟨value, rfl, reads⟩ := Choice.value_of_ofField? made takes
  exact ⟨mem_declared held, value, held, reads⟩

/-- Only a number of frames needs another option. -/
theorem eq_of_requires? : ∀ option ∈ declared, option.requires?.isSome →
    option = Declared.frames ∧ option.requires? = some Declared.headless.name := by
  decide

/-- **Options that are written in any order are read as they are**, and the others as they are if
nothing is written. -/
theorem Sound.parse_written (sound : options.Sound) {library : Library}
    (documented : Documented library declared) {written : List Choice} (distinct : written.Nodup)
    (subset : ∀ choice ∈ written, choice ∈ options.choices)
    (headless : Declared.frames ∈ written.map Choice.option →
      Declared.headless ∈ written.map Choice.option) :
    parse library (written.map Choice.argument) = .ok (options.restricted written) := by
  have readable (choice : Choice) (among : choice ∈ written) :=
    sound.value_of_choices (subset choice among)
  have names : (written.map fun choice => choice.option.name).Nodup :=
    distinct.map_on fun choice among choice' among' same =>
      eq_of_mem_choices (subset choice among) (subset choice' among') same
  have needs : ∀ choice ∈ written, ∀ name, choice.option.requires? = some name →
      ∃ other ∈ written, other.option.name = name := by
    intro choice among name needed
    obtain ⟨frames, required⟩ := eq_of_requires? _ (readable choice among).1 (by simp [needed])
    obtain ⟨other, among', own⟩ :=
      List.mem_map.mp (headless (frames ▸ List.mem_map_of_mem among))
    rw [needed] at required
    exact ⟨other, among', own ▸ (Option.some.inj required).symm⟩
  obtain ⟨found, h⟩ := documented.accepts written (fun choice among =>
    ⟨(readable choice among).1, (readable choice among).2.imp fun _ => And.right⟩) names needs
  refine parse_eq_ok_iff.mpr ⟨found, h, fun field among => ?_⟩
  obtain ⟨value?, held, restricted⟩ := mem_fields_of_restricted field among
  have declares := mem_declared held
  rw [restricted]
  split_ifs with named
  · -- it is written, so it has the value it is written with
    obtain ⟨choice, among, own⟩ := List.mem_map.mp named
    obtain ⟨-, value, held', reads⟩ := readable choice among
    obtain ⟨value', reads', chosen⟩ := documented.reads _ _ h choice (own ▸ declares)
      (Choice.whole_of_value reads) (List.mem_map_of_mem among)
    have found := Except.ok.inj (reads.symm.trans reads')
    rw [own] at held' chosen
    rw [Matches.value?, chosen, eq_of_mem_fields held held', found]
    rfl
  · -- no argument names it
    have unchosen : ∀ value, found field.1.name ≠ some ⟨value, true⟩ := by
      intro value chosen
      obtain ⟨argument, read, names⟩ := documented.named _ _ h _ declares _ chosen
      obtain ⟨choice, among, rfl⟩ := List.mem_map.mp read
      rw [wellFormed_declared.eq_of_namedBy declares (readable choice among).1 names] at named
      exact named (List.mem_map_of_mem among)
    rw [Matches.value?, documented.standard _ _ h _ declares unchosen, Option.map_map]
    exact Option.map_id_apply

/-- The machine gets the ships that are asked for, and its switches can show them. -/
theorem Sound.ships_settings (sound : options.Sound) :
    options.settings.dips.ships.toNat = options.ships ∧
      options.settings.dips.shownShips = options.settings.dips.ships := by
  obtain ⟨least, most⟩ := sound.ships
  have ships : options.settings.dips.ships.toNat = options.ships := by
    change (UInt8.ofNat options.ships).toNat = options.ships
    rw [UInt8.toNat_ofNat']
    omega
  refine ⟨ships, ?_⟩
  have three : ¬options.settings.dips.ships < 3 := by
    rw [UInt8.lt_iff_toNat_lt, ships]
    exact Nat.not_lt.mpr least
  have six : ¬6 < options.settings.dips.ships := by
    rw [UInt8.lt_iff_toNat_lt, ships]
    exact Nat.not_lt.mpr most
  rw [DipSwitches.shownShips, if_neg three, if_neg six]

end Options

/-- **The round trip of a command line**, with any library that does what is documented. Options
with values they take are read as they are written, whichever of them are written and in whatever
order; the others are as they are if nothing is written. The machine gets them unchanged. Whatever
else stands on a command line, what is accepted are options with values they take, as they are
written; so the switches show the ships that are asked for. A value that an option does not take is
rejected, and so is a number of frames for a game in a window. -/
theorem command_line_round_trip (library : Library) (documented : Documented library declared) :
    (∀ (options : Options) (written : List Choice), options.Sound → written.Nodup →
      (∀ choice ∈ written, choice ∈ options.choices) →
      (Declared.frames ∈ written.map Choice.option →
        Declared.headless ∈ written.map Choice.option) →
      parse library (written.map Choice.argument) = .ok (options.restricted written)) ∧
    (∀ options : Options, options.settings =
      { clockSpeed := 2000000
        refreshRate := 60
        dips := {
          ships := UInt8.ofNat options.ships
          bonusAt1000 := options.bonusAt1000
          coinInfo := true }
        debug := options.debug
        strict := !options.allowUndocumented }) ∧
    (∀ (arguments : List String) (options : Options), parse library arguments = .ok options →
      options.Sound ∧
      options.settings.dips.ships.toNat = options.ships ∧
      options.settings.dips.shownShips = options.settings.dips.ships ∧
      (∀ choice : Choice, choice.option ∈ declared → choice.Whole → choice.argument ∈ arguments →
        options.Holds choice) ∧
      ∀ option, (option, some (.flag true)) ∈ options.fields →
        (⟨option, none⟩ : Choice).argument ∈ arguments) ∧
    ∀ arguments : List String,
      ((∃ choice : Choice, choice.option ∈ declared ∧ choice.Whole ∧
          choice.argument ∈ arguments ∧ ∀ value, choice.value ≠ .ok value) ∨
        (∃ text, (⟨Declared.frames, some text⟩ : Choice).argument ∈ arguments) ∧
          (⟨Declared.headless, none⟩ : Choice).argument ∉ arguments) →
      ∃ error, parse library arguments = .error error := by
  refine ⟨fun options written sound distinct subset headless =>
      sound.parse_written documented distinct subset headless,
    fun options => rfl, fun arguments options h => ?_, fun arguments wrong => ?_⟩
  · obtain ⟨sound, holds, flags⟩ := documented.accepted_of_parse h
    exact ⟨sound, sound.ships_settings.1, sound.ships_settings.2, holds, flags⟩
  · match h : parse library arguments with
    | .error error => exact ⟨error, rfl⟩
    | .ok options =>
      obtain ⟨sound, holds, flags⟩ := documented.accepted_of_parse h
      rcases wrong with ⟨choice, among, whole, written, unread⟩ | ⟨⟨text, written⟩, windowed⟩
      · obtain ⟨value, reads, -⟩ := holds choice among whole written
        exact absurd reads (unread value)
      · have among : Declared.frames ∈ declared := by decide
        have whole : (⟨Declared.frames, some text⟩ : Choice).Whole := by
          intro nothing
          cases nothing
        obtain ⟨value, -, held⟩ := holds _ among whole written
        have place : (Declared.frames, options.frames?.map .number) ∈ options.fields := by
          simp [Options.fields]
        obtain ⟨frames, chosen, -⟩ :=
          Option.map_eq_some_iff.mp (Options.eq_of_mem_fields held place).symm
        have set := (sound.frames frames chosen).2
        exact absurd (flags Declared.headless (by simp [Options.fields, set])) windowed

/-- Options in some order are read, and a value that is not taken is rejected. -/
theorem command_line_round_trip_shuffled :
    Documented read declared ∧
      parse read ["--frames=120", "--ships=5", "--headless", "--dir=/tmp/roms"] =
        .ok {
          directory := "/tmp/roms"
          debug := false
          scale := 2
          headless := true
          frames? := some 120
          ships := 5
          bonusAt1000 := false
          allowUndocumented := false
          sounds := "assets/sounds" } ∧
      ∃ error, parse read ["--ships=7", "--debug"] = .error error := by
  obtain ⟨reads, -, -, rejects⟩ := command_line_round_trip read (documented_read wellFormed_declared)
  refine ⟨documented_read wellFormed_declared, ?_, ?_⟩
  · have read := reads
      { directory := "/tmp/roms", debug := false, scale := 2, headless := true, frames? := some 120,
        ships := 5, bonusAt1000 := false, allowUndocumented := false, sounds := "assets/sounds" }
      [⟨Declared.frames, some "120"⟩, ⟨Declared.ships, some "5"⟩, ⟨Declared.headless, none⟩,
        ⟨Declared.directory, some "/tmp/roms"⟩]
      ⟨by decide, by decide, fun _ chosen => by cases chosen; decide, by decide, by decide⟩
      (by decide) (by decide) (by decide)
    exact read
  · refine rejects _ (Or.inl ⟨⟨Declared.ships, some "7"⟩, by decide, nofun, by decide, ?_⟩)
    intro value read
    cases read

end Arcade.CommandLine
