import Arcade.CommandLine.Options
import Mathlib.Data.List.Nodup
import Mathlib.Data.List.TakeWhile
import Mathlib.Tactic.SplitIfs

/-! # What is documented of a library

A library reads the command line for the program. It is not part of this development: it stands for
any function of its type that does what is documented. The documentation is of one option at a time.

* `Choice`: an option with what is written of its value, and its argument, `--name=value` or
  `--name`;
* `Declaration.NamedBy`: the arguments that name an option;
* `Documented`: what is documented;
* `eq_of_argument`, `eq_of_namedBy`: an argument is that of one choice, and names its option only;
* `Documented.takes`: the values a library finds are of the kinds that are declared. -/

namespace Arcade.CommandLine

/-! ### Choices -/

/-- An option as it can stand on a command line, with what is written of its value. -/
structure Choice where
  option : Declaration
  text? : Option String := none
  deriving DecidableEq, Repr

namespace Choice

/-- The argument, with the value behind an equals sign. -/
def argument (choice : Choice) : String :=
  match choice.text? with
  | some text => "--" ++ choice.option.name ++ "=" ++ text
  | none => "--" ++ choice.option.name

/-- The value, if it is one the option takes. -/
def value (choice : Choice) : Except Error Value :=
  choice.option.kind.read choice.text?

/-- Only a flag is written without a value. -/
def Whole (choice : Choice) : Prop :=
  choice.text? = none → choice.option.kind = .flag

/-- What stands behind the two dashes. -/
def body (choice : Choice) : List Char :=
  match choice.text? with
  | some text => choice.option.name.toList ++ '=' :: text.toList
  | none => choice.option.name.toList

theorem toList_argument (choice : Choice) :
    choice.argument.toList = '-' :: '-' :: choice.body := by
  obtain ⟨option, text?⟩ := choice
  cases text? with
  | some text =>
    simp only [argument, body, String.toList_append, List.append_assoc]
    rfl
  | none =>
    simp only [argument, body, String.toList_append]
    rfl

end Choice

/-! ### The documentation -/

/-- The arguments that name an option: its name, its name with a value if it takes one, or its
letter, alone or together with others. -/
inductive Declaration.NamedBy (option : Declaration) : String → Prop
  | long : option.NamedBy ("--" ++ option.name)
  | attached (text : String) (valued : option.kind ≠ .flag) :
    option.NamedBy ("--" ++ option.name ++ "=" ++ text)
  | short {letter : Char} {letters : List Char} (h : option.letter? = some letter)
      (among : letter ∈ letters) (single : letters.head? ≠ some '-') :
    option.NamedBy (.ofList ('-' :: letters))

/-- What is documented of a library, with the declarations it reads by. -/
structure Documented (library : Library) (declared : List Declaration) : Prop where
  /-- Options with values they take are accepted, if none is written twice and none is missing that
  another one needs. -/
  accepts : ∀ choices : List Choice,
    (∀ choice ∈ choices, choice.option ∈ declared ∧ ∃ value, choice.value = .ok value) →
    (choices.map fun choice => choice.option.name).Nodup →
    (∀ choice ∈ choices, ∀ name, choice.option.requires? = some name →
      ∃ other ∈ choices, other.option.name = name) →
    ∃ found, library declared (choices.map Choice.argument) = .ok found
  /-- An option has the value that is written with it. -/
  reads : ∀ arguments found, library declared arguments = .ok found →
    ∀ choice : Choice, choice.option ∈ declared → choice.Whole → choice.argument ∈ arguments →
      ∃ value, choice.value = .ok value ∧ found choice.option.name = some ⟨value, true⟩
  /-- An option is chosen by an argument that names it. -/
  named : ∀ arguments found, library declared arguments = .ok found →
    ∀ option ∈ declared, ∀ value, found option.name = some ⟨value, true⟩ →
      ∃ argument ∈ arguments, option.NamedBy argument
  /-- The value that is chosen is one that can be written with the option. -/
  written : ∀ arguments found, library declared arguments = .ok found →
    ∀ option ∈ declared, ∀ value, found option.name = some ⟨value, true⟩ →
      ∃ text?, option.kind.read text? = .ok value
  /-- An option that is not chosen has its standard value. -/
  standard : ∀ arguments found, library declared arguments = .ok found →
    ∀ option ∈ declared, (∀ value, found option.name ≠ some ⟨value, true⟩) →
      found option.name = option.standardValue?.map fun value => ⟨value, false⟩
  /-- An option is chosen together with the one it needs. -/
  needs : ∀ arguments found, library declared arguments = .ok found →
    ∀ option ∈ declared, ∀ value, found option.name = some ⟨value, true⟩ →
      ∀ name, option.requires? = some name → ∃ value, found name = some ⟨value, true⟩

/-! ### Names -/

/-- Declarations with names of their own, which are not empty and end before an equals sign. -/
structure WellFormed (declared : List Declaration) : Prop where
  distinct : (declared.map Declaration.name).Nodup
  named : ∀ option ∈ declared, option.name ≠ ""
  plain : ∀ option ∈ declared, option.name.toList.all (· ≠ '=') = true

theorem wellFormed_declared : WellFormed declared := by
  constructor <;> decide

section

variable {declared : List Declaration} {option option' : Declaration}
  {choice choice' : Choice}

theorem WellFormed.eq_of_name (well : WellFormed declared) (among : option ∈ declared)
    (among' : option' ∈ declared) (same : option.name = option'.name) : option = option' :=
  List.inj_on_of_nodup_map well.distinct among among' same

/-- A name ends at the equals sign. -/
theorem WellFormed.takeWhile_body (well : WellFormed declared) (among : choice.option ∈ declared) :
    choice.body.takeWhile (· ≠ '=') = choice.option.name.toList := by
  have plain := List.all_eq_true.mp (well.plain _ among)
  obtain ⟨option, text?⟩ := choice
  cases text? with
  | some text =>
    rw [Choice.body, List.takeWhile_append_of_pos plain, List.takeWhile_cons_of_neg (by decide),
      List.append_nil]
  | none => exact List.takeWhile_eq_self_iff.mpr plain

/-- An argument is more than its dashes. -/
theorem WellFormed.argument_ne (well : WellFormed declared) (among : choice.option ∈ declared) :
    choice.argument ≠ "--" := by
  intro bare
  have lists := congrArg String.toList bare
  rw [choice.toList_argument] at lists
  have empty : choice.body = [] := (List.cons.inj (List.cons.inj lists).2).2
  have name := well.takeWhile_body among
  rw [empty, List.takeWhile_nil] at name
  exact well.named _ among (String.toList_eq_nil_iff.mp name.symm)

/-- **An argument is that of one choice.** -/
theorem WellFormed.eq_of_argument (well : WellFormed declared) (among : choice.option ∈ declared)
    (among' : choice'.option ∈ declared) (same : choice.argument = choice'.argument) :
    choice = choice' := by
  have lists := congrArg String.toList same
  rw [choice.toList_argument, choice'.toList_argument] at lists
  have bodies : choice.body = choice'.body := (List.cons.inj (List.cons.inj lists).2).2
  have names := well.takeWhile_body among
  rw [bodies, well.takeWhile_body among'] at names
  have options := well.eq_of_name among' among (String.toList_inj.mp names)
  obtain ⟨option, text?⟩ := choice
  obtain ⟨_, text'?⟩ := choice'
  cases options
  match text?, text'? with
  | none, none => rfl
  | some text, some text' =>
    have texts := (List.cons.inj (List.append_cancel_left bodies)).2
    rw [String.toList_inj.mp texts]
  | none, some text => simp [Choice.body] at bodies
  | some text, none => simp [Choice.body] at bodies

/-- The argument of a choice names its option only. -/
theorem WellFormed.eq_of_namedBy (well : WellFormed declared) (among : option ∈ declared)
    (among' : choice.option ∈ declared) (h : option.NamedBy choice.argument) :
    option = choice.option := by
  generalize written : choice.argument = argument at h
  cases h with
  | long =>
    have same : choice = ⟨option, none⟩ := well.eq_of_argument among' among written
    rw [same]
  | attached text =>
    have same : choice = ⟨option, some text⟩ := well.eq_of_argument among' among written
    rw [same]
  | short h letter single =>
    have lists := congrArg String.toList written
    rw [choice.toList_argument, String.toList_ofList] at lists
    rw [← (List.cons.inj lists).2] at single
    exact absurd rfl single

end

/-! ### Values -/

/-- The values of a kind. -/
def Kind.Takes : Kind → Value → Prop
  | flag, .flag _ => True
  | path, .path text => text ≠ ""
  | number low high, .number n => low ≤ n ∧ n ≤ high
  | _, _ => False

theorem Kind.eq_flag_of_takes {kind : Kind} {isSet : Bool} (h : kind.Takes (.flag isSet)) :
    kind = flag := by
  cases kind with
  | flag => rfl
  | path => cases h
  | number low high => cases h

theorem Kind.takes_of_read {kind : Kind} {text? : Option String} {value : Value}
    (h : kind.read text? = .ok value) : kind.Takes value := by
  match kind, text? with
  | flag, none =>
    cases h
    trivial
  | flag, some text => cases h
  | path, none => cases h
  | path, some text =>
    rw [read] at h
    split_ifs at h with empty
    cases h
    exact empty
  | number low high, none => cases h
  | number low high, some text =>
    rw [read] at h
    split at h
    · split_ifs at h with within
      cases h
      exact within
    · cases h

/-- Only a flag has a value of nothing. -/
theorem Kind.eq_flag_of_read_none {kind : Kind} {value : Value} (h : kind.read none = .ok value) :
    kind = flag := by
  cases kind with
  | flag => rfl
  | path => cases h
  | number low high => cases h

theorem Choice.whole_of_value {choice : Choice} {value : Value} (h : choice.value = .ok value) :
    choice.Whole := by
  intro nothing
  rw [Choice.value, nothing] at h
  exact Kind.eq_flag_of_read_none h

theorem Kind.eq_of_read_flag {text? : Option String} {value : Value}
    (h : flag.read text? = .ok value) : value = .flag true := by
  cases text? <;> cases h
  rfl

theorem Declaration.takes_of_standard {option : Declaration} {value : Value}
    (h : option.standardValue? = some value) : option.kind.Takes value := by
  unfold standardValue? at h
  split at h
  · rename_i kind
    cases h
    rw [kind]
    trivial
  · rename_i text _ _
    match read : option.kind.read (some text) with
    | .ok value' =>
      rw [read] at h
      cases h
      exact Kind.takes_of_read read
    | .error error =>
      rw [read] at h
      cases h
  · cases h

section

variable {library : Library} {declared : List Declaration} {arguments : List String}
  {found : Matches} {option : Declaration} {value : Value}

/-- A value that is not the standard one was chosen. -/
theorem Documented.chosen_of_value (documented : Documented library declared)
    (h : library declared arguments = .ok found) (among : option ∈ declared)
    (has : found.value? option = some value) (other : option.standardValue? ≠ some value) :
    found option.name = some ⟨value, true⟩ := by
  obtain ⟨⟨_, chosen⟩, result, rfl⟩ := Option.map_eq_some_iff.mp has
  by_cases some_chosen : ∃ value, found option.name = some ⟨value, true⟩
  · obtain ⟨value', chosen⟩ := some_chosen
    cases result.symm.trans chosen
    exact result
  · rw [not_exists] at some_chosen
    rw [Matches.value?, documented.standard _ _ h _ among some_chosen, Option.map_map] at has
    exact absurd (by simpa using has) other

/-- **What a library finds is of the kinds that are declared.** -/
theorem Documented.takes (documented : Documented library declared)
    (h : library declared arguments = .ok found) (among : option ∈ declared)
    (has : found.value? option = some value) : option.kind.Takes value := by
  by_cases standard : option.standardValue? = some value
  · exact Declaration.takes_of_standard standard
  · obtain ⟨text?, read⟩ := documented.written _ _ h _ among _
      (documented.chosen_of_value h among has standard)
    exact Kind.takes_of_read read

end

end Arcade.CommandLine
