import Arcade.CommandLine.Reader
import Arcade.Proofs.CommandLine.Library
import Arcade.Proofs.Core.History

/-! # A library that does what is documented

What the reader has found out after some arguments is known of these arguments, whatever follows.

* `Given.Sourced`: the values that were given come from arguments, `Sourced.put` one more;
* `Progress.Knows`: what is known of the progress after some arguments, `Knows.take` after one more
  and `Knows.takeAll` after all of them;
* `takeAll_of_choices`: choices are read one after the other;
* `documented_read`: **the reader does what is documented**. -/

namespace Arcade.CommandLine

open Arcade.Core (bind_eq_ok_iff)

variable {declared : List Declaration} {arguments arguments' : List String} {given given' : Given}
  {option : Declaration} {text? : Option String}

/-! ### Values that were given -/

namespace Given

theorem put_eq_ok_iff :
    given.put option text? = .ok given' ↔
      given option.name = none ∧ ∃ value, option.kind.read text? = .ok value ∧
        given' = given.set option.name value := by
  unfold put
  split_ifs with twice
  · constructor
    · intro h
      cases h
    · rintro ⟨first, -⟩
      rw [first] at twice
      cases twice
  · rw [Option.not_isSome_iff_eq_none] at twice
    constructor
    · intro h
      obtain ⟨value, read, h⟩ := bind_eq_ok_iff.mp h
      cases h
      exact ⟨twice, value, read, rfl⟩
    · rintro ⟨-, value, read, rfl⟩
      exact bind_eq_ok_iff.mpr ⟨value, read, rfl⟩

/-- Each value is one of an option that an argument names. -/
def Sourced (declared : List Declaration) (arguments : List String) (given : Given) : Prop :=
  ∀ name value, given name = some value →
    ∃ option ∈ declared, option.name = name ∧ (∃ text?, option.kind.read text? = .ok value) ∧
      ∃ argument ∈ arguments, option.NamedBy argument

theorem Sourced.mono (h : given.Sourced declared arguments) (more : arguments ⊆ arguments') :
    given.Sourced declared arguments' := by
  intro name value has
  obtain ⟨option, among, same, read, argument, named, names⟩ := h name value has
  exact ⟨option, among, same, read, argument, more named, names⟩

/-- One more value. Those before it are kept. -/
theorem Sourced.put (h : given.Sourced declared arguments) (among : option ∈ declared)
    (named : ∃ argument ∈ arguments, option.NamedBy argument)
    (put : given.put option text? = .ok given') :
    given'.Sourced declared arguments ∧
      (∃ value, option.kind.read text? = .ok value ∧ given' option.name = some value) ∧
      ∀ name value, given name = some value → given' name = some value := by
  obtain ⟨first, value, read, rfl⟩ := put_eq_ok_iff.mp put
  refine ⟨fun name value' has => ?_, ⟨value, read, if_pos rfl⟩, fun name value' has => ?_⟩
  · rw [set] at has
    split_ifs at has with same
    · cases has
      exact ⟨option, among, same.symm, ⟨text?, read⟩, named⟩
    · exact h name value' has
  · have other : name ≠ option.name := by
      rintro rfl
      rw [first] at has
      cases has
    exact (if_neg other).trans has

end Given

/-! ### What is named -/

theorem Item.mem_of_ofLong? {name : List Char} (h : ofLong? declared name = some (.option option)) :
    option ∈ declared ∧ option.name.toList = name := by
  unfold ofLong? at h
  split at h
  · rename_i found
    cases h
    have same := List.find?_some found
    exact ⟨List.mem_of_find?_eq_some found, of_decide_eq_true same⟩
  · split_ifs at h <;> cases h

theorem Item.mem_of_ofShort? {letter : Char}
    (h : ofShort? declared letter = some (.option option)) :
    option ∈ declared ∧ option.letter? = some letter := by
  unfold ofShort? at h
  split at h
  · rename_i found
    cases h
    have same := List.find?_some found
    exact ⟨List.mem_of_find?_eq_some found, of_decide_eq_true same⟩
  · split_ifs at h <;> cases h

/-- A declared option is found by its name. -/
theorem WellFormed.ofLong?_name (well : WellFormed declared) (among : option ∈ declared) :
    Item.ofLong? declared option.name.toList = some (.option option) := by
  unfold Item.ofLong?
  split
  · rename_i other found
    have same := List.find?_some found
    rw [decide_eq_true_eq, String.toList_inj] at same
    rw [well.eq_of_name (List.mem_of_find?_eq_some found) among same]
  · rename_i missing
    exact absurd rfl (of_decide_eq_false
      (eq_false_of_ne_true (List.find?_eq_none.mp missing option among)))

/-! ### What is known after some arguments -/

namespace Progress

variable {p p' : Progress}

/-- What is known after some arguments: what was given comes from them, and so does a pending
option. -/
structure Knows (declared : List Declaration) (arguments : List String) (p : Progress) : Prop where
  sourced : p.given.Sourced declared arguments
  pending : ∀ option text?, p.pending? = some (option, text?) →
    option ∈ declared ∧ ∃ argument ∈ arguments, option.NamedBy argument

/-- What was given before is given still. -/
def Kept (p p' : Progress) : Prop :=
  ∀ name value, p.given name = some value → p'.given name = some value

theorem knows_nil : Knows declared [] {} where
  sourced name value has := by cases has
  pending option text? has := by cases has

theorem Knows.mono (h : p.Knows declared arguments) (more : arguments ⊆ arguments') :
    p.Knows declared arguments' where
  sourced := h.sourced.mono more
  pending option text? pending := by
    obtain ⟨among, argument, named, names⟩ := h.pending option text? pending
    exact ⟨among, argument, more named, names⟩

/-- The values given once a pending one is. -/
theorem Knows.settle (h : p.Knows declared arguments) (settled : p.settle = .ok given) :
    given.Sourced declared arguments ∧
      ∀ name value, p.given name = some value → given name = some value := by
  unfold Progress.settle at settled
  split at settled
  · cases settled
    exact ⟨h.sourced, fun _ _ => id⟩
  · cases settled
  · rename_i option text pending
    obtain ⟨among, named⟩ := h.pending _ _ pending
    obtain ⟨sourced, -, kept⟩ := h.sourced.put among named settled
    exact ⟨sourced, kept⟩

/-- A value that is given with its option. -/
theorem Knows.put (h : p.Knows declared arguments) (among : option ∈ declared)
    (named : ∃ argument ∈ arguments, option.NamedBy argument)
    (taken : (do return { given := ← (← p.settle).put option text? }) = Except.ok p') :
    p'.Knows declared arguments ∧ p.Kept p' ∧
      ∃ value, option.kind.read text? = .ok value ∧ p'.given option.name = some value := by
  obtain ⟨given, settled, taken⟩ := bind_eq_ok_iff.mp taken
  obtain ⟨given', put, taken⟩ := bind_eq_ok_iff.mp taken
  cases taken
  obtain ⟨sourced, kept⟩ := h.settle settled
  obtain ⟨sourced', new, kept'⟩ := sourced.put among named put
  exact ⟨⟨sourced', nofun⟩, fun name value has => kept' _ _ (kept _ _ has), new⟩

/-- An option that is named, with its value if it has come already. -/
theorem Knows.takeOption (h : p.Knows declared arguments) (among : option ∈ declared)
    (named : ∃ argument ∈ arguments, option.NamedBy argument)
    (taken : p.takeOption option text? = .ok p') :
    p'.Knows declared arguments ∧ p.Kept p' ∧
      ((text? = none → option.kind = .flag) →
        ∃ value, option.kind.read text? = .ok value ∧ p'.given option.name = some value) := by
  unfold Progress.takeOption at taken
  split at taken
  · cases taken
  · obtain ⟨knows, kept, new⟩ := h.put among named taken
    exact ⟨knows, kept, fun _ => new⟩
  · obtain ⟨knows, kept, new⟩ := h.put among named taken
    exact ⟨knows, kept, fun _ => new⟩
  · rename_i valued
    obtain ⟨given, settled, taken⟩ := bind_eq_ok_iff.mp taken
    cases taken
    obtain ⟨sourced, kept⟩ := h.settle settled
    refine ⟨⟨sourced, fun option' text?' pending => ?_⟩, kept, fun whole => ?_⟩
    · cases pending
      exact ⟨among, named⟩
    · exact absurd (whole rfl) valued

theorem takeItem_eq_ok {item : Item} (taken : p.takeItem item text? = .ok p') :
    ∃ option, item = .option option ∧ p.takeOption option text? = .ok p' := by
  match item, text? with
  | .option option, text? => exact ⟨option, rfl, taken⟩
  | .help, some text => cases taken
  | .version, some text => cases taken
  | .help, none =>
    obtain ⟨given, -, taken⟩ := bind_eq_ok_iff.mp taken
    cases taken
  | .version, none =>
    obtain ⟨given, -, taken⟩ := bind_eq_ok_iff.mp taken
    cases taken

/-- Letters of one argument. -/
theorem Knows.takeShort {all letters : List Char} (h : p.Knows declared arguments)
    (read : String.ofList ('-' :: all) ∈ arguments) (single : all.head? ≠ some '-')
    (part : letters ⊆ all) (taken : p.takeShort declared letters = .ok p') :
    p'.Knows declared arguments ∧ p.Kept p' := by
  induction letters generalizing p with
  | nil =>
    cases taken
    exact ⟨h, fun _ _ => id⟩
  | cons letter rest ih =>
    obtain ⟨first, part⟩ := List.cons_subset.mp part
    have named {option : Declaration} (found : Item.ofShort? declared letter = some (.option option)) :
        ∃ argument ∈ arguments, option.NamedBy argument :=
      ⟨_, read, .short (Item.mem_of_ofShort? found).2 first single⟩
    unfold Progress.takeShort at taken
    split at taken
    · cases taken
    · rename_i option found
      have among := (Item.mem_of_ofShort? found).1
      have alone {text? : Option String} (taken : p.takeOption option text? = .ok p') :
          p'.Knows declared arguments ∧ p.Kept p' := by
        obtain ⟨knows, kept, -⟩ := h.takeOption among (named found) taken
        exact ⟨knows, kept⟩
      split_ifs at taken with flag
      · obtain ⟨mid, first, taken⟩ := bind_eq_ok_iff.mp taken
        obtain ⟨knows, kept, -⟩ := h.takeOption among (named found) first
        obtain ⟨knows', kept'⟩ := ih knows part taken
        exact ⟨knows', fun name value has => kept' _ _ (kept _ _ has)⟩
      · split at taken
        · exact alone taken
        · exact alone taken
        · exact alone taken
    · rename_i item plain found
      obtain ⟨option, rfl, taken⟩ := takeItem_eq_ok taken
      exact absurd rfl (plain option)

/-- What follows the dashes is what is read of it. -/
theorem body_attached? {body : List Char} (named : body.takeWhile (· ≠ '=') = option.name.toList) :
    (⟨option, attached? body⟩ : Choice).body = body := by
  have whole : body.takeWhile (· ≠ '=') ++ body.dropWhile (· ≠ '=') = body :=
    List.takeWhile_append_dropWhile
  have equals := List.head?_dropWhile_not (fun c : Char => decide (c ≠ '=')) body
  rw [named] at whole
  unfold Choice.body attached?
  match rest : body.dropWhile (· ≠ '=') with
  | [] =>
    rw [rest, List.append_nil] at whole
    exact whole
  | c :: text =>
    rw [rest] at whole equals
    have c_eq : c = '=' := by simpa using equals
    rw [← whole, c_eq]
    change option.name.toList ++ '=' :: (String.ofList text).toList = _
    rw [String.toList_ofList]

/-- What is taken as an option with its value is an argument that names it. -/
theorem namedBy_of_takeOption (taken : p.takeOption option text? = .ok p') :
    option.NamedBy (⟨option, text?⟩ : Choice).argument := by
  cases text? with
  | none => exact .long
  | some text =>
    refine .attached text fun flag => ?_
    simp only [takeOption, flag] at taken
    cases taken

/-- **What is known after one more argument.** If it is that of a choice, the option has the
value. -/
theorem Knows.take (well : WellFormed declared) {argument : String} (h : p.Knows declared arguments)
    (taken : p.take declared argument.toList = .ok p') :
    p'.Knows declared (arguments ++ [argument]) ∧ p.Kept p' ∧
      ∀ choice : Choice, choice.option ∈ declared → choice.Whole → choice.argument = argument →
        ∃ value, choice.value = .ok value ∧ p'.given choice.option.name = some value := by
  have read : argument ∈ arguments ++ [argument] :=
    List.mem_append_right _ (List.mem_singleton_self _)
  have known := h.mono (List.subset_append_left arguments [argument])
  unfold Progress.take at taken
  split at taken
  · rename_i body long
    unfold takeLong at taken
    split at taken
    · rename_i item found
      obtain ⟨option, rfl, taken'⟩ := takeItem_eq_ok taken
      obtain ⟨among, name⟩ := Item.mem_of_ofLong? found
      let choice : Choice := ⟨option, attached? body⟩
      have written : choice.argument = argument := by
        rw [← String.toList_inj, choice.toList_argument, body_attached? name.symm, long]
      have named : option.NamedBy argument := by
        rw [← written]
        exact namedBy_of_takeOption taken'
      obtain ⟨knows, kept, new⟩ := known.takeOption among ⟨argument, read, named⟩ taken'
      refine ⟨knows, kept, fun choice' among' whole same => ?_⟩
      obtain rfl : choice' = choice := well.eq_of_argument among' among (same.trans written.symm)
      exact new whole
    · cases taken
  · rename_i letter rest single short
    have letters : String.ofList ('-' :: letter :: rest) = argument := by
      rw [← String.toList_inj, String.toList_ofList, short]
    have head : (letter :: rest).head? ≠ some '-' := by
      intro h
      cases h
      exact single rfl
    obtain ⟨knows, kept⟩ := known.takeShort (letters ▸ read) head (List.Subset.refl _) taken
    refine ⟨knows, kept, fun choice among whole same => ?_⟩
    rw [← same, choice.toList_argument] at short
    cases short
    exact absurd rfl head
  · rename_i long short
    unfold takeWord at taken
    split at taken
    · rename_i option pending
      cases taken
      refine ⟨⟨known.sourced, fun option' text? waiting => ?_⟩, fun _ _ => id,
        fun choice among whole same => ?_⟩
      · cases waiting
        exact known.pending _ _ pending
      · rw [← same, choice.toList_argument] at long
        exact absurd rfl (long _)
    · cases taken

/-- **What is known after all arguments.** -/
theorem Knows.takeAll (well : WellFormed declared) {rest : List String}
    (h : p.Knows declared arguments) (taken : p.takeAll declared rest = .ok p') :
    p'.Knows declared (arguments ++ rest) ∧ p.Kept p' ∧
      ∀ choice : Choice, choice.option ∈ declared → choice.Whole → choice.argument ∈ rest →
        ∃ value, choice.value = .ok value ∧ p'.given choice.option.name = some value := by
  induction rest generalizing p arguments with
  | nil =>
    cases taken
    rw [List.append_nil]
    exact ⟨h, fun _ _ => id, fun _ _ _ => nofun⟩
  | cons argument rest ih =>
    unfold Progress.takeAll at taken
    split_ifs at taken with dashes last
    · cases taken
      rw [dashes, List.isEmpty_iff.mp last]
      refine ⟨h.mono (List.subset_append_left _ _), fun _ _ => id,
        fun choice among whole read => ?_⟩
      exact absurd (List.mem_singleton.mp read) (well.argument_ne among)
    · obtain ⟨mid, first, taken⟩ := bind_eq_ok_iff.mp taken
      obtain ⟨knows, kept, new⟩ := h.take well first
      obtain ⟨knows', kept', later⟩ := ih knows taken
      rw [List.append_assoc, List.singleton_append] at knows'
      refine ⟨knows', fun name value has => kept' _ _ (kept _ _ has),
        fun choice among whole read => ?_⟩
      rcases List.mem_cons.mp read with rfl | read
      · obtain ⟨value, reads, has⟩ := new choice among whole rfl
        exact ⟨value, reads, kept' _ _ has⟩
      · exact later choice among whole read

/-! ### Choices that are read -/

/-- What is read of the argument of a choice. -/
theorem attached?_body (well : WellFormed declared) {choice : Choice}
    (among : choice.option ∈ declared) : attached? choice.body = choice.text? := by
  have plain := List.all_eq_true.mp (well.plain _ among)
  obtain ⟨option, text?⟩ := choice
  unfold attached?
  cases text? with
  | some text =>
    rw [Choice.body, List.dropWhile_append_of_pos plain, List.dropWhile_cons_of_neg (by decide)]
    exact congrArg some (String.ofList_toList)
  | none => rw [Choice.body, List.dropWhile_eq_nil_iff.mpr plain]

theorem take_argument (well : WellFormed declared) {choice : Choice}
    (among : choice.option ∈ declared) (p : Progress) :
    p.take declared choice.argument.toList = p.takeOption choice.option choice.text? := by
  rw [choice.toList_argument, take, takeLong, well.takeWhile_body among, attached?_body well among,
    well.ofLong?_name among]
  rfl

/-- An option is taken with a value that can be read of it. -/
theorem takeOption_of_value {value : Value} (first : given option.name = none)
    (read : option.kind.read text? = .ok value) :
    ({ given } : Progress).takeOption option text? =
      .ok { given := given.set option.name value } := by
  have put := Given.put_eq_ok_iff.mpr ⟨first, value, read, rfl⟩
  have put' : (do return { given := ← (← ({ given } : Progress).settle).put option text? }) =
      Except.ok ({ given := given.set option.name value } : Progress) :=
    bind_eq_ok_iff.mpr ⟨given, rfl, bind_eq_ok_iff.mpr ⟨_, put, rfl⟩⟩
  unfold takeOption
  split
  · rename_i flag
    rw [flag] at read
    cases read
  · exact put'
  · exact put'
  · rename_i valued
    rw [Kind.eq_flag_of_read_none read] at valued
    exact absurd rfl valued

/-- **Choices are read one after the other.** -/
theorem takeAll_of_choices (well : WellFormed declared) {choices : List Choice}
    (readable : ∀ choice ∈ choices, choice.option ∈ declared ∧ ∃ value, choice.value = .ok value)
    (distinct : (choices.map fun choice => choice.option.name).Nodup)
    (new : ∀ choice ∈ choices, given choice.option.name = none) :
    ∃ given', ({ given } : Progress).takeAll declared (choices.map Choice.argument) =
      .ok { given := given' } := by
  induction choices generalizing given with
  | nil => exact ⟨given, rfl⟩
  | cons choice choices ih =>
    obtain ⟨⟨among, value, read⟩, readable⟩ := List.forall_mem_cons.mp readable
    obtain ⟨first, new⟩ := List.forall_mem_cons.mp new
    obtain ⟨other, distinct⟩ := List.nodup_cons.mp distinct
    have taken := takeOption_of_value first read
    rw [← take_argument well among] at taken
    have new' : ∀ choice' ∈ choices,
        given.set choice.option.name value choice'.option.name = none := by
      intro choice' later
      have apart : choice'.option.name ≠ choice.option.name := fun same =>
        other (List.mem_map.mpr ⟨choice', later, same⟩)
      exact (if_neg apart).trans (new choice' later)
    obtain ⟨given', rest⟩ := ih readable distinct new'
    refine ⟨given', ?_⟩
    rw [List.map_cons, takeAll, if_neg (well.argument_ne among), taken]
    exact rest

end Progress

/-! ### What the reader finds -/

theorem Given.found_eq_chosen_iff {name : String} {value : Value} :
    given.found declared name = some ⟨value, true⟩ ↔ given name = some value := by
  unfold found
  split
  · rename_i value' has
    simp [has]
  · rename_i missing
    rw [missing]
    simp only [reduceCtorEq, iff_false]
    intro h
    obtain ⟨option, -, h⟩ := Option.bind_eq_some_iff.mp h
    obtain ⟨value', -, h⟩ := Option.map_eq_some_iff.mp h
    cases h

theorem Given.found_of_none (well : WellFormed declared) (among : option ∈ declared)
    (missing : given option.name = none) :
    given.found declared option.name = option.standardValue?.map fun value => ⟨value, false⟩ := by
  have find : (declared.find? fun other => decide (other.name = option.name)) = some option := by
    match found : declared.find? fun other => decide (other.name = option.name) with
    | some other =>
      have same := List.find?_some found
      rw [found, well.eq_of_name (List.mem_of_find?_eq_some found) among (of_decide_eq_true same)]
    | none =>
      have unlike := List.find?_eq_none.mp found option among
      simp at unlike
  unfold found
  rw [missing, find]
  rfl

/-- What is known of a command line that is accepted. -/
theorem exists_given_of_read (well : WellFormed declared) {found : Matches}
    (h : read declared arguments = .ok found) :
    ∃ given : Given, found = given.found declared ∧ given.Sourced declared arguments ∧
      (∀ choice : Choice, choice.option ∈ declared → choice.Whole → choice.argument ∈ arguments →
        ∃ value, choice.value = .ok value ∧ given choice.option.name = some value) ∧
      ∀ option ∈ declared, given.lacks option = false := by
  obtain ⟨p, taken, h⟩ := bind_eq_ok_iff.mp h
  obtain ⟨given, settled, h⟩ := bind_eq_ok_iff.mp h
  obtain ⟨knows, -, chosen⟩ := Progress.knows_nil.takeAll well taken
  rw [List.nil_append] at knows
  obtain ⟨sourced, kept⟩ := knows.settle settled
  split_ifs at h with lacks
  · cases h
  · cases h
    refine ⟨given, rfl, sourced, fun choice among whole written => ?_, fun option among => ?_⟩
    · obtain ⟨value, reads, has⟩ := chosen choice among whole written
      exact ⟨value, reads, kept _ _ has⟩
    · exact eq_false_of_ne_true fun lack => lacks (List.any_eq_true.mpr ⟨option, among, lack⟩)

/-- Nothing is missing if what the choices need is among them. -/
theorem lacks_of_choices (well : WellFormed declared) {choices : List Choice}
    (among : ∀ choice ∈ choices, choice.option ∈ declared)
    (sourced : given.Sourced declared (choices.map Choice.argument))
    (has : ∀ choice ∈ choices, given choice.option.name ≠ none)
    (needs : ∀ choice ∈ choices, ∀ name, choice.option.requires? = some name →
      ∃ other ∈ choices, other.option.name = name)
    (declares : option ∈ declared) : given.lacks option = false := by
  refine eq_false_of_ne_true fun lacks => ?_
  rw [Given.lacks, Bool.and_eq_true, Option.isSome_iff_exists, Option.any_eq_true] at lacks
  obtain ⟨⟨value, chosen⟩, name, required, missing⟩ := lacks
  obtain ⟨other, declares', same, -, argument, written, named⟩ := sourced _ _ chosen
  obtain ⟨choice, member, rfl⟩ := List.mem_map.mp written
  have own := well.eq_of_namedBy declares' (among choice member) named
  rw [own] at same
  rw [well.eq_of_name declares (among choice member) same.symm] at required
  obtain ⟨needed, member', rfl⟩ := needs choice member name required
  exact has needed member' (Option.isNone_iff_eq_none.mp missing)

/-- **The reader does what is documented.** -/
theorem documented_read (well : WellFormed declared) : Documented read declared where
  accepts choices readable distinct needs := by
    have none_given : ∀ choice ∈ choices, ({} : Progress).given choice.option.name = none :=
      fun _ _ => rfl
    obtain ⟨given, taken⟩ := Progress.takeAll_of_choices well readable distinct none_given
    obtain ⟨knows, -, chosen⟩ := Progress.knows_nil.takeAll well taken
    have has : ∀ choice ∈ choices, given choice.option.name ≠ none := by
      intro choice among missing
      obtain ⟨declares, value, reads⟩ := readable choice among
      obtain ⟨value', -, chosen⟩ := chosen choice declares (Choice.whole_of_value reads)
        (List.mem_map_of_mem among)
      cases missing.symm.trans chosen
    have complete : declared.any given.lacks = false := by
      rw [List.any_eq_false]
      intro option among lacks
      have lacks' := lacks_of_choices well (fun choice among => (readable choice among).1)
        knows.sourced has needs among
      rw [lacks] at lacks'
      cases lacks'
    refine ⟨given.found declared, bind_eq_ok_iff.mpr ⟨_, taken, bind_eq_ok_iff.mpr
      ⟨given, rfl, ?_⟩⟩⟩
    rw [if_neg (ne_true_of_eq_false complete)]
    rfl
  reads arguments found h choice among whole written := by
    obtain ⟨given, rfl, -, chosen, -⟩ := exists_given_of_read well h
    obtain ⟨value, reads, has⟩ := chosen choice among whole written
    exact ⟨value, reads, Given.found_eq_chosen_iff.mpr has⟩
  named arguments found h option among value has := by
    obtain ⟨given, rfl, sourced, -⟩ := exists_given_of_read well h
    obtain ⟨other, among', same, -, named⟩ := sourced _ _ (Given.found_eq_chosen_iff.mp has)
    rwa [well.eq_of_name among' among same] at named
  written arguments found h option among value has := by
    obtain ⟨given, rfl, sourced, -⟩ := exists_given_of_read well h
    obtain ⟨other, among', same, reads, -⟩ := sourced _ _ (Given.found_eq_chosen_iff.mp has)
    rwa [well.eq_of_name among' among same] at reads
  standard arguments found h option among missing := by
    obtain ⟨given, rfl, -⟩ := exists_given_of_read well h
    refine Given.found_of_none well among (Option.eq_none_iff_forall_not_mem.mpr fun value has => ?_)
    exact missing value (Given.found_eq_chosen_iff.mpr has)
  needs arguments found h option among value has name needed := by
    obtain ⟨given, rfl, -, -, complete⟩ := exists_given_of_read well h
    have lacks := complete option among
    rw [Given.lacks, Given.found_eq_chosen_iff.mp has, needed] at lacks
    match other : given name with
    | some value' => exact ⟨value', Given.found_eq_chosen_iff.mpr other⟩
    | none =>
      simp [other] at lacks

end Arcade.CommandLine
