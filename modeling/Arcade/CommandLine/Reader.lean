import Arcade.CommandLine.Declaration

/-!
# Reading a command line

A library that reads command lines as it is usual. Arguments are read from left to right. An option
that takes a value has it after an equals sign, right after its letter, or as the next argument if
that does not start with a dash (a lone dash is a value). A value of its own is only looked at when
the next option is reached, so that a word that is no option at all is reported first.

* `read` is the library, with which the program is run;
* `Progress.take` reads an argument.
-/

namespace Arcade.CommandLine

/-- The values that were given so far. -/
abbrev Given := String → Option Value

/-- What an argument can name: a declared option, or what every program has. -/
inductive Item
  | option (option : Declaration)
  | help
  | version
  deriving DecidableEq, Repr

namespace Item

/-- What a name stands for. -/
def ofLong? (declared : List Declaration) (name : List Char) : Option Item :=
  match declared.find? fun d => d.name.toList = name with
  | some d => some (.option d)
  | none =>
    if name = "help".toList then some .help
    else if name = "version".toList then some .version
    else none

/-- What a letter stands for. -/
def ofShort? (declared : List Declaration) (letter : Char) : Option Item :=
  match declared.find? fun d => d.letter? = some letter with
  | some d => some (.option d)
  | none =>
    if letter = 'h' then some .help
    else if letter = 'V' then some .version
    else none

end Item

/-- The values with one more. -/
def Given.set (given : Given) (name : String) (value : Value) : Given :=
  fun other => if other = name then some value else given other

/-- The values with what is written with an option. No option can be given twice. -/
def Given.put (given : Given) (option : Declaration) (text? : Option String) :
    Except Error Given :=
  if (given option.name).isSome then
    .error .argumentConflict
  else do
    return given.set option.name (← option.kind.read text?)

/-- How far the reading is: the values given, and an option whose value is the next argument or was
the last one. -/
structure Progress where
  given : Given := fun _ => none
  pending? : Option (Declaration × Option String) := none

namespace Progress

/-- The values given, the one of a pending option included. -/
def settle (p : Progress) : Except Error Given :=
  match p.pending? with
  | none => .ok p.given
  | some (_, none) => .error .invalidValue
  | some (option, some text) => p.given.put option (some text)

/-- An option with what is attached to it. -/
def takeOption (p : Progress) (option : Declaration) (attached? : Option String) :
    Except Error Progress :=
  match option.kind, attached? with
  | .flag, some _ => .error .tooManyValues
  | .flag, none => do return { given := ← (← p.settle).put option none }
  | _, some text => do return { given := ← (← p.settle).put option (some text) }
  | _, none => do return { given := ← p.settle, pending? := some (option, none) }

/-- What is named, with what is attached to it. -/
def takeItem (p : Progress) (item : Item) (attached? : Option String) : Except Error Progress :=
  match item, attached? with
  | .option option, _ => p.takeOption option attached?
  | _, some _ => .error .tooManyValues
  | .help, none => do let _ ← p.settle; throw .displayHelp
  | .version, none => do let _ ← p.settle; throw .displayVersion

/-- What follows an equals sign. -/
def attached? (body : List Char) : Option String :=
  match body.dropWhile (· ≠ '=') with
  | [] => none
  | _ :: text => some (String.ofList text)

/-- An option by its name, with what is attached to it. -/
def takeLong (declared : List Declaration) (p : Progress) (body : List Char) :
    Except Error Progress :=
  match Item.ofLong? declared (body.takeWhile (· ≠ '=')) with
  | some item => p.takeItem item (attached? body)
  | none => .error .unknownArgument

/-- Options by their letters. The rest of the argument is the value of the first one that takes
one; an equals sign may stand between them. -/
def takeShort (declared : List Declaration) (p : Progress) : List Char → Except Error Progress
  | [] => .ok p
  | letter :: rest =>
    match Item.ofShort? declared letter with
    | none => .error .unknownArgument
    | some (.option option) =>
      if option.kind = .flag then do
        (← p.takeOption option none).takeShort declared rest
      else
        match rest with
        | [] => p.takeOption option none
        | '=' :: text => p.takeOption option (some (String.ofList text))
        | text => p.takeOption option (some (String.ofList text))
    | some item => p.takeItem item none

/-- A word that is no option: the value of a pending option, or nothing that can be used. -/
def takeWord (p : Progress) (word : List Char) : Except Error Progress :=
  match p.pending? with
  | some (option, none) => .ok { p with pending? := some (option, some (String.ofList word)) }
  | _ => .error .unknownArgument

/-- The next argument. -/
def take (declared : List Declaration) (p : Progress) (argument : List Char) :
    Except Error Progress :=
  match argument with
  | '-' :: '-' :: body => p.takeLong declared body
  | '-' :: letter :: rest => p.takeShort declared (letter :: rest)
  | word => p.takeWord word

/-- The arguments that are left. After two dashes there can be no more options, and nothing but
options is understood. -/
def takeAll (declared : List Declaration) (p : Progress) : List String → Except Error Progress
  | [] => .ok p
  | argument :: rest =>
    if argument = "--" then
      if rest.isEmpty then .ok p else .error .unknownArgument
    else do
      (← p.take declared argument.toList).takeAll declared rest

end Progress

/-- Whether an option is given without another one that it needs. -/
def Given.lacks (given : Given) (option : Declaration) : Bool :=
  (given option.name).isSome && option.requires?.any fun other => (given other).isNone

/-- The values of all options: those that were given, and the others as they are declared. -/
def Given.found (declared : List Declaration) (given : Given) : Matches := fun name =>
  match given name with
  | some value => some ⟨value, true⟩
  | none =>
    (declared.find? fun option => option.name = name).bind fun option =>
      option.standardValue?.map fun value => ⟨value, false⟩

/-- The library. -/
def read : Library := fun declared arguments => do
  let given ← (← ({} : Progress).takeAll declared arguments).settle
  if declared.any given.lacks then
    throw .missingRequiredArgument
  return given.found declared

end Arcade.CommandLine
