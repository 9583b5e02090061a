/-!
# Command line arguments

A command and its options. An option's long name may be cut short as long as it is clear, its value
may follow an equals sign, and options of one letter that take no value may be written together.
Arguments are read in order: asking for help ends the reading, and so does the first mistake.
-/

namespace Registrar.CommandLine

/-- The commands. -/
inductive Command
  | generate
  | check
  deriving DecidableEq

/-- The command a word means. -/
def Command.ofWord? : String → Option Command
  | "generate" => some generate
  | "check" => some check
  | _ => none

/-- The options. -/
inductive Flag
  | help | includePattern | excludePattern | output | projectRoot | runtimeModule | verbose
  deriving DecidableEq

namespace Flag

/-- The long name of an option. -/
def longName : Flag → List Char
  | help => "--help".toList
  | includePattern => "--include".toList
  | excludePattern => "--exclude".toList
  | output => "--output".toList
  | projectRoot => "--project-root".toList
  | runtimeModule => "--runtime-module".toList
  | verbose => "--verbose".toList

/-- The letter of an option that has one. -/
def letter? : Flag → Option Char
  | help => some 'h'
  | verbose => some 'v'
  | _ => none

/-- Whether an option takes a value. -/
def takesValue : Flag → Bool
  | help | verbose => false
  | _ => true

end Flag

/-- What an argument looks like. -/
inductive Shape
  /-- An option, with the value or letters attached to it; `isLong` tells how it is named. -/
  | option (flag : Flag) (isLong : Bool) (attached : Option (List Char))
  /-- An option that could be several. -/
  | ambiguous
  /-- An option there is none of. -/
  | unknown
  /-- A plain argument. -/
  | plain
  deriving DecidableEq

/-- Whether a text is a negative number. -/
def isNegativeNumber : List Char → Bool
  | '-' :: digits =>
    let whole := digits.takeWhile Char.isDigit
    match digits.dropWhile Char.isDigit with
    | [] => !whole.isEmpty
    | '.' :: fraction => !fraction.isEmpty && fraction.all Char.isDigit
    | _ => false
  | _ => false

/-- Cut a text at its first equals sign. -/
def splitValue (text : List Char) : List Char × Option (List Char) :=
  match text.dropWhile (· != '=') with
  | _ :: value => (text.takeWhile (· != '='), some value)
  | [] => (text, none)

/-- The shape of an argument before any pair of dashes, by the options there are. -/
def shape (flags : List Flag) (argument : List Char) : Shape :=
  match argument with
  | '-' :: second :: letters =>
    let (name, value) := splitValue argument
    let byLetter := flags.find? fun flag => flag.letter? == some second
    if second == '-' then
      match flags.find? (·.longName == name) with
      | some flag => .option flag true value
      | none =>
        match flags.filter fun flag => name.isPrefixOf flag.longName with
        | [flag] => .option flag true value
        | _ :: _ :: _ => .ambiguous
        | [] => if argument.contains ' ' then .plain else .unknown
    else match byLetter with
      | some flag =>
        if name.length == 2 then .option flag false value
        else .option flag false (some letters)
      | none =>
        if isNegativeNumber argument || argument.contains ' ' then .plain else .unknown
  | _ => .plain

/-- What the letters attached to an option of one letter ask for. -/
inductive Letters
  | help
  | flags (verbose : Bool)
  | mistake

/-- Read letters written together. -/
def readLetters (flags : List Flag) : List Char → Letters
  | [] => .flags false
  | c :: rest =>
    match flags.find? fun flag => flag.letter? == some c with
    | some .help =>
      match readLetters flags rest with
      | .mistake => .mistake
      | _ => .help
    | some _ =>
      match readLetters flags rest with
      | .flags _ => .flags true
      | other => other
    | none => .mistake

/-- The options of a command as given. -/
structure Options where
  includes : List String
  excludes : List String
  output : Option String
  projectRoot : Option String
  runtimeModule : Option String
  verbose : Bool

/-- No options. -/
def Options.none : Options := ⟨[], [], .none, .none, .none, false⟩

/-- Give an option a value. -/
def Options.set (options : Options) (flag : Flag) (value : String) : Options :=
  match flag with
  | .includePattern => { options with includes := options.includes ++ [value] }
  | .excludePattern => { options with excludes := options.excludes ++ [value] }
  | .output => { options with output := some value }
  | .projectRoot => { options with projectRoot := some value }
  | .runtimeModule => { options with runtimeModule := some value }
  | .help | .verbose => options

/-- What the arguments ask for. -/
inductive Request
  /-- A usage text, after which the program ends well. -/
  | help
  /-- Nothing that can be done: the arguments are mistaken. -/
  | mistake
  /-- A command. -/
  | run (command : Command) (options : Options)

/-- The options of a command and its sub-options. -/
def commandFlags : List Flag :=
  [.help, .includePattern, .excludePattern, .output, .projectRoot, .runtimeModule, .verbose]

/-- The arguments up to a pair of dashes, with their shapes. -/
def shapes (flags : List Flag) (arguments : List String) : List (String × Shape) :=
  (arguments.takeWhile (· != "--")).map fun argument => (argument, shape flags argument.toList)

/-- Read the options of a command in order; `leftover` holds once an argument has no use. -/
def readOptions (command : Command) (options : Options) (leftover : Bool) :
    List (String × Shape) → Request
  | [] => if leftover then .mistake else .run command options
  | (_, shape) :: rest =>
    match shape with
    | .plain | .unknown => readOptions command options true rest
    | .ambiguous => .mistake
    | .option flag isLong attached =>
      if flag.takesValue then
        match attached, rest with
        | some value, rest =>
          readOptions command (options.set flag (String.ofList value)) leftover rest
        | none, (value, .plain) :: rest =>
          readOptions command (options.set flag value) leftover rest
        | none, _ => .mistake
      else if (isLong && attached.isSome) || attached == some [] then .mistake
      else match readLetters commandFlags (flag.letter?.toList ++ attached.getD []) with
        | .help => .help
        | .mistake => .mistake
        | .flags _ => readOptions command { options with verbose := true } leftover rest

/-- Read the arguments after a command. -/
def readCommand (command : Command) (leftover : Bool) (arguments : List String) : Request :=
  let shaped := shapes commandFlags arguments
  if shaped.any (·.2 == .ambiguous) then .mistake
  else readOptions command .none (leftover || arguments.contains "--") shaped

/-- Read the arguments. Only help can be asked for before the command. -/
def readFrom (leftover : Bool) : List String → Request
  | [] => .mistake
  | argument :: rest =>
    if argument == "--" then .mistake
    else match shape [.help] argument.toList with
      | .plain =>
        match Command.ofWord? argument with
        | some command => readCommand command leftover rest
        | none => .mistake
      | .unknown => readFrom true rest
      | .ambiguous => .mistake
      | .option _ isLong attached =>
        if (isLong && attached.isSome) || attached == some [] then .mistake
        else match readLetters [.help] ('h' :: attached.getD []) with
          | .help => .help
          | _ => .mistake

/-- Read the arguments of the program. -/
def read (arguments : List String) : Request := readFrom false arguments

end Registrar.CommandLine
