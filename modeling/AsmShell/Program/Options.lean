import AsmShell.Assembler

/-!
# Options

The words behind the name of the program are options and scripts.  An option has
a long name behind two dashes, and most have a letter behind one dash; several
letters may share a dash.  An option with a value takes it from the same word or
from the next one.  Behind a word of two dashes everything is a script.  Words
are taken from left to right, and the first one that asks for the help or the
version, or that is wrong, decides.
-/

namespace AsmShell.Program

/-- An option that is given or not. -/
inductive Switch where
  | noColor
  | quiet
  | help
  | version
deriving DecidableEq, Inhabited, Repr

/-- An option with a value. -/
inductive Setting where
  | triple
  | cpu
deriving DecidableEq, Inhabited, Repr

/-- One option in a word. -/
inductive Occurrence where
  | switch (switch : Switch)
  | setting (setting : Setting) (value : String)
  /-- An option whose value is the next word. -/
  | awaiting (setting : Setting)
  | unknown (name : String)
  /-- An option with a value that it does not take. -/
  | overfull (switch : Switch)
deriving DecidableEq, Inhabited, Repr

/-- What a word is. -/
inductive Word where
  | endOfOptions
  | script (path : String)
  | options (occurrences : List Occurrence)
deriving DecidableEq, Inhabited, Repr

/-- The option with a letter. -/
def ofLetter? : Char → Option (Switch ⊕ Setting)
  | 'q' => some (.inl .quiet)
  | 'h' => some (.inl .help)
  | 'V' => some (.inl .version)
  | 't' => some (.inr .triple)
  | 'c' => some (.inr .cpu)
  | _ => none

/-- The option with a long name. -/
def ofLongName? : String → Option (Switch ⊕ Setting)
  | "no-color" => some (.inl .noColor)
  | "quiet" => some (.inl .quiet)
  | "help" => some (.inl .help)
  | "version" => some (.inl .version)
  | "triple" => some (.inr .triple)
  | "cpu" => some (.inr .cpu)
  | _ => none

/-- The options that letters behind one dash give.  What stands behind the letter of an option with
a value is its value, with or without an equals sign in front. -/
def ofLetters : List Char → List Occurrence
  | [] => []
  | letter :: rest =>
      match ofLetter? letter with
      | none => [.unknown (String.ofList [letter])]
      | some (.inl switch) => .switch switch :: ofLetters rest
      | some (.inr setting) =>
          match rest with
          | [] => [.awaiting setting]
          | '=' :: value => [.setting setting (String.ofList value)]
          | value => [.setting setting (String.ofList value)]

/-- The option that a long name gives, with an optional value behind an equals sign. -/
def ofLongWord (characters : List Char) : Occurrence :=
  let name := String.ofList (characters.takeWhile (· != '='))
  match ofLongName? name, characters.dropWhile (· != '=') with
  | none, _ => .unknown name
  | some (.inl switch), [] => .switch switch
  | some (.inl switch), _ => .overfull switch
  | some (.inr setting), [] => .awaiting setting
  | some (.inr setting), _ :: value => .setting setting (String.ofList value)

/-- What a word is.  A dash alone is the name of a script. -/
def Word.ofText (text : String) : Word :=
  match text.toList with
  | ['-', '-'] => .endOfOptions
  | '-' :: '-' :: name => .options [ofLongWord name]
  | '-' :: letter :: rest => .options (ofLetters (letter :: rest))
  | _ => .script text

/-- Whether a word can be the value of an option in front of it. -/
def Word.isValue : Word → Bool
  | .script _ => true
  | _ => false

/-- What was chosen for a session, with the scripts to run in order. -/
structure Options where
  triple : Option String := none
  cpu : Option String := none
  noColor : Bool := false
  quiet : Bool := false
  scripts : List String := []
deriving DecidableEq, Inhabited, Repr

/-- What the words ask for: the list of options, the version of the program, or a session. -/
inductive Invocation where
  | help
  | version
  | session (options : Options)
deriving DecidableEq, Inhabited, Repr

/-- What is wrong with the words. -/
inductive UsageError where
  | unknownOption (name : String)
  | unexpectedValue (switch : Switch)
  | missingValue (setting : Setting)
  | repeatedSwitch (switch : Switch)
  | repeatedSetting (setting : Setting)
  | invalidTriple (text : String)
  | emptyScript
deriving DecidableEq, Inhabited, Repr

/-- The long name of an option. -/
def Switch.name : Switch → String
  | .noColor => "--no-color"
  | .quiet => "--quiet"
  | .help => "--help"
  | .version => "--version"

/-- The long name of an option. -/
def Setting.name : Setting → String
  | .triple => "--triple"
  | .cpu => "--cpu"

/-- What is wrong, in words. -/
def UsageError.message : UsageError → String
  | .unknownOption name => "error: unexpected argument '" ++ name ++ "' found"
  | .unexpectedValue switch => "error: unexpected value for '" ++ switch.name ++ "' found"
  | .missingValue setting => "error: a value is required for '" ++ setting.name ++ "'"
  | .repeatedSwitch switch =>
      "error: the argument '" ++ switch.name ++ "' cannot be used multiple times"
  | .repeatedSetting setting =>
      "error: the argument '" ++ setting.name ++ "' cannot be used multiple times"
  | .invalidTriple text => "error: invalid value '" ++ text ++ "' for '--triple'"
  | .emptyScript => "error: a value is required for '[SCRIPTS]...'"

/-- The machines that a triple can name. -/
def architectures : List String :=
  ["aarch64", "arm", "armv7", "i386", "i586", "i686", "loongarch64", "mips", "mips64",
   "powerpc", "powerpc64", "powerpc64le", "riscv32", "riscv32gc", "riscv32i", "riscv32imac",
   "riscv64", "riscv64gc", "riscv64imac", "s390x", "sparc", "sparc64", "thumbv6m", "thumbv7em",
   "thumbv7m", "wasm32", "wasm64", "x86_64", "x86_64h"]

/-- Whether a text names a target: it begins with the name of a machine. -/
def isTriple (text : String) : Bool :=
  architectures.contains (String.ofList (text.toList.takeWhile (· != '-')))

namespace Options

/-- The options with one more switch, which must not be given twice. -/
def withSwitch (options : Options) (switch : Switch) : Except UsageError (Options ⊕ Invocation) :=
  match switch with
  | .noColor =>
      if options.noColor then .error (.repeatedSwitch switch)
      else .ok (.inl { options with noColor := true })
  | .quiet =>
      if options.quiet then .error (.repeatedSwitch switch)
      else .ok (.inl { options with quiet := true })
  | .help => .ok (.inr .help)
  | .version => .ok (.inr .version)

/-- The options with one more value, which must not be given twice. -/
def withSetting (options : Options) (setting : Setting) (value : String) :
    Except UsageError Options :=
  match setting with
  | .triple =>
      if options.triple.isSome then .error (.repeatedSetting setting)
      else if isTriple value then .ok { options with triple := some value }
      else .error (.invalidTriple value)
  | .cpu =>
      if options.cpu.isSome then .error (.repeatedSetting setting)
      else .ok { options with cpu := some value }

/-- The options with one more script, which has to have a name. -/
def withScript (options : Options) (path : String) : Except UsageError Options :=
  if path.isEmpty then .error .emptyScript
  else .ok { options with scripts := options.scripts ++ [path] }

/-- What the options of a word lead to: more options, perhaps one of them without its value yet,
or an answer at once. -/
inductive Progress where
  | options (options : Options)
  | waiting (options : Options) (setting : Setting)
  | decided (invocation : Invocation)
deriving DecidableEq, Inhabited, Repr

/-- Take the options of a word one after the other. -/
def withOccurrences (options : Options) : List Occurrence → Except UsageError Progress
  | [] => .ok (.options options)
  | .unknown name :: _ => .error (.unknownOption name)
  | .overfull switch :: _ => .error (.unexpectedValue switch)
  | .awaiting setting :: _ => .ok (.waiting options setting)
  | .setting setting value :: rest =>
      match options.withSetting setting value with
      | .ok more => more.withOccurrences rest
      | .error error => .error error
  | .switch switch :: rest =>
      match options.withSwitch switch with
      | .ok (.inl more) => more.withOccurrences rest
      | .ok (.inr invocation) => .ok (.decided invocation)
      | .error error => .error error

end Options

namespace Invocation

/-- What the words ask for that follow those of `options`. -/
def ofWordsAfter : Options → List String → Except UsageError Invocation
  | options, [] => .ok (.session options)
  | options, word :: rest =>
      match Word.ofText word with
      | .endOfOptions => (rest.foldlM Options.withScript options).map .session
      | .script path =>
          match options.withScript path with
          | .ok more => ofWordsAfter more rest
          | .error error => .error error
      | .options occurrences =>
          match options.withOccurrences occurrences with
          | .error error => .error error
          | .ok (.decided invocation) => .ok invocation
          | .ok (.options more) => ofWordsAfter more rest
          | .ok (.waiting more setting) =>
              match rest with
              | [] => .error (.missingValue setting)
              | value :: others =>
                  if (Word.ofText value).isValue then
                    match more.withSetting setting value with
                    | .ok complete => ofWordsAfter complete others
                    | .error error => .error error
                  else .error (.missingValue setting)

/-- What the words ask for. -/
def ofWords (words : List String) : Except UsageError Invocation :=
  ofWordsAfter {} words

end Invocation

end AsmShell.Program
