import ObjectQuery.Config

/-!
# Options on a command line

Arguments are read from left to right. An option is written `--name value`, `--name=value`, or with
a letter `-n value`, `-nvalue`, `-n=value`; a value that stands apart does not open with a dash
unless it is a dash alone. Reading ends at the name of a command, which has arguments of its own.
-/

namespace ObjectQuery.CommandLine

/-- An option. -/
structure OptionSpec where
  name : String
  letter : Option Char := none
  takesValue : Bool := true
  /-- Whether it may be given more than once. -/
  repeats : Bool := false
  /-- The environment variable that stands in for it. -/
  fallback : Option String := none
  accepts : String → Bool := fun _ => true

/-- Why arguments do not lead to a command. -/
inductive Halt where
  | misuse
  | help
  | version
deriving DecidableEq, Inhabited

/-- An option that only asks for a text. -/
structure Notice where
  name : String
  letter : Char
  halt : Halt

/-- What may stand in one place of a command line. -/
structure Grammar where
  options : List OptionSpec
  notices : List Notice
  /-- The commands that may follow. -/
  commands : List String

/-- The options that are given, with their values. -/
abbrev Given := List (String × String)

namespace Given

/-- Whether an option is given. -/
def has (given : Given) (name : String) : Bool := (given.lookup name).isSome

/-- The value of an option that has to be given. -/
def required (given : Given) (name : String) : Except Halt String :=
  match given.lookup name with
  | some value => .ok value
  | none => .error .misuse

/-- The values of an option that may be given more than once. -/
def values (given : Given) (name : String) : List String :=
  (given.filter fun g => g.1 = name).map (·.2)

/-- Adds the value of an option. -/
def add (given : Given) (spec : OptionSpec) (value : String) : Except Halt Given :=
  if spec.accepts value && (spec.repeats || !given.has spec.name) then
    .ok (given ++ [(spec.name, value)])
  else .error .misuse

/-- Adds the values of variables for options that are not given. -/
def addFallbacks (given : Given) (env : Environment) (specs : List OptionSpec) :
    Except Halt Given :=
  specs.foldlM (fun given spec =>
    match spec.fallback.bind fun name => env.lookup name with
    | some value => if given.has spec.name then .ok given else given.add spec value
    | none => .ok given) given

end Given

/-! ## Arguments -/

/-- The forms of an argument. -/
inductive Argument where
  /-- A name after two dashes, and what is attached to it. -/
  | long (name : String) (attached : Option String)
  /-- A letter after one dash, and what is attached to it. -/
  | short (letter : Char) (attached : Option String)
  /-- Two dashes alone end the options. -/
  | separator
  | word

/-- What is attached to a letter; an equals sign before it is no part of it. -/
def attachedTo : List Char → Option String
  | [] => none
  | '=' :: cs => some (String.ofList cs)
  | cs => some (String.ofList cs)

/-- The form of an argument. -/
def Argument.ofText (text : String) : Argument :=
  match text.toList with
  | ['-', '-'] => .separator
  | '-' :: '-' :: cs =>
    let (name, attached) := Text.head '=' (String.ofList cs)
    .long name attached
  | '-' :: letter :: cs => .short letter (attachedTo cs)
  | _ => .word

/-- Whether an argument may be a value that stands apart. -/
def isWord (text : String) : Bool :=
  match Argument.ofText text with
  | .word => true
  | _ => false

/-- What an argument asks of the reader. -/
inductive Item where
  /-- No more options follow. -/
  | finish
  | complete (spec : OptionSpec) (value : String)
  /-- The value is the next argument. -/
  | pending (spec : OptionSpec)

namespace Grammar

/-- An option with what is attached to it. -/
def item (spec : OptionSpec) : Option String → Except Halt Item
  | some value => if spec.takesValue then .ok (.complete spec value) else .error .misuse
  | none => .ok (if spec.takesValue then .pending spec else .complete spec "")

/-- What an argument that is no command asks of the reader. -/
def read (g : Grammar) (text : String) : Except Halt Item :=
  match Argument.ofText text with
  | .separator => .ok .finish
  | .word => .error .misuse
  | .long name attached =>
    match g.notices.find? (·.name = name), g.options.find? (·.name = name) with
    | some notice, _ => .error (if attached.isNone then notice.halt else .misuse)
    | none, some spec => item spec attached
    | none, none => .error .misuse
  | .short letter attached =>
    match g.notices.find? (·.letter = letter), g.options.find? (·.letter = some letter) with
    | some notice, _ => .error notice.halt
    | none, some spec => item spec attached
    | none, none => .error .misuse

/-- Reads options up to a command; returns what is given, and the command with its arguments. -/
def scan (g : Grammar) (given : Given) : List String → Except Halt (Given × List String)
  | [] => .ok (given, [])
  | text :: rest =>
    if g.commands.contains text then .ok (given, text :: rest)
    else
      match g.read text with
      | .error halt => .error halt
      | .ok .finish => if rest.isEmpty then .ok (given, []) else .error .misuse
      | .ok (.complete spec value) =>
        match given.add spec value with
        | .ok given => scan g given rest
        | .error halt => .error halt
      | .ok (.pending spec) =>
        match rest with
        | [] => .error .misuse
        | value :: rest =>
          if isWord value then
            match given.add spec value with
            | .ok given => scan g given rest
            | .error halt => .error halt
          else .error .misuse

end Grammar

end ObjectQuery.CommandLine
