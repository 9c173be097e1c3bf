import Testbed.Text.Decimal

/-!
Command lines.  A command has options, and either commands of its own, one of which must follow, or none.
Options are read from left to right, and some may be given at every level.  An option is given once at a
level; what a deeper level says counts.

An option is written `--name value` or `--name=value`, and some also `-n value`, `-nvalue` or `-n=value`.
A value that is an argument of its own does not begin with a dash, unless it is nothing but a dash.
-/

namespace Testbed

/-- What the value of an option may be. -/
inductive ValueForm where
  /-- Any text but the empty one. -/
  | path
  | text
  | oneOf (choices : List String)
  /-- A natural number of 64 bits. -/
  | unsigned
  /-- A whole number of 64 bits. -/
  | signed
deriving Repr, Inhabited, DecidableEq

/-- Whether a value is of a form. -/
def ValueForm.accepts : ValueForm → String → Bool
  | .path, s => !s.isEmpty
  | .text, _ => true
  | .oneOf choices, s => choices.contains s
  | .unsigned, s => (Text.readUnsigned? UInt64.size s.toList).isSome
  | .signed, s => (Text.readInt64? s.toList).isSome

/-- An option of a command. -/
structure OptionForm where
  long : String
  short : Option Char
  /-- Nothing for a switch, which has no value. -/
  value : Option ValueForm
  required : Bool
deriving Repr, Inhabited, DecidableEq

/-- A command. -/
inductive CommandForm where
  | mk (name : String) (options : List OptionForm) (commands : List CommandForm)
deriving Inhabited

namespace CommandForm

def name : CommandForm → String
  | .mk name _ _ => name

def options : CommandForm → List OptionForm
  | .mk _ options _ => options

def commands : CommandForm → List CommandForm
  | .mk _ _ commands => commands

end CommandForm

/-- What a command line says. -/
inductive Arguments where
  /-- It is not a command line of the program. -/
  | misused
  /-- It asks for help, or for the version. -/
  | informative
  /-- It names a command, by the names from the top down, and gives options. -/
  | command (path : List String) (options : List (String × String))
deriving Repr, Inhabited, DecidableEq

namespace Arguments

/-- One argument. -/
inductive Piece where
  | long (name : String) (value : Option String)
  | short (letter : Char) (value : Option String)
  | word
deriving Repr, Inhabited, DecidableEq

/-- The value that is written behind the letter of an option. -/
def attached : List Char → Option String
  | [] => none
  | '=' :: value => some (String.ofList value)
  | value => some (String.ofList value)

/-- Take an argument apart. -/
def piece (arg : String) : Piece :=
  match arg.toList with
  | '-' :: '-' :: rest =>
    .long (String.ofList (rest.takeWhile (· ≠ '='))) (attached (rest.dropWhile (· ≠ '=')))
  | '-' :: letter :: rest => .short letter (attached rest)
  | _ => .word

/-- What an argument asks for, when it asks for help or for the version. -/
def inform? : Piece → Option Arguments
  | .long name value =>
    if name = "help" ∨ name = "version" then some (if value.isSome then .misused else .informative)
    else none
  | .short letter _ => if letter = 'h' ∨ letter = 'V' then some .informative else none
  | .word => none

/-- The option that an argument is about, and the value in it. -/
def option? (options : List OptionForm) : Piece → Option (OptionForm × Option String)
  | .long name value => (options.find? (·.long = name)).map (·, value)
  | .short letter value => (options.find? (·.short = some letter)).map (·, value)
  | .word => none

/-- Whether an argument can be the value of the option before it. -/
def isValue (arg : String) : Bool := !arg.startsWith "-" || arg = "-"

/-- Help about a command: the names lead to it from the top down. -/
def help (commands : List CommandForm) : List String → Arguments
  | [] => .informative
  | name :: rest =>
    match commands.find? (·.name = name) with
    | some form => help form.commands rest
    | none =>
      if name = "help" ∧ !commands.isEmpty ∧ rest.isEmpty then .informative else .misused

/-- A command line that ends here. -/
def finish (form : CommandForm) (path seen : List String) (given : List (String × String)) :
    Arguments :=
  if form.commands.isEmpty ∧ form.options.all fun o => !o.required || seen.contains o.long then
    .command path given
  else .misused

/-- Read arguments at a level.  `seen` are the options given at this level, `given` those given so
far. -/
def readLevel (everywhere : List OptionForm) (form : CommandForm) (path seen : List String)
    (given : List (String × String)) : List String → Arguments
  | [] => finish form path seen given
  | arg :: rest =>
    if arg = "--" then
      if rest.isEmpty then finish form path seen given else .misused
    else
      match inform? (piece arg), option? (form.options ++ everywhere) (piece arg) with
      | some answer, _ => answer
      | none, some (option, value) =>
        if seen.contains option.long then .misused
        else
          match option.value, value with
          | none, none =>
            readLevel everywhere form path (option.long :: seen) (given ++ [(option.long, "")]) rest
          | none, some _ => .misused
          | some valueForm, some value =>
            if valueForm.accepts value then
              readLevel everywhere form path (option.long :: seen)
                (given ++ [(option.long, value)]) rest
            else .misused
          | some valueForm, none =>
            match rest with
            | value :: rest =>
              if isValue value && valueForm.accepts value then
                readLevel everywhere form path (option.long :: seen)
                  (given ++ [(option.long, value)]) rest
              else .misused
            | [] => .misused
      | none, none =>
        if piece arg ≠ .word then .misused
        else
          match form.commands.find? (·.name = arg) with
          | some inner => readLevel everywhere inner (path ++ [arg]) [] given rest
          | none =>
            if arg = "help" ∧ !form.commands.isEmpty then help form.commands rest else .misused

/-- Read a command line.  The options `everywhere` may be given at every level. -/
def read (everywhere : List OptionForm) (form : CommandForm) (args : List String) : Arguments :=
  readLevel everywhere form [] [] [] args

end Arguments

end Testbed
