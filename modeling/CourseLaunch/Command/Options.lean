import CourseLaunch.Text.Split
/-!
# Options on a command line

Options have a long name and perhaps a letter. A value stands behind an equals sign, behind the
letter, or in the next argument; in that case it is looked at only when the next option or the end
has come. Every argument that is no option and no value is an error or the name of a command.
-/

namespace CourseLaunch.Command

/-- What is wrong with the arguments. Options are told as they are written. -/
inductive UsageError where
  | unexpected (argument : String)
  | unknownCommand (name : String)
  | noCommand (program : String) (commands : List String)
  | missing (options : List String)
  | noValue (option : String)
  | repeated (option : String)
  | unneeded (value option : String)
  | invalid (value option reason : String)
deriving DecidableEq, Repr

/-- The message of an error. -/
def UsageError.message : UsageError → String
  | unexpected argument => "unexpected argument '" ++ argument ++ "' found"
  | unknownCommand name => "unrecognized subcommand '" ++ name ++ "'"
  | noCommand program commands =>
    "'" ++ program ++ "' requires a subcommand but one was not provided\n  [subcommands: " ++
      ", ".intercalate commands ++ "]"
  | missing options =>
    "the following required arguments were not provided:" ++
      String.join (options.map ("\n  " ++ ·))
  | noValue option => "a value is required for '" ++ option ++ "' but none was supplied"
  | repeated option => "the argument '" ++ option ++ "' cannot be used multiple times"
  | unneeded value option =>
    "unexpected value '" ++ value ++ "' for '" ++ option ++ "' found; no more were expected"
  | invalid value option reason =>
    "invalid value '" ++ value ++ "' for '" ++ option ++ "': " ++ reason

/-- Why reading stops: an error, a wish to be told something instead, or no arguments at all. -/
inductive Stop where
  | usage (error : UsageError)
  | idle
  | help
  | version
deriving DecidableEq, Repr

/-- What an option is for. -/
inductive Use where
  | help
  | version
  | count
  | flag
  | single
  | many
deriving DecidableEq, Repr

/-- Why a value is refused. -/
inductive ValueFault where
  | absent
  | wrong (reason : String)
deriving DecidableEq, Repr

/-- An option. -/
structure Opt where
  long : String
  letter : Option Char
  use : Use
  placeholder : String
  fault? : String → Option ValueFault

namespace Opt

def takesValue (o : Opt) : Bool := o.use = .single || o.use = .many

/-- The option as it is told in messages. -/
def text (o : Opt) : String :=
  "--" ++ o.long ++
    if o.takesValue then " <" ++ o.placeholder ++ ">" else if o.use = .count then "..." else ""

/-- Refuses a value. -/
def check (o : Opt) (value : String) : Except Stop Unit :=
  match o.fault? value with
  | none => .ok ()
  | some .absent => .error (.usage (.noValue o.text))
  | some (.wrong reason) => .error (.usage (.invalid value o.text reason))

end Opt

/-- The options that were given with their values, in order, and the last one as long as its value
was not looked at. -/
structure Given where
  values : List (String × String)
  pending : Option (Opt × Option String)

namespace Given

def nothing : Given := ⟨[], none⟩

/-- Whether the next argument is a value. -/
def awaits (g : Given) : Bool := g.pending.any fun p => p.2.isNone

def has (g : Given) (o : Opt) : Bool := g.values.any fun v => v.1 = o.long

def add (g : Given) (o : Opt) (value : String) : Given :=
  { g with values := g.values ++ [(o.long, value)] }

/-- Takes in an option whose value, if it has one, is known. -/
def give (g : Given) (o : Opt) (value : Option String) : Except Stop Given :=
  match o.use, value with
  | .help, _ => .error .help
  | .version, _ => .error .version
  | .count, _ => .ok (g.add o "")
  | .flag, _ => if g.has o then .error (.usage (.repeated o.text)) else .ok (g.add o "")
  | _, none => .error (.usage (.noValue o.text))
  | .single, some value =>
    if g.has o then .error (.usage (.repeated o.text))
    else (o.check value).map fun _ => g.add o value
  | .many, some value => (o.check value).map fun _ => g.add o value

/-- Looks at the value of the last option. -/
def resolve (g : Given) : Except Stop Given :=
  match g.pending with
  | none => .ok g
  | some (o, value) => { g with pending := none }.give o value

/-- Takes in an option behind the last one. -/
def next (g : Given) (o : Opt) (value : Option String) : Except Stop Given :=
  match g.resolve with
  | .error e => .error e
  | .ok g => g.give o value

/-- Takes in an option whose value is in the next argument. -/
def await (g : Given) (o : Opt) : Except Stop Given :=
  g.resolve.map fun g => { g with pending := some (o, none) }

/-- The value of an option that may be given once. -/
def value? (g : Given) (o : Opt) : Option String := g.values.lookup o.long

/-- The values of an option that may be given more than once. -/
def all (g : Given) (o : Opt) : List String :=
  (g.values.filter fun v => v.1 = o.long).map Prod.snd

end Given

/-- How an argument looks. -/
inductive Shape where
  | escape
  | long (name : String) (value : Option String)
  | letters (cs : List Char)
  | plain
deriving DecidableEq, Repr

/-- The shape of an argument. -/
def Shape.of (argument : String) : Shape :=
  match argument.toList with
  | ['-', '-'] => .escape
  | '-' :: '-' :: cs =>
    let (name, value) := Text.splitFirst (· == '=') cs
    .long (String.ofList name) (value.map String.ofList)
  | '-' :: c :: cs => .letters (c :: cs)
  | _ => .plain

/-- The options and commands that are understood at some point. -/
structure Level where
  options : List Opt
  commands : List String

namespace Level

def letter? (l : Level) (c : Char) : Option Opt := l.options.find? fun o => o.letter = some c

def long? (l : Level) (name : String) : Option Opt := l.options.find? fun o => o.long = name

/-- Reads letters. All but the last one stand for options without a value. -/
def readLetters (l : Level) (g : Given) : List Char → Except Stop Given
  | [] => .ok g
  | c :: cs =>
    match l.letter? c with
    | none => .error (.usage (.unexpected (String.ofList ['-', c])))
    | some o =>
      if o.takesValue then
        match cs with
        | [] => g.await o
        | '=' :: value => g.next o (some (String.ofList value))
        | value => g.next o (some (String.ofList value))
      else
        match g.next o none with
        | .error e => .error e
        | .ok g => l.readLetters g cs

/-- Reads a long option. -/
def readLong (l : Level) (g : Given) (name : String) (value : Option String) :
    Except Stop Given :=
  match l.long? name with
  | none => .error (.usage (.unexpected ("--" ++ name)))
  | some o =>
    match o.takesValue, value with
    | true, none => g.await o
    | true, some value => g.next o (some value)
    | false, none => g.next o none
    | false, some value => .error (.usage (.unneeded value o.text))

/-- What is wrong with an argument that is no option and no value. Behind the escape no command is
looked for. -/
def stray (l : Level) (argument : String) (isEscaped : Bool) : UsageError :=
  if l.commands.isEmpty || (isEscaped && l.commands.contains argument) then .unexpected argument
  else .unknownCommand argument

/-- Reads arguments up to a command, and gives the command with the arguments behind it. -/
def read (l : Level) (isEscaped : Bool) (g : Given) :
    List String → Except Stop (Given × Option (String × List String))
  | [] => .ok (g, none)
  | argument :: rest =>
    let plain : Except Stop (Given × Option (String × List String)) :=
      match g.pending with
      | some (o, none) => l.read false { g with pending := some (o, some argument) } rest
      | _ => .error (.usage (l.stray argument false))
    if isEscaped then .error (.usage (l.stray argument true))
    else if !g.awaits && l.commands.contains argument then .ok (g, some (argument, rest))
    else
      match Shape.of argument with
      | .escape => l.read true g rest
      | .long name value =>
        match l.readLong g name value with
        | .error e => .error e
        | .ok g => l.read false g rest
      | .letters cs =>
        match l.readLetters g cs with
        | .error e => .error e
        | .ok g => l.read false g rest
      | .plain => plain

end Level

end CourseLaunch.Command
