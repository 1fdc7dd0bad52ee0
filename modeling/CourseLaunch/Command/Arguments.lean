import CourseLaunch.Command.Number
import CourseLaunch.Command.Options
import CourseLaunch.Course.Source
/-!
# The arguments of the program

Two commands, each with options of its own, and options that may stand before or behind the name of
the command. Of an option that stands on both sides, the one behind counts.
-/

namespace CourseLaunch.Command

/-- What the program is asked to do with a configuration. -/
inductive Job where
  | launch (maxAttempts : Nat)
  | files (source : Course.Source) (folders : List String)
deriving DecidableEq, Repr

/-- What the program is asked. Time limits are in seconds. -/
structure Invocation where
  backendUrl : Option String
  connectTimeout : Nat
  readTimeout : Nat
  config : String
  job : Job
deriving DecidableEq, Repr

def program : String := "lms-launch"

def version : String := "0.1.0"

def acceptAny (_ : String) : Option ValueFault := none

def acceptPath (value : String) : Option ValueFault := if value.isEmpty then some .absent else none

/-- Accepts the numbers of a range. -/
def acceptNumber (r : Range) (value : String) : Option ValueFault :=
  match r.read value with
  | .ok _ => none
  | .error reason => some (.wrong reason)

/-- Accepts the key of a source. -/
def acceptSource (value : String) : Option ValueFault :=
  if (Course.Source.ofKey? value).isSome then none
  else some (.wrong (Course.Source.unknownText value))

/-- An option without a value. -/
def bare (long : String) (letter : Char) (use : Use) : Opt :=
  ⟨long, some letter, use, "", acceptAny⟩

def helpOpt : Opt := bare "help" 'h' .help

def versionOpt : Opt := bare "version" 'V' .version

def verboseOpt : Opt := bare "verbose" 'v' .count

def quietOpt : Opt := bare "quiet" 'q' .flag

/-- The backend, in place of the configured one. -/
def backendUrlOpt : Opt := ⟨"backend-url", none, .single, "BACKEND_URL", acceptAny⟩

/-- How many seconds a connection may take. -/
def connectRange : Range := ⟨.unsigned, 1, 300⟩

/-- How many seconds an answer may take. -/
def readRange : Range := ⟨.unsigned, 1, 3600⟩

/-- How often a launch may be tried again. -/
def attemptRange : Range := ⟨.signed, 0, 20⟩

def connectTimeoutOpt : Opt :=
  ⟨"connect-timeout", none, .single, "CONNECT_TIMEOUT", acceptNumber connectRange⟩

def readTimeoutOpt : Opt :=
  ⟨"read-timeout", none, .single, "READ_TIMEOUT", acceptNumber readRange⟩

def configOpt : Opt := ⟨"config", some 'c', .single, "CONFIG", acceptPath⟩

def maxAttemptsOpt : Opt :=
  ⟨"max-attempts", some 'a', .single, "MAX_ATTEMPTS", acceptNumber attemptRange⟩

/-- The source whose files are listed. -/
def sourceOpt : Opt := ⟨"source", some 's', .single, "SOURCE", acceptSource⟩

def openOpt : Opt := ⟨"open", none, .many, "FOLDER_ID", acceptAny⟩

/-- The options that every command understands. -/
def sharedOptions : List Opt :=
  [verboseOpt, quietOpt, backendUrlOpt, connectTimeoutOpt, readTimeoutOpt, helpOpt]

/-- The commands, and the one that tells about them. -/
def commands : List String := ["launch", "files", "help"]

/-- What may stand before the name of a command. -/
def outer : Level := ⟨versionOpt :: sharedOptions, commands⟩

/-- The options of a command of its own that have to be given, and those that need not be. -/
def ownOptions (command : String) : List Opt × List Opt :=
  if command = "launch" then ([configOpt], [maxAttemptsOpt])
  else ([configOpt, sourceOpt], [openOpt])

/-- What may stand behind the name of a command. -/
def inner (command : String) : Level :=
  ⟨(ownOptions command).1 ++ (ownOptions command).2 ++ sharedOptions, []⟩

/-- Reads what stands behind the name of a command. -/
def readInner (command : String) (arguments : List String) : Except Stop Given := do
  let (g, _) ← (inner command).read false .nothing arguments
  let g ← g.resolve
  let missing := (ownOptions command).1.filter fun o => !g.has o
  if missing.isEmpty then .ok g else .error (.usage (.missing (missing.map Opt.text)))

/-- The job that a command stands for. -/
def jobOf (command : String) (g : Given) : Job :=
  if command = "launch" then
    .launch (((g.value? maxAttemptsOpt).bind fun s => (attemptRange.read s).toOption).getD 3)
  else
    .files (((g.value? sourceOpt).bind Course.Source.ofKey?).getD .canvas) (g.all openOpt)

/-- What is asked for, from the options before and behind the name of the command. -/
def invocation (command : String) (before behind : Given) : Invocation :=
  let value? (o : Opt) := (behind.value? o).or (before.value? o)
  let number (o : Opt) (r : Range) (usual : Nat) :=
    ((value? o).bind fun s => (r.read s).toOption).getD usual
  { backendUrl := value? backendUrlOpt
    connectTimeout := number connectTimeoutOpt connectRange 10
    readTimeout := number readTimeoutOpt readRange 30
    config := (behind.value? configOpt).getD ""
    job := jobOf command behind }

/-- Answers a wish to be told about a command, or about all of them. -/
def readHelp : List String → Stop
  | [] => .help
  | name :: rest =>
    if commands.contains name then
      match rest with
      | [] => .help
      | other :: _ => .usage (.unknownCommand other)
    else .usage (.unknownCommand name)

/-- Reads the arguments of the program. -/
def readArguments (arguments : List String) : Except Stop Invocation := do
  let (before, command) ← outer.read false .nothing arguments
  match command with
  | some (name, rest) =>
    if name = "help" then .error (readHelp rest)
    else
      let behind ← readInner name rest
      let before ← before.resolve
      .ok (invocation name before behind)
  | none =>
    let before ← before.resolve
    if before.values.isEmpty then .error .idle
    else .error (.usage (.noCommand program commands))

end CourseLaunch.Command
