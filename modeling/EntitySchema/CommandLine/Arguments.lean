/-!
# CommandLine/Arguments — what the words of a command line ask for

Words are read from left to right.  Options stand before or behind the name of the command; those
before it, configuration and verbosity, can also stand behind it.  A value stands behind its option,
in the next word or in the same: `-o x`, `-ox`, `-o=x`, `--output x`, `--output=x`.  A value in a
word of its own does not begin with a dash, unless it is nothing else, and is looked at when the next
option is read or else after all other words (`Level.settle`).  Behind the word `--` no word is an
option.  Apart from `--expose`, nothing may be given twice on the same side of the name.  Verbosity,
on whichever side, has a say in the log alone.
-/

namespace EntitySchema.Arguments

/-- The options. -/
inductive Flag
  | config
  /-- The log is to show debugging aids. -/
  | verbose
  | version
  | help
  | output
  | strict
  | expose
  deriving DecidableEq, Repr

/-- Does the option take a value? -/
def Flag.takesValue : Flag → Bool
  | config => true
  | output => true
  | expose => true
  | _ => false

/-- Must the value be other than the empty text? -/
def Flag.isPath : Flag → Bool
  | config => true
  | output => true
  | _ => false

/-- May the option be given more than once? -/
def Flag.repeats : Flag → Bool
  | expose => true
  | _ => false

/-- The option's name behind two dashes. -/
def Flag.long : Flag → String
  | config => "config"
  | verbose => "verbose"
  | version => "version"
  | help => "help"
  | output => "output"
  | strict => "strict"
  | expose => "expose"

/-- The option's letter behind one dash. -/
def Flag.short? : Flag → Option Char
  | config => some 'c'
  | verbose => some 'v'
  | version => some 'V'
  | help => some 'h'
  | output => some 'o'
  | strict => none
  | expose => none

/-- Why words are not read to their end. -/
inductive Stop
  /-- The version was asked for. -/
  | version
  /-- Help was asked for. -/
  | help
  /-- The words make no sense. -/
  | misuse
  deriving DecidableEq, Repr

/-- The options and other words read so far on one side of the command's name, the last one first. -/
structure Level where
  given : List (Flag × String) := []
  /-- An option whose value, a word of its own, has not been looked at. -/
  waiting : Option (Flag × String) := none
  others : List String := []
  deriving DecidableEq, Repr

/-- The value of an option, if it was given. -/
def Level.value? (l : Level) (f : Flag) : Option String := l.given.lookup f

/-- Was the option given? -/
def Level.has (l : Level) (f : Flag) : Bool := (l.value? f).isSome

/-- The values of an option in order. -/
def Level.values (l : Level) (f : Flag) : List String :=
  (l.given.reverse.filter (·.1 = f)).map Prod.snd

/-- Takes an option in. -/
def Level.accept (l : Level) (f : Flag) (value : String) : Except Stop Level :=
  if f = .version then .error .version
  else if f = .help then .error .help
  else if f.isPath && value = "" then .error .misuse
  else if l.has f && !f.repeats then .error .misuse
  else .ok { l with given := (f, value) :: l.given }

/-- Takes in the option that waits, if there is one. -/
def Level.settle (l : Level) : Except Stop Level :=
  match l.waiting with
  | none => .ok l
  | some (f, value) => { l with waiting := none }.accept f value

/-- Takes an option in, behind the one that waits. -/
def Level.add (l : Level) (f : Flag) (value : String) : Except Stop Level := do
  (← l.settle).accept f value

/-- Lets an option wait, behind the one that waits. -/
def Level.await (l : Level) (f : Flag) (value : String) : Except Stop Level := do
  return { ← l.settle with waiting := some (f, value) }

/-- Does the word look like an option? -/
def looksLikeFlag (word : String) : Bool :=
  match word.toList with
  | '-' :: _ :: _ => true
  | _ => false

/-- Takes the value of an option from the next word. -/
def nextValue : List String → Except Stop (String × List String)
  | [] => .error .misuse
  | w :: ws => if looksLikeFlag w then .error .misuse else .ok (w, ws)

/-- Reads letters behind one dash.  A letter whose option takes a value takes what is left of the
word, or else the next word. -/
def readLetters (flags : List Flag) (l : Level) (words : List String) :
    List Char → Except Stop (Level × List String)
  | [] => .ok (l, words)
  | c :: cs =>
    match flags.find? fun f => f.short? = some c with
    | none => .error .misuse
    | some f =>
      if f.takesValue then
        match cs with
        | [] => do
          let (value, words) ← nextValue words
          return (← l.await f value, words)
        | '=' :: value => do return (← l.add f (String.ofList value), words)
        | value => do return (← l.add f (String.ofList value), words)
      else do readLetters flags (← l.add f "") words cs

/-- Reads a name behind two dashes. -/
def readLong (flags : List Flag) (l : Level) (words : List String) (name : List Char) :
    Except Stop (Level × List String) :=
  let own := String.ofList (name.takeWhile (· ≠ '='))
  match flags.find? fun f => f.long = own, name.dropWhile (· ≠ '=') with
  | none, _ => .error .misuse
  | some f, [] =>
    if f.takesValue then do
      let (value, words) ← nextValue words
      return (← l.await f value, words)
    else do return (← l.add f "", words)
  | some f, _ :: value =>
    if f.takesValue then do return (← l.add f (String.ofList value), words) else .error .misuse

/-- Reads one word that looks like an option, and its value where it takes one. -/
def readFlag (flags : List Flag) (l : Level) (word : String) (words : List String) :
    Except Stop (Level × List String) :=
  match word.toList with
  | '-' :: '-' :: name => readLong flags l words name
  | _ :: letters => readLetters flags l words letters
  | [] => .error .misuse

/-- What a command does. -/
inductive Action
  /-- Writes the schema of a registry, to a file or to the standard output. -/
  | generate (registry : String) (output : Option String) (strict : Bool) (expose : List String)
  /-- Reports the issues of a registry. -/
  | check (registry : String) (expose : List String)
  deriving DecidableEq, Repr

/-- A command with the configuration file that was asked for, and whether the log is to say more. -/
structure Invocation where
  action : Action
  config : Option String
  verbose : Bool
  deriving DecidableEq, Repr

/-- The options in front of the command's name. -/
def outerFlags : List Flag := [.config, .verbose, .version, .help]

/-- The options of `generate`. -/
def generateFlags : List Flag := [.config, .verbose, .help, .output, .strict, .expose]

/-- The options of `check`. -/
def checkFlags : List Flag := [.config, .verbose, .help, .expose]

/-- Reads the words behind the command's name, of which at most one is no option, and that one not
empty.  There are fewer words than `steps`. -/
def readInner (flags : List Flag) (steps : Nat) (l : Level) (words : List String) :
    Except Stop Level :=
  match steps, words with
  | 0, _ => .error .misuse
  | _, [] => l.settle
  | steps + 1, w :: ws =>
    if w = "--" then
      if l.others.length + ws.length ≤ 1 then { l with others := ws ++ l.others }.settle
      else .error .misuse
    else if looksLikeFlag w then do
      let (l, ws) ← readFlag flags l w ws
      readInner flags steps l ws
    else if l.others.isEmpty && w ≠ "" then readInner flags steps { l with others := [w] } ws
    else .error .misuse

/-- Reads the words up to the command's name: the options, the name, and the words behind it. -/
def readOuter (steps : Nat) (l : Level) (words : List String) :
    Except Stop (Level × String × List String) :=
  match steps, words with
  | 0, _ => .error .misuse
  | _, [] => .error .misuse
  | steps + 1, w :: ws =>
    if w = "--" then .error .misuse
    else if looksLikeFlag w then do
      let (l, ws) ← readFlag outerFlags l w ws
      readOuter steps l ws
    else .ok (l, w, ws)

/-- The names that values list, with commas between them. -/
def splitNames (values : List String) : List String :=
  values.flatMap fun v => (v.toList.splitOn ',').map String.ofList

/-- The one word that is no option, as a path. -/
def registryPath (l : Level) : Except Stop String :=
  match l.others with
  | [path] => if path = "" then .error .misuse else .ok path
  | _ => .error .misuse

/-- The configuration file: the one given last, or else that of the environment.  Each side of the
command's name on which none is given looks at the environment, where it must not be empty. -/
def configPath (environment : Option String) (outer inner : Level) :
    Except Stop (Option String) :=
  if environment = some "" && !(outer.has .config && inner.has .config) then .error .misuse
  else .ok (((inner.value? .config).or (outer.value? .config)).or environment)

/-- The action of a command by its name and the words behind it. -/
def readAction (name : String) (words : List String) : Except Stop (Level × Action) :=
  let steps := words.length + 1
  if name = "generate" then do
    let l ← readInner generateFlags steps {} words
    let registry ← registryPath l
    return (l, .generate registry (l.value? .output) (l.has .strict) (splitNames (l.values .expose)))
  else if name = "check" then do
    let l ← readInner checkFlags steps {} words
    let registry ← registryPath l
    return (l, .check registry (splitNames (l.values .expose)))
  else if name = "help" then
    .error (match words with
      | [] => .help
      | [w] => if w = "generate" || w = "check" || w = "help" then .help else .misuse
      | _ => .misuse)
  else .error .misuse

/-- Reads a command line; the option that waits in front of the name is looked at last.  `environment`
is the configuration file that the environment names. -/
def read (environment : Option String) (words : List String) : Except Stop Invocation := do
  let (outer, name, words) ← readOuter (words.length + 1) {} words
  let (inner, action) ← readAction name words
  let outer ← outer.settle
  let config ← configPath environment outer inner
  return { action, config, verbose := outer.has .verbose || inner.has .verbose }

end EntitySchema.Arguments
