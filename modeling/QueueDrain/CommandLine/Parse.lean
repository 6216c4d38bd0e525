import QueueDrain.CommandLine.Setting

/-!
Command lines and environments as invocations of a benchmark.

A command line names a profile and then assigns settings, as `--flag value` or `--flag=value`; what
it does not assign is taken from the environment.  A value after a blank is checked only when the
argument after it has been recognised, so of two faults the later one may be reported.
-/

namespace QueueDrain.CommandLine

/-- A benchmark to run. -/
structure Invocation where
  profile : Profile
  inputs : Inputs
  outputDir : String

/-- What an argument looks like. -/
inductive Argument where
  /-- Two hyphens alone: only values may follow. -/
  | escape
  /-- Two hyphens and a name, perhaps with a value after an equals sign. -/
  | long (name : String) (value : Option String)
  /-- A hyphen and letters. -/
  | short (letters : List Char)
  | plain (s : String)

/-- The look of an argument. -/
def Argument.of (s : String) : Argument :=
  match s.toList with
  | ['-', '-'] => .escape
  | '-' :: '-' :: cs =>
    match cs.span (· != '=') with
    | (name, []) => .long (String.ofList name) none
    | (name, _ :: value) => .long (String.ofList name) (some (String.ofList value))
  | '-' :: c :: cs => .short (c :: cs)
  | _ => .plain s

/--
Whether the letters after a hyphen are a number: digits with at most one point, not at the start,
and at most one exponent mark after it, neither at the start nor at the end.
-/
def isNumber (letters : List Char) : Bool :=
  let (mantissa, exponent) := letters.span fun c => c != 'e' && c != 'E'
  let digitsOnly := mantissa.filter (· != '.')
  digitsOnly.all Char.isDigit && mantissa.length ≤ digitsOnly.length + 1 &&
    mantissa.head? != some '.' &&
    match exponent with
    | [] => true
    | _ :: digits => mantissa != [] && digits != [] && digits.all Char.isDigit

/-- The state between two arguments of a benchmark. -/
structure Progress where
  assignment : Assignment := []
  /-- The last of the two flags that turn the sampler on and off. -/
  sampler : Option Bool := none
  /-- A setting whose value is still to come, or has come and is still to be checked. -/
  pending : Option (Setting × Option String) := none

namespace Progress

/-- Assigns a value from the command line. -/
def assign (p : Progress) (setting : Setting) (value : String) : Except Usage Progress :=
  if (p.assignment.get? setting).isSome then .error .argumentConflict
  else (Value.read setting.kind value).map fun v =>
    { p with assignment := p.assignment ++ [(setting, v)] }

/-- Assigns the value that is still to be checked. -/
def settle (p : Progress) : Except Usage Progress :=
  match p.pending with
  | none => .ok p
  | some (_, none) => .error .invalidValue
  | some (setting, some value) => { p with pending := none }.assign setting value

/--
Turns the sampler on or off.  The same flag twice is a conflict, unless the other one came between.
-/
def setSampler (p : Progress) (on : Bool) : Except Usage Progress :=
  if p.sampler = some on then .error .argumentConflict else .ok { p with sampler := some on }

/-- The setting whose value is still to come. -/
def awaiting? (p : Progress) : Option Setting :=
  match p.pending with
  | some (setting, none) => some setting
  | _ => none

/-- A long argument. -/
def long (p : Progress) (name : String) (value : Option String) : Except Usage Progress :=
  let switch (act : Progress → Except Usage Progress) : Except Usage Progress :=
    if value.isSome then .error .tooManyValues else p.settle >>= act
  match Setting.ofFlag? name, value with
  | some setting, some value => do (← p.settle).assign setting value
  | some setting, none => do .ok { ← p.settle with pending := some (setting, none) }
  | none, _ =>
    if name = "sampler" then switch (·.setSampler true)
    else if name = "no-sampler" then switch (·.setSampler false)
    else if name = "help" then switch fun _ => .error .displayHelp
    else .error .unknownArgument

/-- An argument that is, or may be, a value: only a setting can take it. -/
def value (p : Progress) (s : String) : Except Usage Progress :=
  match p.awaiting? with
  | some setting => .ok { p with pending := some (setting, some s) }
  | none => .error .unknownArgument

/-- An argument of one hyphen.  A negative number is a value of a setting that is an integer. -/
def short (p : Progress) (letters : List Char) : Except Usage Progress :=
  if isNumber letters ∧ p.awaiting?.any (·.kind = .integer) then
    p.value (String.ofList ('-' :: letters))
  else if letters.head? = some 'h' then p.settle >>= fun _ => .error .displayHelp
  else .error .unknownArgument

/-- Takes the arguments after the profile. -/
def run (p : Progress) : List String → Except Usage Progress
  | [] => p.settle
  | arg :: args =>
    match Argument.of arg with
    | .escape => if args = [] then p.settle else .error .unknownArgument
    | .long name value => do (← p.long name value).run args
    | .short letters => do (← p.short letters).run args
    | .plain s => do (← p.value s).run args

end Progress

/-- The assignment with the variables of the settings that it leaves open, in order. -/
def fromEnvironment (env : String → Option String) (assignment : Assignment) :
    List Setting → Except Usage Assignment
  | [] => .ok assignment
  | setting :: settings =>
    match assignment.get? setting, env setting.variableName with
    | none, some value => do
      let v ← Value.read setting.kind value
      fromEnvironment env (assignment ++ [(setting, v)]) settings
    | _, _ => fromEnvironment env assignment settings

/-- The invocation of a profile by the arguments after it. -/
def parseProfile (profile : Profile) (args : List String) (env : String → Option String) :
    Except Usage Invocation := do
  let p ← Progress.run {} args
  let assignment ← fromEnvironment env p.assignment Setting.all
  .ok { profile, inputs := assignment.inputs p.sampler, outputDir := assignment.outputDir }

/-- The words that may stand first. -/
def isCommand (s : String) : Bool := (Profile.ofName? s).isSome || s == "help"

/-- What the help command answers: help on at most one command. -/
def helpTopic : List String → Usage
  | [] => .displayHelp
  | [topic] => if isCommand topic then .displayHelp else .invalidSubcommand
  | _ => .invalidSubcommand

/-- What two hyphens in first place lead to. -/
def afterEscape : List String → Usage
  | [] => .helpOnMissing
  | arg :: _ => if isCommand arg then .unknownArgument else .invalidSubcommand

/-- What a request for help or for the version leads to, when it may not carry a value. -/
def requested (value : Option String) (usage : Usage) : Usage :=
  if value.isSome then .tooManyValues else usage

/-- The invocation of a command line. -/
def parse (args : List String) (env : String → Option String) : Except Usage Invocation :=
  match args with
  | [] => .error .helpOnMissing
  | arg :: args =>
    match Profile.ofName? arg with
    | some profile => parseProfile profile args env
    | none =>
      if arg = "help" then .error (helpTopic args)
      else
        match Argument.of arg with
        | .escape => .error (afterEscape args)
        | .long name value =>
          if name = "help" then .error (requested value .displayHelp)
          else if name = "version" then .error (requested value .displayVersion)
          else .error .unknownArgument
        | .short letters =>
          if letters.head? = some 'h' then .error .displayHelp
          else if letters.head? = some 'V' then .error .displayVersion
          else .error .unknownArgument
        | .plain _ => .error .invalidSubcommand

end QueueDrain.CommandLine
