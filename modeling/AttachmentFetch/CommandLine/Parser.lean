import AttachmentFetch.CommandLine.Basic

/-! Parsing command lines. An option's value follows it as the next argument, or
after an equals sign. A value that follows takes effect only when the next
option or the end of the arguments is met, so that an argument nobody knows is
reported before a bad value in front of it. -/
namespace AttachmentFetch.CommandLine

structure Values where
  config : Option String := none
  messageId : Option Int64 := none
  attachmentId : Option Int64 := none
  url : Option String := none
  size : Option UInt64 := none
  key : Option String := none
  digest : Option String := none
  contentType : Option String := none
  deriving DecidableEq, Repr

namespace Values

def isSet (values : Values) : Opt → Bool
  | .config => values.config.isSome
  | .messageId => values.messageId.isSome
  | .attachmentId => values.attachmentId.isSome
  | .url => values.url.isSome
  | .size => values.size.isSome
  | .key => values.key.isSome
  | .digest => values.digest.isSome
  | .contentType => values.contentType.isSome

/-- Sets an option. Numbers have to be in range, and a file has to have a name. -/
def set (values : Values) (option : Opt) (text : String) : Except UsageError Values :=
  match option with
  | .config =>
    if text.isEmpty then .error (.missingValue .config)
    else .ok { values with config := some text }
  | .messageId =>
    match Text.readInt64 text with
    | .ok value => .ok { values with messageId := some value }
    | .error fault => .error (.badInteger text .messageId fault)
  | .attachmentId =>
    match Text.readInt64 text with
    | .ok value => .ok { values with attachmentId := some value }
    | .error fault => .error (.badInteger text .attachmentId fault)
  | .size =>
    match Text.readUInt64 text with
    | .ok value => .ok { values with size := some value }
    | .error fault => .error (.badInteger text .size fault)
  | .url => .ok { values with url := some text }
  | .key => .ok { values with key := some text }
  | .digest => .ok { values with digest := some text }
  | .contentType => .ok { values with contentType := some text }

def setOnce (values : Values) (option : Opt) (text : String) : Except UsageError Values :=
  if values.isSet option then .error (.repeated option) else values.set option text

end Values

/-- What has been read of a level. The pending option has been met, and perhaps
its value, but it has not taken effect yet. -/
structure Progress where
  values : Values := {}
  pending : Option (Opt × Option String) := none
  deriving DecidableEq, Repr

namespace Progress

def settle (progress : Progress) : Except UsageError Values :=
  match progress.pending with
  | none => .ok progress.values
  | some (option, none) => .error (.missingValue option)
  | some (option, some text) => progress.values.setOnce option text

def awaitsValue (progress : Progress) : Bool :=
  match progress.pending with
  | some (_, none) => true
  | _ => false

def meet (progress : Progress) (option : Opt) (attached : Option String) :
    Except UsageError Progress := do
  let values ← progress.settle
  match attached with
  | some text => return { values := ← values.setOnce option text }
  | none => return { values, pending := some (option, none) }

def stop (progress : Progress) (reason : UsageError) : Except UsageError α := do
  let _ ← progress.settle
  throw reason

end Progress

def splitValue (text : List Char) : String × Option String :=
  match text.dropWhile (· ≠ '=') with
  | '=' :: value => (String.ofList (text.takeWhile (· ≠ '=')), some (String.ofList value))
  | _ => (String.ofList text, none)

def readLong (level : Level) (progress : Progress) (text : List Char) :
    Except UsageError Progress :=
  let (name, attached) := splitValue text
  let flag (reason : UsageError) : Except UsageError Progress :=
    match attached with
    | some value => .error (.unwantedValue value s!"--{name}")
    | none => progress.stop reason
  match level.options.find? (·.name = name) with
  | some option => progress.meet option attached
  | none =>
    if name = "help" then flag (.help (.level level))
    else if name = "version" ∧ level = .program then flag .version
    else .error (.unknownArgument s!"--{name}")

def readShort (level : Level) (progress : Progress) (letter : Char) (text : List Char) :
    Except UsageError Progress :=
  if letter = 'c' then
    let attached :=
      match text with
      | [] => none
      | '=' :: value => some (String.ofList value)
      | value => some (String.ofList value)
    progress.meet .config attached
  else if letter = 'h' then progress.stop (.help (.level level))
  else if letter = 'V' ∧ level = .program then progress.stop .version
  else .error (.unknownArgument (String.ofList ['-', letter]))

def stray (level : Level) (afterDashes : Bool) (argument : String) : UsageError :=
  if level = .program ∧ !(afterDashes ∧ ((Level.ofName? argument).isSome ∨ argument = "help")) then
    .unknownCommand argument
  else .unknownArgument argument

def helpTopic : List String → UsageError
  | [] => .help (.level .program)
  | name :: rest =>
    match Level.ofName? name, rest with
    | some level, [] => .help (.level level)
    | some _, other :: _ => .unknownCommand other
    | none, rest =>
      if name = "help" then
        match rest with
        | [] => .help .help
        | other :: _ => .unknownCommand other
      else .unknownCommand name

/-- Reads the arguments of a level, up to a command if the level has any. -/
def scan (level : Level) : Progress → List String →
    Except UsageError (Progress × Option (Level × List String))
  | progress, [] => .ok (progress, none)
  | progress, argument :: rest =>
    let command :=
      if level = .program ∧ !progress.awaitsValue then Level.ofName? argument else none
    match command with
    | some command => .ok (progress, some (command, rest))
    | none =>
      if level = .program ∧ !progress.awaitsValue ∧ argument = "help" then .error (helpTopic rest)
      else
        match argument.toList with
        | ['-', '-'] =>
          match rest with
          | [] => .ok (progress, none)
          | stranger :: _ => .error (stray level true stranger)
        | '-' :: '-' :: text => do scan level (← readLong level progress text) rest
        | '-' :: letter :: text => do scan level (← readShort level progress letter text) rest
        | _ =>
          match progress.pending with
          | some (option, none) =>
            scan level { progress with pending := some (option, some argument) } rest
          | _ => .error (stray level false argument)

def commandOf (level : Level) (values : Values) : Except UsageError Command :=
  match level, values.messageId, values.attachmentId, values.url with
  | .register, some message, some attachment, some url =>
    .ok (.register {
      message := ⟨message⟩
      attachment := ⟨attachment⟩
      url
      size := values.size.getD 0
      key := values.key
      digest := values.digest
      contentType := values.contentType })
  | .fetch, some message, some attachment, _ => .ok (.fetch ⟨attachment⟩ ⟨message⟩)
  | _, _, _, _ => .error .missingOptions

/-- Parses the arguments after the program's name. A configuration file named
among a command's options wins over one named before the command. -/
def parse (arguments : List String) : Except UsageError Invocation := do
  let (progress, command) ← scan .program {} arguments
  match command with
  | some (level, rest) =>
    let (inner, _) ← scan level {} rest
    let innerValues ← inner.settle
    let command ← commandOf level innerValues
    let values ← progress.settle
    return { config := innerValues.config <|> values.config, command }
  | none =>
    let values ← progress.settle
    throw (if values.config.isNone then .nothingAsked else .missingCommand)

end AttachmentFetch.CommandLine
