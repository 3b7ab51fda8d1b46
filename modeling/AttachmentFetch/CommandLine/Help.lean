import AttachmentFetch.CommandLine.Basic

/-! What the program says about itself, and about a command line that it does
not understand. -/
namespace AttachmentFetch.CommandLine

abbrev Row := String × String

def about : Topic → String
  | .level .program => "Fetch and decrypt message attachments"
  | .level .register => "Record an attachment pointer received with a message"
  | .level .fetch => "Download an attachment, retrying until it succeeds or gives up"
  | .help => "Print this message or the help of the given subcommand(s)"

def Opt.help : Opt → String
  | .config => "TOML configuration file; defaults to the platform data directory"
  | .size => "Plaintext size in bytes, 0 when unknown [default: 0]"
  | .key => "Base64 encoded attachment key"
  | .digest => "Hex encoded digest of the encrypted blob"
  | .messageId | .attachmentId | .url | .contentType => ""

def Opt.row (option : Opt) : Row :=
  let mark := if option = .config then "-c, " else "    "
  (mark ++ option.shown, option.help)

def commandRows : List Row :=
  [("register", about (.level .register)), ("fetch", about (.level .fetch)), ("help", about .help)]

def table (rows : List Row) : List String :=
  let width := rows.foldl (fun width row => max width row.1.length) 0
  rows.map fun (term, explanation) =>
    "  " ++ term ++ String.ofList (List.replicate (width - term.length + 2) ' ') ++ explanation

def usage : Topic → String
  | .level .program => "[OPTIONS] <COMMAND>"
  | .level .register =>
    s!"register [OPTIONS] {Opt.messageId.shown} {Opt.attachmentId.shown} {Opt.url.shown}"
  | .level .fetch => s!"fetch [OPTIONS] {Opt.attachmentId.shown} {Opt.messageId.shown}"
  | .help => "help [COMMAND]"

def commandSection : List String := "Commands:" :: table commandRows

def optionSection (level : Level) : List String :=
  let version := if level = .program then [("-V, --version", "Print version")] else []
  "Options:" :: table (level.options.map Opt.row ++ ("-h, --help", "Print help") :: version)

def helpLines (topic : Topic) : List String :=
  let sections :=
    match topic with
    | .level .program => [commandSection, optionSection .program]
    | .level level => [optionSection level]
    | .help => [commandSection]
  about topic :: "" :: s!"Usage: {programName} {usage topic}" ::
    sections.flatMap fun lines => "" :: lines

def unlines (lines : List String) : String :=
  String.join (lines.map (· ++ "\n"))

def helpText (topic : Topic) : String := unlines (helpLines topic)

def versionLine : String := s!"{programName} {programVersion}"

def firstLine (text : String) : String :=
  String.ofList (text.toList.takeWhile (· ≠ '\n'))

def UsageError.firstLine (error : UsageError) : String :=
  CommandLine.firstLine <|
    match error with
    | .help topic => about topic
    | .version => versionLine
    | .nothingAsked => about (.level .program)
    | .missingCommand => s!"error: '{programName}' requires a subcommand but one was not provided"
    | .unknownCommand name => s!"error: unrecognized subcommand '{name}'"
    | .unknownArgument argument => s!"error: unexpected argument '{argument}' found"
    | .missingValue option =>
      s!"error: a value is required for '{option.shown}' but none was supplied"
    | .badInteger text option fault =>
      s!"error: invalid value '{text}' for '{option.shown}': {fault.parseMessage}"
    | .repeated option => s!"error: the argument '{option.shown}' cannot be used multiple times"
    | .missingOptions => "error: the following required arguments were not provided:"
    | .unwantedValue value flag =>
      s!"error: unexpected value '{value}' for '{flag}' found; no more were expected"

end AttachmentFetch.CommandLine
