import AttachmentFetch.Attachment.Id
import AttachmentFetch.Text.Integer

/-! What can be asked for on the command line, and what can be wrong with it. -/
namespace AttachmentFetch.CommandLine

def programName : String := "courier"
def programVersion : String := "0.1.0"

structure Registration where
  message : MessageId
  attachment : AttachmentId
  url : String
  size : UInt64 := 0
  key : Option String := none
  digest : Option String := none
  contentType : Option String := none
  deriving DecidableEq, Repr

inductive Command where
  | register (registration : Registration)
  | fetch (attachment : AttachmentId) (message : MessageId)
  deriving DecidableEq, Repr

structure Invocation where
  /-- Paths are text here, as all names on a disk are. A configuration file whose path is no
  UTF-8 can be named on a command line too; such command lines are left out. -/
  config : Option String
  command : Command
  deriving DecidableEq, Repr

/-- The program itself and its commands, each of which has options of its own. -/
inductive Level where
  | program
  | register
  | fetch
  deriving DecidableEq, Repr

inductive Opt where
  | config
  | messageId
  | attachmentId
  | url
  | size
  | key
  | digest
  | contentType
  deriving DecidableEq, Repr

def Opt.name : Opt → String
  | config => "config"
  | messageId => "message-id"
  | attachmentId => "attachment-id"
  | url => "url"
  | size => "size"
  | key => "key"
  | digest => "digest"
  | contentType => "content-type"

def Opt.valueName : Opt → String
  | config => "FILE"
  | messageId => "MESSAGE_ID"
  | attachmentId => "ATTACHMENT_ID"
  | url => "URL"
  | size => "SIZE"
  | key => "KEY"
  | digest => "HEX"
  | contentType => "CONTENT_TYPE"

def Opt.shown (option : Opt) : String := s!"--{option.name} <{option.valueName}>"

def Level.options : Level → List Opt
  | program => [.config]
  | register => [.config, .messageId, .attachmentId, .url, .size, .key, .digest, .contentType]
  | fetch => [.attachmentId, .config, .messageId]

def Level.ofName? : String → Option Level
  | "register" => some register
  | "fetch" => some fetch
  | _ => none

inductive Topic where
  | level (level : Level)
  | help
  deriving DecidableEq, Repr

inductive UsageError where
  | help (topic : Topic)
  | version
  | nothingAsked
  | missingCommand
  | unknownCommand (name : String)
  | unknownArgument (argument : String)
  | missingValue (option : Opt)
  | badInteger (text : String) (option : Opt) (fault : Text.IntegerFault)
  | repeated (option : Opt)
  | missingOptions
  | unwantedValue (value flag : String)
  deriving DecidableEq, Repr

end AttachmentFetch.CommandLine
