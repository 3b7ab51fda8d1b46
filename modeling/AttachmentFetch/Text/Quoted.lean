import AttachmentFetch.Text.Printable

/-! Text in double quotes for messages: what a reader could not see, or could
mistake for the end of the text, is written as an escape. -/
namespace AttachmentFetch.Text

def hexDigits (code : Nat) : List Char :=
  Nat.toDigits 16 code

def escapeChar (c : Char) : List Char :=
  match c with
  | '\x00' => ['\\', '0']
  | '\t' => ['\\', 't']
  | '\r' => ['\\', 'r']
  | '\n' => ['\\', 'n']
  | '\\' => ['\\', '\\']
  | '"' => ['\\', '"']
  | c =>
    if Printable.isPrintable c then [c]
    else ['\\', 'u', '\x7b'] ++ hexDigits c.toNat ++ ['\x7d']

def quoted (text : String) : String :=
  String.ofList ('"' :: text.toList.flatMap escapeChar ++ ['"'])

/-- A single character in single quotes, by the same rules; here the single
quote is escaped and the double quote is not. -/
def quotedChar (c : Char) : String :=
  let inside :=
    if c = '\'' then ['\\', '\''] else if c = '"' then ['"'] else escapeChar c
  String.ofList ('\'' :: inside ++ ['\''])

end AttachmentFetch.Text
