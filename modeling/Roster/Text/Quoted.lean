import Roster.Text.Printable
import Roster.Text.CodePoint

/-!
# Quoted texts

Messages quote a text that could not be read. The quotes are single ones, or double ones when the
text holds single quotes and no double ones. Backslashes and the quote itself are escaped, and so
is what is not printable: by a letter, or by two, four or eight hexadecimal digits.
-/

namespace Roster.Quoted

def escapeCode (code : Nat) : List Char :=
  if code < 0x100 then '\\' :: 'x' :: hexadecimal 2 code
  else if code < 0x10000 then '\\' :: 'u' :: hexadecimal 4 code
  else '\\' :: 'U' :: hexadecimal 8 code

def escapeChar (quote c : Char) : List Char :=
  if c = quote || c = '\\' then ['\\', c]
  else if c = '\n' then ['\\', 'n']
  else if c = '\r' then ['\\', 'r']
  else if c = '\t' then ['\\', 't']
  else if isPrintable c then [c]
  else escapeCode c.toNat

def escape (quote : Char) : CodePoint → List Char
  | .char c => escapeChar quote c
  | point => escapeCode point.code

def quoteFor (text : LooseText) : Char :=
  if text.contains (.char '\'') && !text.contains (.char '"') then '"' else '\''

def quote (text : LooseText) : String :=
  let mark := quoteFor text
  String.ofList (mark :: (text.flatMap (escape mark) ++ [mark]))

end Roster.Quoted
