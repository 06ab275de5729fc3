import ChatClient.Text.Hexadecimal
import ChatClient.Text.Unseen
/-!
# Quoted texts

How a text is shown inside a message: between double quotes, with the quote, the backslash and the usual controls behind
a backslash, and every character that cannot be seen by its number.
-/
namespace ChatClient.Text

def quoteChar (c : Char) : List Char :=
  if c = '\x00' then ['\\', '0']
  else if c = '\t' then ['\\', 't']
  else if c = '\r' then ['\\', 'r']
  else if c = '\n' then ['\\', 'n']
  else if c = '"' then ['\\', '"']
  else if c = '\\' then ['\\', '\\']
  else if isUnseen c then ['\\', 'u', '\x7b'] ++ Hexadecimal.ofNat c.toNat ++ ['\x7d']
  else [c]

def quote (s : String) : String :=
  String.ofList ('"' :: s.toList.flatMap quoteChar ++ ['"'])

end ChatClient.Text
