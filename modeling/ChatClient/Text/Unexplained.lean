/-!
# Unexplained faults

Some faults are only known to have happened: that a text is no JSON, that a value is not of a type, that a URL cannot
be read, that a request came to nothing.  Messages about them end in the same mark, and so does a message from
elsewhere once its account is taken out.
-/
namespace ChatClient.Text

/-- What stands in a message for the account of a fault that has none. -/
def unexplained : String := "<source>"

/-- What a message about a text that is no JSON begins with. -/
def noJsonHead : String := "frame is not valid JSON: "

/-- What a message about a payload that is not of its type begins with, up to the name of its kind. -/
def payloadHead : String := "failed to decode "

def payloadTail : String := " payload: "

/-- A text up to where another first stands inside it, and this with it. -/
def through? (part : List Char) : List Char → Option (List Char)
  | [] => if part.isEmpty then some [] else none
  | c :: cs => if part.isPrefixOf (c :: cs) then some part else (through? part cs).map (c :: ·)

/-- A message about a frame that could not be decoded, without the account of the fault if it has one. -/
def unexplain (message : String) : String :=
  let cs := message.toList
  if noJsonHead.toList.isPrefixOf cs then noJsonHead ++ unexplained
  else if payloadHead.toList.isPrefixOf cs then
    match through? payloadTail.toList cs with
    | some head => String.ofList head ++ unexplained
    | none => message
  else message

end ChatClient.Text
