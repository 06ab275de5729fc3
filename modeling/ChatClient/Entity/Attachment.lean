import ChatClient.Wire.Record
/-!
# Attachments

Files on the content server.
-/
namespace ChatClient

structure AttachmentMetadata where
  kind : String
  width : Option UInt32
  height : Option UInt32
deriving DecidableEq, Repr, Inhabited

namespace AttachmentMetadata

def record : Record AttachmentMetadata AttachmentMetadata :=
  (Record.make AttachmentMetadata.mk : Record AttachmentMetadata _)
    |>.optional "type" (·.kind)
    |>.optional "width" (·.width)
    |>.optional "height" (·.height)

instance : Wire AttachmentMetadata := .ofRecord record

end AttachmentMetadata

structure Attachment where
  id : String
  tag : String
  filename : String
  metadata : Option AttachmentMetadata
  contentType : String
  size : UInt64
  deleted : Bool
  reported : Bool
  messageId : Option String
  userId : Option String
  serverId : Option String
  objectId : Option String
deriving DecidableEq, Repr, Inhabited

namespace Attachment

def path (a : Attachment) : String :=
  "/" ++ a.tag ++ "/" ++ a.id

def record : Record Attachment Attachment :=
  (Record.make Attachment.mk : Record Attachment _)
    |>.optional "_id" (·.id)
    |>.optional "tag" (·.tag)
    |>.optional "filename" (·.filename)
    |>.optional "metadata" (·.metadata)
    |>.optional "content_type" (·.contentType)
    |>.optional "size" (·.size)
    |>.optional "deleted" (·.deleted)
    |>.optional "reported" (·.reported)
    |>.optional "message_id" (·.messageId)
    |>.optional "user_id" (·.userId)
    |>.optional "server_id" (·.serverId)
    |>.optional "object_id" (·.objectId)

instance : Wire Attachment := .ofRecord record

end Attachment

end ChatClient
