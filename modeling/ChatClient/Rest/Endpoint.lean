/-!
# Endpoints

The paths of the API below its base.
-/
namespace ChatClient

inductive Endpoint where
  | self
  | user (userId : String)
  | server (serverId : String)
  | serverMember (serverId userId : String)
  | channel (channelId : String)
  | channelMessages (channelId : String)
  | channelMessage (channelId messageId : String)
deriving DecidableEq, Repr

def Endpoint.path : Endpoint → String
  | .self => "users/@me"
  | .user userId => "users/" ++ userId
  | .server serverId => "servers/" ++ serverId
  | .serverMember serverId userId => "servers/" ++ serverId ++ "/members/" ++ userId
  | .channel channelId => "channels/" ++ channelId
  | .channelMessages channelId => "channels/" ++ channelId ++ "/messages"
  | .channelMessage channelId messageId => "channels/" ++ channelId ++ "/messages/" ++ messageId

end ChatClient
