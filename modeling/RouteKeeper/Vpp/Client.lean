import RouteKeeper.Text.Number
import RouteKeeper.Vpp.Agent
import RouteKeeper.Vpp.Endpoint
import RouteKeeper.Vpp.Wire

/-!
# The agent's client

The agent's service on top of remote calls. Each request dials anew; dialling and
the call share one deadline. A status that says the agent is away or late is a
failure to reach it, any other status a rejection.
-/

namespace RouteKeeper.Vpp

namespace Remote

/-- A remote call: where it is dialled, which method is called, and the bytes of the request. -/
structure Call where
  uri : String
  method : String
  request : List UInt8
  deriving DecidableEq

/-- What comes back from a method. -/
inductive Reply where
  /-- The bytes of the response. -/
  | response (bytes : List UInt8)
  /-- A status other than success. -/
  | status (code : Nat) (message : String)
  deriving DecidableEq

/-- Why nothing comes back. -/
inductive Fault where
  /-- Nothing listens where it was dialled. -/
  | notConnected
  /-- The deadline passes. -/
  | late
  deriving DecidableEq

/-- The names of status codes. -/
def codeName : Nat → String
  | 0 => "Ok"
  | 1 => "Cancelled"
  | 3 => "InvalidArgument"
  | 4 => "DeadlineExceeded"
  | 5 => "NotFound"
  | 6 => "AlreadyExists"
  | 7 => "PermissionDenied"
  | 8 => "ResourceExhausted"
  | 9 => "FailedPrecondition"
  | 10 => "Aborted"
  | 11 => "OutOfRange"
  | 12 => "Unimplemented"
  | 13 => "Internal"
  | 14 => "Unavailable"
  | 15 => "DataLoss"
  | 16 => "Unauthenticated"
  | _ => "Unknown"

/-- The status codes that say that the agent is away or late. -/
def isAway (code : Nat) : Bool :=
  codeName code == "Unavailable" || codeName code == "DeadlineExceeded"

end Remote

/-- The service of remote calls. -/
abbrev remote : Service :=
  ⟨Remote.Call, fun _ => Remote.Reply, Remote.Fault⟩

/-- Where an agent is and how long a request to it may take. -/
structure Client where
  /-- The endpoint as it was set. -/
  endpoint : String
  /-- The time for one request, in milliseconds. -/
  timeout : Nat
  deriving DecidableEq

namespace Client

/-- The setting that holds the endpoint. -/
def endpointSetting : String := "vpp.agent_endpoint"

/-- The method of an operation. -/
def method (name : String) : String :=
  "/ligato.configurator.ConfiguratorService/" ++ name

/-- The request that adds items; nothing else is touched. -/
def updateRequest (config : ConfigData) : UpdateRequest :=
  { update := some { vppConfig := some config } }

/-- The request that removes items. -/
def deleteRequest (config : ConfigData) : DeleteRequest :=
  { delete := some { vppConfig := some config } }

/-- The configuration in a response; a part that is absent is empty. -/
def configIn (r : GetResponse) : ConfigData :=
  (r.config.bind (·.vppConfig)).getD {}

/-- The failure that a status stands for. -/
def statusFailure (operation : String) (code : Nat) (message : String) : Failure :=
  if Remote.isAway code then .unreachable .vpp operation message
  else .rejected operation (Remote.codeName code) message

/-- The failure of a call that nothing came back from. -/
def faultFailure (c : Client) (operation : String) : Remote.Fault → Failure
  | .notConnected => .unreachable .vpp operation "transport error"
  | .late =>
    .unreachable .vpp operation s!"no answer within {Text.decimal (c.timeout / 1000)}s"

/-- What a reply comes to. -/
def readReply {M α : Type} [Wire.Message M] (operation : String) (read : M → α) :
    Remote.Reply → Except Failure α
  | .status code message => .error (statusFailure operation code message)
  | .response bytes =>
    match (Wire.Message.decode bytes : Option M) with
    | none => .error (.rejected operation "Internal" "failed to decode the response")
    | some m => .ok (read m)

/-- Makes one remote call, unless the endpoint is malformed. -/
def send {M α : Type} [Wire.Message M] (c : Client) (operation name : String)
    (request : List UInt8) (read : M → α) : Program remote (Except Failure α) :=
  let uri := Endpoint.dialled c.endpoint
  if Endpoint.isUri uri then
    .call ⟨uri, method name, request⟩ fun
      | .error fault => .done (.error (c.faultFailure operation fault))
      | .ok reply => .done (readReply operation read reply)
  else .done (.error (.invalidConfig endpointSetting "invalid URI"))

/-- The agent's service over remote calls. -/
def configurator (c : Client) : Adapter agent remote
  | .update config =>
    c.send "update" "Update" (Wire.Message.encode (updateRequest config))
      fun (_ : UpdateResponse) => ()
  | .delete config =>
    c.send "delete" "Delete" (Wire.Message.encode (deleteRequest config))
      fun (_ : DeleteResponse) => ()
  | .get => c.send "get" "Get" (Wire.Message.encode ({} : GetRequest)) configIn

end Client

end RouteKeeper.Vpp
