import RouteKeeper.Vpp.Client

/-!
# A scripted agent

An agent that answers remote calls from a script, one step for each call; after the
end of the script every answer is an empty response. If it does not listen, no call
reaches it.
-/

namespace RouteKeeper

/-- What a scripted agent does on one call. -/
inductive AgentStep where
  /-- Responds, to a request for the configuration with the given one. -/
  | respond (config : Option Vpp.Config)
  /-- Responds with the given bytes. -/
  | bytes (content : List UInt8)
  /-- Ends the call with a status. -/
  | status (code : Nat) (message : String)
  /-- Never answers. -/
  | hang
  deriving DecidableEq

/-- A scripted agent. -/
structure ScriptedAgent where
  /-- Whether it can be dialled. -/
  listens : Bool := true
  /-- What it does on the coming calls. -/
  script : List AgentStep := []
  /-- The methods and the requests of the calls so far, oldest first. -/
  requests : List (String × List UInt8) := []

namespace ScriptedAgent

/-- The answer of one step. -/
def answer : AgentStep → Except Vpp.Remote.Fault Vpp.Remote.Reply
  | .respond config => .ok (.response (Wire.Message.encode (⟨config⟩ : Vpp.GetResponse)))
  | .bytes content => .ok (.response content)
  | .status code message => .ok (.status code message)
  | .hang => .error .late

/-- Answers remote calls. -/
def server : Server Vpp.remote ScriptedAgent :=
  fun c a =>
    if a.listens then
      (answer (a.script.headD (.respond none)),
        { a with script := a.script.tail, requests := a.requests ++ [(c.method, c.request)] })
    else (.error .notConnected, a)

end ScriptedAgent

end RouteKeeper
