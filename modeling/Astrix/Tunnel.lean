import Astrix.Client
import Astrix.ExitServer
import Astrix.Library.StepMachine

/-!
# The tunnel

Any number of clients, the exit server and what is in flight between them. A
batch in flight is the list of its frames: the decoder returns what the encoder
was given. Posts and responses arrive in any order, late, more than once or
never, and a response may reach any post that waits for an answer. The relay may
answer by itself, without frames. A response that the server cannot encode, or
that has no frames, gives the client nothing it can decode.
-/

namespace Astrix

open PyRuntime

set_option autoImplicit false

/-- A response on its way, under the number of the request it answers. -/
structure Response where
  request : Nat
  frames : List Frame
  deriving DecidableEq, Repr

/-- `posted` counts the requests made; `time` is the latest reading of the clock
by a handler of the server. -/
structure Tunnel where
  clients : List Client
  server : ExitServer
  posts : List Post
  responses : List Response
  posted : Nat
  time : ℚ

inductive TunnelAction where
  | client (index : Nat) (action : ClientAction)
  | arrive (index : Nat) (keep : Bool) (now atCheck afterScan : ℚ)
  | resume (index : Nat) (atCheck afterScan : ℚ)
  | upstream (index : Nat) (act : WorkerAct)
  | deliver (index : Nat) (keep : Bool) (client worker bodyLength sent : Nat) (rttMs now : ℚ)
  | relay (client worker : Nat) (answer : Answer) (sent : Nat) (rttMs now : ℚ)
  deriving DecidableEq

/-- Answers the relay can give without a response of the server. -/
def Answer.bare : Answer → Bool
  | .frames _ _ => false
  | .failed status => status != 200
  | _ => true

/-- The response that a client can decode. -/
def Reply.response (reply : Reply) : Option Response :=
  if reply.frames ≠ [] ∧ Client.Encodes reply.clientId reply.frames then
    some ⟨reply.request, reply.frames⟩
  else none

/-- What stays in flight of a list from which one item arrived. -/
def leftInFlight {Item : Type} (keep : Bool) (items : List Item) (index : Nat) : List Item :=
  if keep then items else items.eraseIdx index

theorem mem_left_in_flight {Item : Type} {keep : Bool} {items : List Item} {index : Nat}
    {item : Item} (member : item ∈ leftInFlight keep items index) : item ∈ items := by
  unfold leftInFlight at member
  split_ifs at member
  · exact member
  · exact List.mem_of_mem_eraseIdx member

namespace Tunnel

def start (clients : List (Bytes × Nat)) : Tunnel where
  clients := clients.map fun (clientId, endpoints) => Client.start clientId endpoints
  server := ExitServer.new
  posts := []
  responses := []
  posted := 0
  time := 0

def serve (t : Tunnel) (action : ServerAction) : Option Tunnel :=
  (t.server.react action).map fun (server, reply) =>
    { t with
      server := server
      responses := t.responses ++ (reply.bind Reply.response).toList }

def step (t : Tunnel) : TunnelAction → Option Tunnel
  | .client index action =>
      match t.clients[index]? with
      | some client => (client.react t.posted action).map fun (client, sent) =>
          { t with
            clients := t.clients.set index client
            posts := t.posts ++ sent.toList
            posted := t.posted + sent.toList.length }
      | none => none
  | .arrive index keep now atCheck afterScan =>
      match t.posts[index]? with
      | some post =>
          { t with
            posts := leftInFlight keep t.posts index
            time := max t.time (max now (max atCheck afterScan)) }.serve
            (.post post.request post.clientId post.frames now atCheck afterScan)
      | none => none
  | .resume index atCheck afterScan =>
      { t with time := max t.time (max atCheck afterScan) }.serve (.resume index atCheck afterScan)
  | .upstream index act => t.serve (.worker index act)
  | .deliver index keep client worker bodyLength sent rttMs now =>
      match t.responses[index]?, t.clients[client]? with
      | some response, some c =>
          (c.answered worker (.frames response.frames bodyLength) sent rttMs now).map fun c =>
            { t with
              clients := t.clients.set client c
              responses := leftInFlight keep t.responses index }
      | _, _ => none
  | .relay client worker answer sent rttMs now =>
      match answer.bare, t.clients[client]? with
      | true, some c => (c.answered worker answer sent rttMs now).map fun c =>
          { t with clients := t.clients.set client c }
      | _, _ => none

/-- Everything a step of the tunnel can be. -/
inductive Stepped (t : Tunnel) : TunnelAction → Tunnel → Prop where
  | client (index : Nat) (action : ClientAction) (c c' : Client) (sent : Option Post)
      (found : t.clients[index]? = some c) (reacted : c.react t.posted action = some (c', sent)) :
      Stepped t (.client index action)
        { t with
          clients := t.clients.set index c'
          posts := t.posts ++ sent.toList
          posted := t.posted + sent.toList.length }
  | arrive (index : Nat) (keep : Bool) (now atCheck afterScan : ℚ) (post : Post)
      (server : ExitServer) (reply : Option Reply) (found : t.posts[index]? = some post)
      (reacted : t.server.react
        (.post post.request post.clientId post.frames now atCheck afterScan) =
          some (server, reply)) :
      Stepped t (.arrive index keep now atCheck afterScan)
        { t with
          server := server
          posts := leftInFlight keep t.posts index
          responses := t.responses ++ (reply.bind Reply.response).toList
          time := max t.time (max now (max atCheck afterScan)) }
  | resume (index : Nat) (atCheck afterScan : ℚ) (server : ExitServer) (reply : Option Reply)
      (reacted : t.server.react (.resume index atCheck afterScan) = some (server, reply)) :
      Stepped t (.resume index atCheck afterScan)
        { t with
          server := server
          responses := t.responses ++ (reply.bind Reply.response).toList
          time := max t.time (max atCheck afterScan) }
  | upstream (index : Nat) (act : WorkerAct) (server : ExitServer) (reply : Option Reply)
      (reacted : t.server.react (.worker index act) = some (server, reply)) :
      Stepped t (.upstream index act)
        { t with
          server := server
          responses := t.responses ++ (reply.bind Reply.response).toList }
  | deliver (index : Nat) (keep : Bool) (client worker bodyLength sent : Nat) (rttMs now : ℚ)
      (response : Response) (c c' : Client) (found : t.responses[index]? = some response)
      (present : t.clients[client]? = some c)
      (taken : c.answered worker (.frames response.frames bodyLength) sent rttMs now = some c') :
      Stepped t (.deliver index keep client worker bodyLength sent rttMs now)
        { t with
          clients := t.clients.set client c'
          responses := leftInFlight keep t.responses index }
  | relay (client worker : Nat) (answer : Answer) (sent : Nat) (rttMs now : ℚ) (c c' : Client)
      (bare : answer.bare = true) (present : t.clients[client]? = some c)
      (taken : c.answered worker answer sent rttMs now = some c') :
      Stepped t (.relay client worker answer sent rttMs now)
        { t with clients := t.clients.set client c' }

theorem step_stepped {t later : Tunnel} {action : TunnelAction}
    (stepped : t.step action = some later) : Stepped t action later := by
  cases action with
  | client index action =>
      simp only [step] at stepped
      split at stepped
      · next c found =>
          obtain ⟨⟨c', sent⟩, reacted, rfl⟩ := Option.map_eq_some_iff.mp stepped
          exact .client index action c c' sent found reacted
      · cases stepped
  | arrive index keep now atCheck afterScan =>
      simp only [step] at stepped
      split at stepped
      · next post found =>
          obtain ⟨⟨server, reply⟩, reacted, rfl⟩ := Option.map_eq_some_iff.mp stepped
          exact .arrive index keep now atCheck afterScan post server reply found reacted
      · cases stepped
  | resume index atCheck afterScan =>
      obtain ⟨⟨server, reply⟩, reacted, rfl⟩ := Option.map_eq_some_iff.mp stepped
      exact .resume index atCheck afterScan server reply reacted
  | upstream index act =>
      obtain ⟨⟨server, reply⟩, reacted, rfl⟩ := Option.map_eq_some_iff.mp stepped
      exact .upstream index act server reply reacted
  | deliver index keep client worker bodyLength sent rttMs now =>
      simp only [step] at stepped
      split at stepped
      · next response c found present =>
          obtain ⟨c', taken, rfl⟩ := Option.map_eq_some_iff.mp stepped
          exact .deliver index keep client worker bodyLength sent rttMs now response c c' found
            present taken
      · cases stepped
  | relay client worker answer sent rttMs now =>
      simp only [step] at stepped
      split at stepped
      · next c bare present =>
          obtain ⟨c', taken, rfl⟩ := Option.map_eq_some_iff.mp stepped
          exact .relay client worker answer sent rttMs now c c' bare present taken
      · cases stepped

end Tunnel

def tunnelMachine : StepMachine Tunnel TunnelAction := ⟨Tunnel.step⟩

def streamSid : Bytes := List.replicate SessionIDLen 1
def streamClientId : Bytes := List.replicate ClientIDLen 7

/-- Client 0 opens a session, its first worker posts the SYN, and the upstream
connection is made. -/
def openedRun : List TunnelAction :=
  [.client 0 (.openConn streamSid [104, 58, 56] 0), .client 0 (.work 0 0),
    .arrive 0 false 0 0 0, .upstream 0 .begin, .upstream 0 .dialed]

end Astrix
