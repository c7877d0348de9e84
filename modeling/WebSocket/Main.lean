import Std.Async.DNS
import Std.Async.Signal
import Std.Async.TCP
import WebSocket.Client.Basic
import WebSocket.CommandLine.Ending
import WebSocket.Echo
import WebSocket.Metrics
import WebSocket.Server.Exchange

/-!
# The programs

`main` runs the server, or, when the first argument is `client`, the client.  All that is decided
here is when to read, to write and to wait.
-/

namespace WebSocket

namespace Program

open Std.Async

/-- The address as the system takes it. -/
def systemAddress (a : SocketAddress) : Std.Net.SocketAddress :=
  match a.ip with
  | .v4 b c d e => .v4 ⟨⟨#v[b, c, d, e]⟩, a.port⟩
  | .v6 groups => .v6 ⟨⟨groups⟩, a.port⟩

/-- The address that the system gave. -/
def ownAddress : Std.Net.SocketAddress → SocketAddress
  | .v4 a =>
    let bytes := a.addr.octets
    ⟨.v4 bytes[0] bytes[1] bytes[2] bytes[3], a.port, 0⟩
  | .v6 a => ⟨.v6 a.addr.segments, a.port, 0⟩

/-- The bytes in the form in which the system sends them. -/
def outgoing (bytes : Bytes) : ByteArray := ⟨bytes.toArray⟩

/-- Work that may fail, with the text of its failure. -/
def attempt {α : Type} (work : IO α) : IO (Except String α) := do
  try
    return .ok (← work)
  catch e => return .error (toString e)

/-- What a program prints at its end, and its exit status. -/
def finish (e : Ending) : IO UInt32 := do
  IO.print e.output
  if let some cause := e.cause then
    IO.eprintln (complaint cause)
  return .ofNat e.status

/-! ### The server -/

/-- A server at work, with the connections of its clients. -/
structure Live where
  server : IO.Ref Server
  metrics : IO.Ref Metrics
  clients : IO.Ref (List (Nat × TCP.Socket.Client))
  leastRank : Nat

namespace Live

/-- An entry of the log, if it matters enough. -/
def log (l : Live) (entry : LogEntry) : IO Unit := do
  if entry.level.rank ≥ l.leastRank then
    IO.println entry.text
    (← IO.getStdout).flush

/-- What came of some work logged and counted. -/
def tell (l : Live) (effects : List ServerEffect) : IO Unit := do
  let notices := effects.flatMap Echo.notices
  l.metrics.modify (·.recordAll notices)
  for event in Notice.events notices do
    l.log event.entry

/-- Work on the server that nothing comes between. -/
def change (l : Live) (work : Server → Server.Step) : IO Unit := do
  let effects ← l.server.modifyGet fun s =>
    let step := work s
    (step.effects, step.server)
  l.tell effects

/-- What a client sends put in, until it ends. -/
partial def listenTo (l : Live) (serial : Nat) (socket : TCP.Socket.Client) : IO Unit := do
  match ← attempt (socket.recv? 65536).block with
  | .ok (some chunk) =>
    l.change (Server.move echo (.arrive serial chunk.data.toList))
    l.listenTo serial socket
  | _ => l.change (Server.move echo (.finish serial))

/-- Connections accepted, each with the next number. -/
partial def acceptFrom (l : Live) (listener : TCP.Socket.Server) (serial : Nat) : IO Unit := do
  match ← attempt listener.accept.block with
  | .error _ => IO.sleep 10
  | .ok socket =>
    let peer ← attempt socket.getPeerName
    if let .ok peer := peer then
      discard <| attempt socket.noDelay
      l.clients.modify (· ++ [(serial, socket)])
      l.change (Server.move echo (.accept ⟨serial, ownAddress peer, .fresh, none⟩))
      discard <| IO.asTask (l.listenTo serial socket) .dedicated
  l.acceptFrom listener (serial + 1)

/-- What was written sent to one client; whether its connection has ended. -/
def ship (l : Live) (serial : Nat) (socket : TCP.Socket.Client) : IO Bool := do
  let shipment ← l.server.modifyGet (Server.fetch serial)
  unless shipment.bytes.isEmpty do
    discard <| attempt (socket.send (outgoing shipment.bytes)).block
  if shipment.ended then
    discard <| attempt socket.shutdown.block
  return shipment.ended

/-- What was written sent to all clients. -/
def shipAll (l : Live) : IO Unit := do
  for (serial, socket) in ← l.clients.get do
    if ← l.ship serial socket then
      l.clients.modify (·.filter (·.1 != serial))

/-- Turns of the server until one of the signals has come. -/
partial def serveUntil (l : Live) (signals : List (AsyncTask Int)) (pause : UInt32) : IO Unit := do
  unless ← signals.anyM fun s => IO.hasFinished s do
    l.change (Server.turn echo true)
    l.shipAll
    IO.sleep pause
    l.serveUntil signals pause

/-- The metrics given to everyone who asks. -/
partial def exposeMetrics (l : Live) (listener : TCP.Socket.Server) : IO Unit := do
  if let .ok socket ← attempt listener.accept.block then
    discard <| attempt (socket.recv? 65536).block
    let body := Text.utf8 (← l.metrics.get).exposition
    let response := (Http.Response.new 200).setBody body "text/plain"
    discard <| attempt (socket.send (outgoing response.encode)).block
    discard <| attempt socket.shutdown.block
  l.exposeMetrics listener

end Live

/-- A socket that listens on an address, and the address with the port that was chosen. -/
def listenOn (address : SocketAddress) (backlog : Nat) :
    IO (TCP.Socket.Server × SocketAddress) := do
  let socket ← TCP.Socket.Server.mk
  socket.bind (systemAddress address)
  socket.listen (.ofNat (min backlog 65535))
  return (socket, ownAddress (← socket.getSockName))

/-- What the file that options name holds, if it is there. -/
def readConfig (o : ServerOptions) : IO (Option Bytes) := do
  match o.config with
  | none => return none
  | some path => return (← attempt (IO.FS.readBinFile path)).toOption.map (·.data.toList)

/-- The metrics exposed, if the settings ask for that. -/
def startMetrics (l : Live) (s : ObservabilitySettings) : IO Unit := do
  if s.metricsEnabled then
    if let some address := SocketAddress.parse? s.metricsAddress then
      if let .ok (listener, _) ← attempt (listenOn address 16) then
        discard <| IO.asTask (l.exposeMetrics listener) .dedicated

/-- The server run under settings until it is told to stop. -/
def runServer (s : Settings) : IO UInt32 := do
  let live : Live :=
    ⟨← IO.mkRef (.new s), ← IO.mkRef .empty, ← IO.mkRef [], s.observability.leastRank⟩
  let signals ← [Signal.sigint, .sigterm].mapM fun signal => do
    (← Signal.Waiter.mk signal false).wait
  live.log ⟨.info, "Configuration loaded", [("bind_address", s.listener.bindAddress),
    ("workers", toString s.dispatch.workers),
    ("max_packet_size", toString s.wire.packetLimit)]⟩
  startMetrics live s.observability
  let wanted := (SocketAddress.parse? s.listener.bindAddress).getD ⟨.v4 0 0 0 0, 0, 0⟩
  let bound ← attempt (listenOn wanted s.listener.backlog)
  let network : Network := fun _ => bound.map (·.2)
  let started ← live.server.modifyGet fun server =>
    let (step, result) := server.start echo ⟨none, none, network, none⟩
    ((step.effects, result), step.server)
  live.tell started.1
  match started.2, bound with
  | .error e, _ => finish (.failed e.inspect)
  | .ok address, .ok (listener, _) =>
    live.log ⟨.info, "Listening for connections", [("address", address.text)]⟩
    discard <| IO.asTask (live.acceptFrom listener 0) .dedicated
    live.serveUntil signals (.ofNat (min s.hub.pollTimeout 1000))
    live.log ⟨.info, "Shutdown signal received", []⟩
    live.change (Server.stop echo)
    live.shipAll
    live.log ⟨.info, "Shutdown complete", []⟩
    return 0
  | .ok _, .error detail => finish (.failed detail)

/-! ### The client -/

/-- The address that a client was told: an Internet address, or the name of a host with a port. -/
def resolve (address : String) : IO SocketAddress := do
  if let some found := SocketAddress.parse? address then
    return found
  let failure := IO.userError "failed to lookup address information"
  let some (host, port) := Text.cutLast ':' address.toList | throw failure
  let some port := Text.number? 10 port | throw failure
  let found : Array Std.Net.IPAddr ←
    (DNS.getAddrInfo (String.ofList host) (toString port)).block
  match found.toList with
  | .v4 a :: _ => return ownAddress (.v4 ⟨a, .ofNat port⟩)
  | .v6 a :: _ => return ownAddress (.v6 ⟨a, .ofNat port⟩)
  | [] => throw failure

/-- A mask of random bytes. -/
def randomMask : IO MaskKey := do
  let bytes ← IO.getRandomBytes 4
  return (MaskKey.ofBytes? bytes.data.toList).getD ⟨0, 0, 0, 0⟩

/-- The connection of a client. -/
structure Dialogue where
  socket : TCP.Socket.Client
  /-- How many milliseconds a read may take. -/
  patience : UInt32

namespace Dialogue

/-- Bytes sent. -/
def send (d : Dialogue) (bytes : Bytes) : IO Unit := (d.socket.send (outgoing bytes)).block

/-- What a read finds, however long it takes. -/
def read (d : Dialogue) : IO Arrival := do
  match ← attempt (d.socket.recv? (.ofNat Incoming.readSize)).block with
  | .ok chunk => return .bytes (chunk.elim [] (·.data.toList))
  | .error detail => return .failed detail

/-- Nothing is found within the time that a read may take. -/
def giveUp (d : Dialogue) : IO Arrival := do
  IO.sleep d.patience
  return .blocked

/-- What the next read finds. -/
def arrival (d : Dialogue) : IO Arrival := do
  let read ← IO.asTask d.read .dedicated
  let timer ← IO.asTask d.giveUp .dedicated
  match ← IO.waitAny [read, timer] with
  | .ok found => return found
  | .error e => return .failed (toString e)

/-- Reading until `receive` finds what it waits for; bytes that arrive join those in `i`. -/
partial def await {α : Type} (d : Dialogue) (receive : Incoming → Except ClientError α)
    (i : Incoming) : IO (Except ClientError α) := do
  match receive { i with source := ⟨[], true⟩ } with
  | .error .serverClosed =>
    match ({ i with source := ⟨[← d.arrival], false⟩ } : Incoming).readMore with
    | .ok i => d.await receive i
    | .error e => return .error e
  | found => return found

end Dialogue

/-- Texts said and answers printed, round after round; the result is what was left unread. -/
def converse (d : Dialogue) (o : ClientOptions) (i : Incoming) :
    IO (Except ClientError Incoming) := do
  let mut i := i
  for round in [0:o.rounds] do
    for text in o.messages do
      d.send (Client.say (← randomMask) text)
      match ← d.await Client.receiveMessage i with
      | .error e => return .error e
      | .ok (reply, rest) =>
        IO.println (Client.replyLine round text reply)
        i := rest
  return .ok i

/-- The conversation of a client from the upgrade to the farewell. -/
def talk (d : Dialogue) (o : ClientOptions) : IO (Except ClientError Unit) := do
  let key := Client.key (← IO.getRandomBytes 16).data.toList
  d.send ((Client.request o.address o.path key).encode Client.version)
  match ← d.await (Client.receiveAnswer key) ⟨[], ⟨[], false⟩⟩ with
  | .error e => return .error e
  | .ok i =>
    IO.println (Client.connectedLine o.address o.path)
    match ← converse d o i with
    | .error e => return .error e
    | .ok i =>
      d.send (Client.goodbye (← randomMask))
      let reply ← d.await Client.receiveMessage i
      IO.println (Client.closedLine (reply.map (·.1)))
      return .ok ()

/-- The client run with its options. -/
def runClient (o : ClientOptions) : IO UInt32 := do
  let result ← attempt do
    let socket ← TCP.Socket.Client.mk
    (socket.connect (systemAddress (← resolve o.address))).block
    if o.timeout = 0 then
      throw (IO.userError "cannot set a 0 duration timeout")
    socket.noDelay
    talk ⟨socket, .ofNat (min (o.timeout * 1000) 0xFFFFFFFF)⟩ o
  match result with
  | .ok (.ok ()) => return 0
  | .ok (.error e) => finish (.failed e.inspect)
  | .error detail => finish (.failed (ClientError.io detail).inspect)

/-! ### Starting -/

/-- A program run with the options that its arguments give. -/
def start {α : Type} (g : CommandLine.Grammar) (options : Except CommandLine.Stop α)
    (run : α → IO UInt32) : IO UInt32 := do
  match options with
  | .ok o => run o
  | .error stop =>
    if stop ≠ .help then
      IO.eprintln (stop.message ++ "\n\n" ++ g.usage)
    finish (.stopped g stop)

/-- The server, with the settings that the arguments ask for. -/
def serverMain (arguments : List String) : IO UInt32 :=
  start ServerOptions.grammar (ServerOptions.read arguments) fun o => do
    let content ← readConfig o
    match ServerOptions.launch arguments fun _ => content with
    | .ok s => runServer s
    | .error e => finish e

/-- The client. -/
def clientMain (arguments : List String) : IO UInt32 :=
  start ClientOptions.grammar (ClientOptions.read arguments) runClient

end Program

end WebSocket

/-- The program: `client` as the first argument runs the client, all else the server. -/
def main (arguments : List String) : IO UInt32 :=
  match arguments with
  | "client" :: rest => WebSocket.Program.clientMain rest
  | _ => WebSocket.Program.serverMain arguments
