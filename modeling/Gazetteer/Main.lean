import Gazetteer.Application
import Gazetteer.Datasette.Wire
import Gazetteer.Http.Document
import Gazetteer.Http.Service
import Std.Async
import Std.Http

/-!
The program.  It serves searches over HTTP and sends queries to a server that it reaches over plain HTTP.
-/

namespace Gazetteer.Program

open Std.Async

/-! ### The machine -/

/-- What stands at a path of the machine; what cannot be read as text counts as a directory. -/
def contentAt (path : String) : IO (Option FileEntry) := do
  match ← EIO.toBaseIO (IO.FS.readFile path) with
  | .ok text => return some (.file text)
  | .error (.noFileOrDirectory _ _ _) | .error (.noSuchThing _ _ _) => return none
  | .error _ => return some .directory

/-- A place that knows what stands at the listed paths. -/
def placeKnowing (home : Option String) (directory : String) (paths : List String) : IO Place := do
  let known ← paths.mapM fun path => return (path, ← contentAt path)
  return ⟨home, directory, fun path => ((known.find? (·.1 == path)).map (·.2)).getD none⟩

/-- The place where the program runs, as far as a start from it needs to know it. -/
def currentPlace (environment : Variables) (arguments : List String) : IO Place := do
  let home := environment.get? "HOME"
  let directory := toString (← IO.currentDir)
  let around := (Path.ancestors directory).map (Path.join · ".env")
  let bare ← placeKnowing home directory around
  let named :=
    match CommandLine.read (Application.allVariables bare environment) arguments with
    | .ok read => (read.values.config.map bare.expand).toList
    | .error _ => []
  let profile := (home.map fun home => bare.absolute (Configuration.profilePath home)).toList
  placeKnowing home directory (around ++ profile ++ named ++ [bare.absolute Configuration.fileName])

def machineEnvironment : IO Variables := return (← Std.Internal.UV.System.osEnviron).toList

/-! ### Queries -/

/-- All bytes up to the end of a connection. -/
partial def receiveAll (socket : TCP.Socket.Client) (before : ByteArray) : Async ByteArray := do
  match ← socket.recv? 65536 with
  | some bytes => receiveAll socket (before ++ bytes)
  | none => return before

def socketAddress (address : Std.Net.IPAddr) (port : UInt16) : Std.Net.SocketAddress :=
  match address with
  | .v4 address => .v4 ⟨address, port⟩
  | .v6 address => .v6 ⟨address, port⟩

def standardPort : Nat := 80

/-- One attempt at a query, noting whether the request is sent.  A server that does not speak plain HTTP cannot be
reached. -/
def attempt (client : Datasette.Client) (query : Query) (sent : IO.Ref Bool) : Async Datasette.Delivery := do
  let url := client.queryUrl query
  match url.authority with
  | none => return .refused
  | some authority =>
    if url.scheme != "http".toList then return .refused
    let host := String.ofList (authority.host.chars.filter fun c => c != '[' && c != ']')
    let port := authority.port.getD standardPort
    try
      let addresses ← DNS.getAddrInfo host (toString port)
      match addresses[0]? with
      | none => return .refused
      | some address =>
        let socket ← TCP.Socket.Client.mk
        socket.connect (socketAddress address port.toUInt16)
        socket.send (Datasette.Wire.request host url.target).toUTF8
        sent.set true
        let bytes ← receiveAll socket .empty
        return Datasette.Wire.delivery bytes.toList
    catch _ => return .refused

/-- One attempt that is given up after the seconds that the client allows. -/
def timedAttempt (client : Datasette.Client) (query : Query) : Async Datasette.Delivery := do
  let sent ← IO.mkRef false
  Async.race (attempt client query sent) do
    sleep (.ofNat (1000 * client.settings.timeoutSeconds))
    return if ← sent.get then .late else .ignored

/-- How waits are reckoned. -/
def arithmetic : Retry.Arithmetic := .checked

/-- The result of an exchange; there is none where a wait stops the program. -/
def resultOf (exchange : Datasette.Exchange) : Async (Except QueryError Table) :=
  match exchange.result? with
  | some result => return result
  | none => throw (.userError "no word holds the wait before the next attempt")

/-- Sends a query until no more attempts are called for; `left` bounds those still to come. -/
def send (client : Datasette.Client) (query : Query) :
    (left : Nat) → (before : List Datasette.Delivery) → Async (Except QueryError Table)
  | 0, before => resultOf (client.execute arithmetic fun i => (before[i - 1]?).getD .refused)
  | left + 1, before => do
    let deliveries := before ++ [← timedAttempt client query]
    let exchange := client.execute arithmetic fun i => (deliveries[i - 1]?).getD (.reply 200 [])
    if exchange.attempts ≤ deliveries.length then resultOf exchange
    else
      sleep (.ofNat ((Retry.backoff? arithmetic Datasette.baseDelay deliveries.length).getD 0))
      send client query left deliveries

/-- Holds a dialogue with the server that a client knows. -/
def converse {α : Type} (client : Datasette.Client) : Dialogue α → Async α
  | .answer value => return value
  | .ask query next => do converse client (next (← send client query client.settings.maxAttempts []))

/-! ### Requests -/

/-- The text of a content; content is never sent compressed. -/
def contentText : Http.Content → Option String
  | .empty => none
  | .json value => some value.render
  | .document => some Http.Document.outline.render

def readRequest (head : Std.Http.Request.Head) : Http.Request where
  method := Http.Method.ofName (toString head.method)
  target := Http.Target.ofUri (toString head.uri)
  headers := (head.headers.toList.map fun header => (toString header.1, toString header.2)).filter
    fun header => header.1.toLower != "accept-encoding"

def answer (client : Datasette.Client) (request : Std.Http.Request Std.Http.Body.Stream) :
    ContextAsync (Std.Http.Response Std.Http.Body.Any) := do
  let response ← converse client (Http.respond Datasette.backendName (readRequest request.line))
  let status := (Std.Http.Status.ofCode none response.status.toUInt16).getD .internalServerError
  let head := response.headers.foldl (fun head header => head.header! header.1 header.2)
    (Std.Http.Response.new.status status)
  match contentText response.content with
  | some text => return head.body (.ofBody (← Std.Http.Body.Full.ofString text))
  | none => return head.body (.ofBody Std.Http.Body.Empty.mk)

/-! ### The run -/

def octet (n : Nat) : UInt8 := n.toUInt8

/-- An address as sockets take it. -/
def listening (address : Net.Address) (port : Nat) : Option Std.Net.SocketAddress :=
  match address with
  | .v4 ⟨a, b, c, d⟩ => some (.v4 ⟨.ofParts (octet a) (octet b) (octet c) (octet d), port.toUInt16⟩)
  | .v6 address =>
    (Std.Net.IPv6Addr.ofString (.ofList address.chars)).map fun address => .v6 ⟨address, port.toUInt16⟩

def refusal : IO.Error → Server.Refusal
  | .resourceBusy _ _ => .inUse
  | _ => .notLocal

def waitForSignal : Async Unit := do
  let interrupt ← Signal.Waiter.mk .sigint false
  let terminate ← Signal.Waiter.mk .sigterm false
  discard <| Selectable.one #[.case interrupt.selector pure, .case terminate.selector pure]

/-- Serves until a signal comes; the answer is why it could not. -/
def serve (client : Datasette.Client) (address : Net.Address) (port : Nat) : Async (Option Server.Refusal) := do
  match listening address port with
  | none => return some .notLocal
  | some socket =>
    try
      let server ← Std.Http.Server.serve socket (Std.Http.Server.Handler.ofFn (answer client))
      waitForSignal
      server.shutdownAndWait
      return none
    catch error => return some (refusal error)

def finish (output : Application.Output) : IO UInt32 := do
  IO.print output.printed
  IO.eprint output.complaint
  return output.code.toUInt32

def run (arguments : List String) : IO UInt32 := do
  let environment ← machineEnvironment
  let place ← currentPlace environment arguments
  match Application.start place environment arguments with
  | .ended output => finish output
  | .ready configuration client =>
    IO.print (Banner.text configuration)
    (← IO.getStdout).flush
    match Server.listen (fun _ _ => none) configuration.host configuration.port with
    | .error fault => finish (Application.failure "" fault.message)
    | .ok address =>
      match ← (serve client address configuration.port).block with
      | some refusal => finish (Application.failure "" refusal.message)
      | none => return 0

end Gazetteer.Program

def main (arguments : List String) : IO UInt32 := Gazetteer.Program.run arguments
