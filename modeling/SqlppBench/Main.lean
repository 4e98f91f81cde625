import SqlppBench.Command.Help
import SqlppBench.Command.Run
import SqlppBench.Http.Wire
import Std.Async.DNS
import Std.Async.TCP

/-! # The program

The outer layer: it reads the environment and the files, opens the sockets and prints. What is sent,
and what comes of it, is decided by the dialogues that are carried out here.
-/

namespace SqlppBench.Program

open Std.Async Std.Net

/-! ## Sockets -/

/-- The address of a port. -/
def socketAddress (port : Nat) : IPAddr → SocketAddress
  | .v4 addr => .v4 ⟨addr, port.toUInt16⟩
  | .v6 addr => .v6 ⟨addr, port.toUInt16⟩

/-- Connects to the first of some addresses that accepts. -/
def connectFirst (port : Nat) : List IPAddr → IO TCP.Socket.Client
  | [] => throw (IO.userError "failed to lookup address information")
  | [a] => connectTo a
  | a :: rest => try connectTo a catch _ => connectFirst port rest
where
  /-- Connects to one address. -/
  connectTo (a : IPAddr) : IO TCP.Socket.Client := do
    let socket ← TCP.Socket.Client.mk
    (socket.connect (socketAddress port a)).block
    return socket

/-- Connects to a port of a host. -/
def connect (host : String) (port : Nat) : IO TCP.Socket.Client := do
  let bare := String.ofList (host.toList.filter fun c => c != '[' && c != ']')
  let addresses ← (DNS.getAddrInfo bare (toString port)).block
  connectFirst port addresses.toList

/-- Sends bytes. -/
def send (socket : TCP.Socket.Client) (s : Bytes) : IO Unit :=
  (socket.send ⟨s.toArray⟩).block

/-- Receives bytes until the peer closes the connection. -/
partial def receiveAll (socket : TCP.Socket.Client) (before : Bytes) :
    IO (Bytes × Option String) := do
  let received ← try
      let piece ← (socket.recv? 65536).block
      pure (Except.ok piece)
    catch e => pure (Except.error (toString e))
  match received with
  | .ok (some piece) => receiveAll socket (before ++ piece.toList)
  | .ok none => return (before, none)
  | .error reason => return (before, some reason)

/-- Posts a request. No redirects are followed here: their answers are passed on as they are. -/
def post (r : Http.Request) : IO Http.Answer := do
  let u := r.endpoint.url
  if u.scheme != "http" then return .dropped "only plain connections are supported"
  try
    let socket ← connect u.host.text (u.port.getD 80)
    send socket r.wire
    let (bytes, failure) ← receiveAll socket []
    return .ofWire bytes failure (bytes.length + 1)
  catch e => return .dropped (toString e)

/-! ## Dialogues -/

/-- What a session has open. -/
structure Session where
  connections : IO.Ref (Array TCP.Socket.Client)
  logJson : Bool

/-- A session that has nothing open. -/
def Session.new (logJson : Bool) : IO Session :=
  return ⟨← IO.mkRef #[], logJson⟩

/-- What an action gives, or why it failed. -/
def attempt {α : Type} (action : IO α) : IO (Except String α) :=
  try
    return .ok (← action)
  catch e => return .error (toString e)

/-- Does something with a connection. -/
def Session.withConnection (s : Session) (id : ConnectionId)
    (action : TCP.Socket.Client → IO Unit) : IO (Except String Unit) := do
  match (← s.connections.get)[id]? with
  | some socket => attempt (action socket)
  | none => return .error "not connected"

/-- Writes to the log of statements. -/
def Session.log (s : Session) (operation : Operation) (text : String) : IO Unit :=
  if s.logJson then
    IO.eprintln (Json.Value.object [("operation", .string operation.label),
      ("message", .string text)]).compact
  else IO.eprintln (operation.label ++ " " ++ text)

/-- Answers a call. -/
def Session.answer (s : Session) : (call : Call) → IO call.Reply
  | .request r => post r
  | .connect host port => attempt do
    let socket ← Program.connect host port
    let already ← s.connections.get
    s.connections.set (already.push socket)
    return already.size
  | .write id text => s.withConnection id fun socket => send socket (Utf8.encode text)
  | .close id => s.withConnection id fun socket => do
    -- a connection that the peer has reset is closed already
    try socket.shutdown.block catch _ => return ()
  | .log operation text => s.log operation text
  | .print line => IO.println line

/-- Carries out a dialogue. -/
def Session.perform {α : Type} (s : Session) : Dialogue α → IO α
  | .done a => return a
  | .perform call next => do
    let reply ← s.answer call
    s.perform (next reply)

/-! ## Loads -/

/-- The letters and digits that payloads are made of. -/
def payloadChars : Bytes :=
  Utf8.encode "ABCDEFGHIJKLMNOPQRSTUVWXYZabcdefghijklmnopqrstuvwxyz0123456789"

/-- Pseudo-random letters and digits that depend on a seed, the key and the field. -/
def payload (seed : UInt64) (length : Nat) : Payload := fun key field =>
  let start := mixHash seed (mixHash (hash key) (hash field))
  (List.range length).map fun i =>
    (payloadChars[(mixHash start (hash i)).toNat % payloadChars.length]?).getD 65

/-- A random seed. -/
def randomSeed : IO UInt64 := do
  let bytes ← IO.getRandomBytes 8
  return bytes.toList.foldl (fun n b => n * 256 + b.toUInt64) 0

/-- Runs all clients of a load at once. -/
def runLoad (l : Load) (config : ClientConfig) (logJson : Bool) : IO (Except Error RunSummary) := do
  match l.check with
  | .error e => return .error e
  | .ok () =>
    let started ← IO.monoMsNow
    let seed ← randomSeed
    let tasks ← (l.sessions config (payload seed l.fieldLength)).mapM fun d =>
      IO.asTask do (← Session.new logJson).perform d
    let clients ← tasks.mapM fun t => IO.ofExcept t.get
    return Load.report ((← IO.monoMsNow) - started) clients

/-! ## The setting -/

/-- What is wrong with a file that cannot be read. -/
def fileFault : IO.Error → FileFault
  | .noFileOrDirectory .. => .missing
  | .inappropriateType _ code _ => if code == 20 then .notDirectory else .isDirectory
  | .permissionDenied .. => .other "Permission denied (os error 13)"
  | e => .other (toString e)

/-- Reads a file. -/
def readFile (path : String) : IO (Except FileFault Bytes) :=
  try
    return .ok (← IO.FS.readBinFile path).toList
  catch e => return .error (fileFault e)

/-- The variables of the process. -/
def environment : IO Variables := do
  match ← readFile "/proc/self/environ" with
  | .error _ => return []
  | .ok bytes =>
    return (Text.piecesBy (· == 0) bytes).filterMap fun entry =>
      (Utf8.decodeChars? entry).bind (Text.splitAtFirst? ['=']) |>.map fun (name, value) =>
        (String.ofList name, String.ofList value)

/-- The file with variables in a directory or the nearest one above it that has such a file. The
directory is given by the names that lead to it, the last one first. -/
def findDotenv : List String → IO (Option Bytes)
  | [] => return none
  | name :: above => do
    match ← readFile ("/".intercalate ((".env" :: name :: above).reverse)) with
    | .ok bytes => return some bytes
    | .error _ => findDotenv above

/-- The setting of the process, in which the file of one path has been read. -/
def setting (path : String) : IO Setting := do
  let directory := ((toString (← IO.currentDir)).splitOn "/").reverse
  let content ← readFile path
  return { env := ← environment, dotenv := ← findDotenv directory, read := fun _ => content }

/-! ## Running -/

/-- Carries out a command. -/
def runCommand (i : Invocation) (config : ClientConfig) : IO (Except Error Unit) := do
  match i.command with
  | .load l =>
    match ← runLoad l config i.logJson with
    | .error e => return .error e
    | .ok summary =>
      IO.println summary.toJson.pretty
      return .ok ()
  | c => (← Session.new i.logJson).perform (c.run config (fun _ _ => []) 0 [])

/-- Carries out what the arguments ask for. -/
def run (i : Invocation) : IO (Except Error Unit) := do
  match i.config (← setting i.path) with
  | .error e => return .error e
  | .ok config => runCommand i config

end SqlppBench.Program

open SqlppBench in
/-- Carries out a command line, and gives the exit code. -/
def main (arguments : List String) : IO UInt32 := do
  match Invocation.ofArguments arguments with
  | .error f =>
    match f with
    | .version => IO.print Invocation.versionText
    | .help => IO.println f.message
    | .noArguments => IO.eprintln f.message
    | _ => IO.eprintln ("error: " ++ f.message)
    return f.exitCode.toUInt32
  | .ok i =>
    match ← Program.run i with
    | .ok () => return 0
    | .error e =>
      IO.eprintln (Invocation.errorLine e)
      return Invocation.failureCode.toUInt32
