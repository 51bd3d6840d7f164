import PatternRefinement.Program
import PatternRefinement.Service.Wire
import Std.Async.DNS
import Std.Async.System
import Std.Async.TCP

/-!
# The command

Runs the program with the files, the environment and the network of this machine.

## Main Definitions

* `observe`, `observeDirectory` — what the file system holds along a path
* `writeBack` — leaves in the file system what a run left behind
* `deliverRequest` — puts a request to the network
* `main` — the command

## Design Notes

A run is calculated from what is seen of the file system and from the replies that are known. If it
makes one more request, that is sent, and the run is calculated again with its reply. A run asks for
two things at most, and each of them can be redirected. Only then its files are written and its
messages printed.
-/

namespace PatternRefinement.Shell

open Std.Async (Async)

/-! ### Files -/

/-- The path of a location. -/
def pathOf (location : Location) : String :=
  "/" ++ "/".intercalate location

/-- What stands at a location of the file system. -/
def look (location : Location) : IO (Option Node) := do
  try
    let metadata ← (← IO.FS.realPath (pathOf location)).metadata
    match metadata.type with
    | .dir => return some .directory
    | .file => return some (.file (← IO.FS.readBinFile (pathOf location)))
    | _ => return none
  catch _ => return none

/-- A tree with what the file system holds at the end of a path and on the way there. -/
def observe (tree : FileTree) (path : String) : IO FileTree := do
  let mut tree := tree
  let mut location := if Path.isAbsolute path then [] else tree.workingDirectory
  for name in Path.names path do
    if name == ".." then location := location.dropLast
    else if name != "." then
      location := location ++ [name]
      if let some node ← look location then tree := tree.put location node
  return tree

/-- A tree with the names in a directory of the file system as well. What its files hold is not
looked at. -/
def observeDirectory (tree : FileTree) (path : String) : IO FileTree := do
  let mut tree ← observe tree path
  match tree.status path with
  | .ok (location, .directory) =>
    try
      for entry in ← (← IO.FS.realPath (pathOf location)).readDir do
        let inside := location ++ [entry.fileName]
        if (tree.node? inside).isNone then
          let node := if ← entry.path.isDir then .directory else .file ByteArray.empty
          tree := tree.put inside node
    catch _ => pure ()
  | _ => pure ()
  return tree

/-- Whether the same stands at two locations. -/
def isSame : Option Node → Option Node → Bool
  | some (.file a), some (.file b) => a.data == b.data
  | some .directory, some .directory => true
  | _, _ => false

/-- Leaves in the file system what differs between two trees. -/
def writeBack (before after : FileTree) : IO Unit := do
  for (location, node) in before.nodes do
    if (after.node? location).isNone then
      match node with
      | .file _ => IO.FS.removeFile (pathOf location)
      | .directory => IO.FS.removeDir (pathOf location)
  let changed := after.nodes.filter fun (location, node) =>
    !isSame (before.node? location) (some node)
  for (location, node) in changed.mergeSort (fun a b => a.1.length ≤ b.1.length) do
    match node with
    | .directory => IO.FS.createDirAll (pathOf location)
    | .file content => IO.FS.writeBinFile (pathOf location) content

/-! ### Surroundings -/

/-- The variables that the program looks at. -/
def variableNames : List String :=
  ["HOME", "XDG_DATA_HOME", "XDG_CONFIG_HOME", "APP__SERVER_URL", "COMPOSER_SERVER_URL",
    "COMPOSER_DOWNLOAD_DIR", "COMPOSER_STATE_PATH", "COMPOSER_PROJECT_NAME"]

/-- The environment of this process. -/
def readEnvironment : IO Environment := do
  let mut entries := []
  for name in variableNames do
    if let some value ← IO.getEnv name then entries := entries ++ [(name, value)]
  let accountHome? ←
    try pure ((← Std.Async.System.getCurrentUser).homeDir.map toString) catch _ => pure none
  return { entries, accountHome? }

/-- The files that a run can come to look at. -/
def readFiles (words : List String) (environment : Environment) : IO FileTree := do
  let here ← IO.currentDir
  let mut tree ← observe (FileTree.empty (Path.names here.toString)) here.toString
  tree ← observe tree Settings.usualFile
  if let some directory := environment.settingsDirectory? then
    tree ← observe tree (Path.join directory "user-dirs.dirs")
  if let .ok line := CommandLine.read words then
    if let some path := line.config? then tree ← observe tree path
    let surroundings := { environment, files := tree, network := fun _ _ => .unreachable }
    if let .ok settings := Program.settings line surroundings then
      tree ← observe tree settings.statePath
      tree ← observeDirectory tree settings.downloadDirectory
  return tree

/-! ### The network -/

/-- The addresses that a host has. -/
def addressesOf (host : Host) (port : UInt16) : Async (List Std.Net.SocketAddress) := do
  let withPort (address : Std.Net.IPAddr) : Std.Net.SocketAddress :=
    match address with
    | .v4 addr => .v4 { addr, port }
    | .v6 addr => .v6 { addr, port }
  match host with
  | .ipv4 _ => return ((Std.Net.IPv4Addr.ofString host.text).map (withPort <| .v4 ·)).toList
  | .ipv6 pieces =>
    return ((Std.Net.IPv6Addr.ofString (ipv6Text pieces)).map (withPort <| .v6 ·)).toList
  | .name text => return ((← Std.Async.DNS.getAddrInfo text (toString port)).toList.map withPort)

/-- A connection to the first of the addresses that takes one. -/
def connect? : List Std.Net.SocketAddress → Async (Option Std.Async.TCP.Socket.Client)
  | [] => return none
  | address :: others => do
    try
      let client ← Std.Async.TCP.Socket.Client.mk
      client.connect address
      return some client
    catch _ => connect? others

/-- All that comes over a connection until it ends. -/
partial def receiveAll (client : Std.Async.TCP.Socket.Client) (received : ByteArray) :
    Async ByteArray := do
  let next? ← try client.recv? 65536 catch _ => pure none
  match next? with
  | some next => receiveAll client (received ++ next)
  | none => return received

/-- Puts a request to the network. Nothing is sent over protected connections. -/
def deliverRequest (request : WebRequest) : Async Reply := do
  match request.address.authority? with
  | none => return .unreachable
  | some authority =>
    if request.address.scheme != "http" then return .unreachable
    let port := UInt16.ofNat (authority.port?.getD 80)
    let addresses ← try addressesOf authority.host port catch _ => pure []
    match ← connect? addresses with
    | none => return .unreachable
    | some client =>
      try
        client.send request.wireText.toUTF8
        return .ofWire (← receiveAll client ByteArray.empty)
      catch _ => return .dropped

/-- A run with the replies that are known, and with those to the requests that it makes beyond them,
of which there may be `further`. -/
def runWith (words : List String) (environment : Environment) (files : FileTree) :
    Nat → List Reply → IO Outcome
  | further, replies => do
    let network : Network := fun past _ => replies.getD past.length .unreachable
    let outcome := Program.run words { environment, files, network }
    match further, outcome.exchanges[replies.length]? with
    | further + 1, some exchange =>
      let reply ← (deliverRequest exchange.request).block
      runWith words environment files further (replies ++ [reply])
    | _, _ => return outcome

end PatternRefinement.Shell

open PatternRefinement PatternRefinement.Shell in
/-- Runs the program. -/
def main (words : List String) : IO UInt32 := do
  let environment ← readEnvironment
  let files ← readFiles words environment
  let outcome ← runWith words environment files (2 * (maxRedirects + 1)) []
  writeBack files outcome.files
  IO.print outcome.output
  IO.eprint outcome.errors
  return UInt32.ofNat outcome.exitCode
