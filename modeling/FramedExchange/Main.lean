import FramedExchange.Configuration
import FramedExchange.Connection
import FramedExchange.Startup

/-!
# The program

The program serves one connection on its standard streams, in the way of a server that is started
anew for each stream by another one that listens. The configuration decides which of two small sets
of handlers it offers. What it has to say about itself goes to the standard error stream.
-/

namespace FramedExchange

namespace Program

/-- The handlers that are offered by path. -/
def pathHandlers : PathRegistry :=
  Registry.empty.register "/echo" PathHandler.echo
    |>.register "/ping" (PathHandler.const (Bytes.ofString "pong"))
    |>.register "/error" PathHandler.failWithRequest

/-- The handlers that are offered by code. -/
def codeHandlers : CodeRegistry :=
  CodeRegistry.registerCode 2 (CodeHandler.const (Bytes.ofString "pong"))
    (CodeRegistry.registerCode 1 CodeHandler.echo Registry.empty)

/-- The handlers of a convention. -/
def dispatcherOf : Convention → Dispatcher
  | .path => .byPath pathHandlers
  | .code => .byCode codeHandlers

/-- What the program answers when it is asked for help. -/
def usage : String :=
  "Usage: framed-exchange [OPTIONS]\n" ++
    String.join (CommandLine.names.map fun (_, name, letter?) ↦
    let letter := match letter? with
      | some letter => String.ofList ['-', letter, ',', ' ']
      | none => "    "
    "  " ++ letter ++ "--" ++ name ++ "\n")

/-- What the program answers when it is asked for its version. -/
def version : String := "framed-exchange 0.1.0\n"

/-- The wording of a log entry. -/
def logLine : LogEntry → String
  | .panicked panic => "panic: " ++ panic.message
  | .handlerPanicked connection convention code panic =>
    "handler panicked: connection " ++ connection ++ ", convention " ++ convention.name ++
      ", code " ++ code.toNat.repr ++ ", " ++ panic.message

/-- The failure of a file operation as an error of a stream. -/
def streamErrorOf (error : IO.Error) : IoError :=
  match error with
  | .noFileOrDirectory .. => ⟨.notFound, toString error⟩
  | .permissionDenied .. => ⟨.permissionDenied, toString error⟩
  | _ => ⟨.other, toString error⟩

/-- The contents of the settings file, if the command line names one. -/
def contentsOf (line : CommandLine) : IO (String → Except IoError Bytes) := do
  match line.file? with
  | none => return fun _ ↦ .error (streamErrorOf (.userError "no settings file"))
  | some path =>
    try
      let contents ← IO.FS.readBinFile path
      return fun _ ↦ .ok contents.toList
    catch error => return fun _ ↦ .error (streamErrorOf error)

/-- Serve a connection on two streams until it is closed. No more is read at once than the next
request needs, because reading waits for all of it. -/
partial def serve (start : Nat) (input output : IO.FS.Stream) (phase : Phase) (since : Time)
    (connection : Connection) (server : Server) : IO Unit := do
  let wanted := Frame.missing connection.link.reader.unread
  let chunk ← input.read (USize.ofNat (max 1 wanted))
  let now := (← IO.monoMsNow) - start
  let connection := connection.deliver now chunk.toList chunk.isEmpty
  let (progress, connection, server) :=
    connection.runUntil now connection.phaseBound phase since server
  let (bytes, _, connection) := connection.collect
  output.write ⟨bytes.toArray⟩
  output.flush
  let errors ← IO.getStderr
  for entry in server.log do
    errors.putStrLn (logLine entry)
  match progress with
  | some (phase, since) => serve start input output phase since connection { server with log := [] }
  | none => return

/-- Serve the standard streams as configured. The result is the exit code, as of a program that
panics if the server cannot be made. -/
def run (configuration : Configuration) : IO UInt32 := do
  match Server.launch configuration.serverSettings (dispatcherOf configuration.convention) with
  | .error panic => do
    (← IO.getStderr).putStrLn (logLine (.panicked panic))
    return 101
  | .ok (server, _) => do
    let (connection, server) := server.openConnection "stdio" Source.silent Sink.eager
    serve (← IO.monoMsNow) (← IO.getStdin) (← IO.getStdout) .idle 0 connection server
    return 0

end Program

end FramedExchange

open FramedExchange

/-- Configure the program by its command line and run it. -/
def main (arguments : List String) : IO UInt32 := do
  let errors ← IO.getStderr
  match CommandLine.read arguments with
  | .error .help => do
    IO.print Program.usage
    return 0
  | .error .version => do
    IO.print Program.version
    return 0
  | .error stop => do
    errors.putStrLn ("error: " ++ stop.message)
    return 2
  | .ok line => do
    match Configuration.resolve (← Program.contentsOf line) line with
    | .error error => do
      errors.putStrLn ("error: " ++ error.message)
      return 1
    | .ok configuration => Program.run configuration
