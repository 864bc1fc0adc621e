import KeyGadget.Cli.Program

/-!
# The program on a real machine

The files, the clock and the streams of the machine that the program runs on.
-/
namespace KeyGadget.Cli.Real

/-- The number of a system error, which may be given below zero. -/
def errorNumber (code : UInt32) : UInt32 :=
  if code < 0x80000000 then code else 0 - code

/-- What the system reports about a file, by the number of the error where it has a meaning here. -/
def numbered (code : UInt32) (details : String) : FileError :=
  match (errorNumber code).toNat with
  | 2 => .missing
  | 17 => .exists
  | 20 => .notDirectory
  | 21 => .isDirectory
  | 28 => .noSpace
  | 36 => .nameTooLong
  | number => .other (details ++ " (os error " ++ Nat.repr number ++ ")")

def fileError : IO.Error → FileError
  | .noFileOrDirectory .. => .missing
  | .alreadyExists .. => .exists
  | .inappropriateType _ code details => numbered code details
  | .resourceExhausted _ code details => numbered code details
  | .invalidArgument _ code details => numbered code details
  | .permissionDenied _ code details => numbered code details
  | error => .other (toString error)

/-- What comes of an action, with what the system reports as a value. -/
def attempt {α : Type} (action : IO α) : IO (Except FileError α) := do
  try return .ok (← action)
  catch error => return .error (fileError error)

def isFile (path : String) : IO Bool := do
  try return (← (System.mkFilePath [path]).metadata).type == IO.FS.FileType.file
  catch _ => return false

def members (path : String) : IO (List Member) := do
  let entries ← (System.mkFilePath [path]).readDir
  entries.toList.mapM fun entry => do
    let data ← entry.path.metadata
    return ⟨entry.fileName, data.type == IO.FS.FileType.file, data.byteSize.toNat⟩

def files : Files IO where
  isFile := isFile
  read path := attempt (IO.FS.readBinFile path)
  write path content := attempt (IO.FS.writeBinFile path content)
  remove path := attempt (IO.FS.removeFile path)
  makeDirectories path := attempt (IO.FS.createDirAll path)
  list path := attempt (members path)

/-- Why a device cannot be opened. -/
def openingError (path : String) : IO.Error → DeviceError
  | .noFileOrDirectory .. => .unavailable path
  | .permissionDenied .. => .permissionDenied path
  | error => .writeFailed (fileError error).message

def writeReport (device : IO.FS.Handle) (report : Report) : IO (Except DeviceError Unit) := do
  try
    device.write report.bytes.toList.toByteArray
    device.flush
    return .ok ()
  catch error => return .error (.writeFailed (fileError error).message)

/-- Opens a device for reading and writing. -/
def attach (path : String) : IO (Except DeviceError (Report → IO (Except DeviceError Unit))) := do
  try
    let device ← IO.FS.Handle.mk path IO.FS.Mode.readWrite
    return .ok (writeReport device)
  catch error => return .error (openingError path error)

/-- Waits for some milliseconds, in parts if they are many. -/
partial def wait (ms : Nat) : IO Unit := do
  let part := min ms 1000000
  IO.sleep part.toUInt32
  if part < ms then wait (ms - part)

/-- The bytes of the next line of a stream, with its end. -/
partial def lineBytes (input : IO.FS.Stream) (bytes : ByteArray) : IO ByteArray := do
  let more ← input.read 1
  if more.isEmpty then return bytes
  else if more.toList == [0x0A] then return bytes ++ more
  else lineBytes input (bytes ++ more)

def readLine : IO (Except FileError (Option String)) := do
  match ← attempt (do lineBytes (← IO.getStdin) ByteArray.empty) with
  | .error error => return .error error
  | .ok bytes => return if bytes.isEmpty then .ok none else (decodeText bytes).map some

/-- Reads the input to its end. -/
partial def drain (input : IO.FS.Stream) (bytes : ByteArray) : IO ByteArray := do
  let more ← input.read 4096
  if more.isEmpty then return bytes else drain input (bytes ++ more)

def readRest : IO (Except FileError String) := do
  match ← attempt (do drain (← IO.getStdin) ByteArray.empty) with
  | .ok bytes => return decodeText bytes
  | .error error => return .error error

/-- Writes to a stream, and makes sure that it is seen. -/
def put (stream : IO.FS.Stream) (text : String) : IO Unit := do
  stream.putStr text
  stream.flush

/-- Repeats a step until it gives a result. -/
partial def iterate (step : IO (Option (Except Failure Unit))) : IO (Except Failure Unit) := do
  match ← step with
  | some result => return result
  | none => iterate step

/-- The machine with a flag. Nothing but the program itself changes the flag. -/
def machine (flag : IO.Ref Bool) : Machine IO where
  files := files
  toml := Toml.parse
  render := Json.pretty
  attach := attach
  sleep := wait
  running := flag.get
  resume := flag.set true
  readLine := readLine
  readRest := readRest
  print text := do put (← IO.getStdout) text
  printError text := do put (← IO.getStderr) text
  iterate := iterate

end KeyGadget.Cli.Real

/-- Runs the program with the arguments and the environment of the process. -/
def main (arguments : List String) : IO UInt32 := do
  let environment : KeyGadget.Cli.Environment :=
    ⟨← IO.getEnv "PICYCLE_CONFIG", ← IO.getEnv "PICYCLE_DEVICE"⟩
  let flag ← IO.mkRef true
  let code ← KeyGadget.Cli.run (KeyGadget.Cli.Real.machine flag) environment arguments
  return code.toUInt32
