import M68HC05.Session

/-!
The runner as a program: a session on the file system, its output on the standard output and its
log on the standard error. It ends with 0, with 1 after a failed session and with 2 for a command
line that it does not accept.
-/

namespace M68HC05

/-- The text and number of an error that a file operation reports. -/
def FileFault.ofError : IO.Error → FileFault
  | .alreadyExists _ code text => ⟨text, some code.toNat⟩
  | .otherError code text => ⟨text, some code.toNat⟩
  | .resourceBusy code text => ⟨text, some code.toNat⟩
  | .resourceVanished code text => ⟨text, some code.toNat⟩
  | .unsupportedOperation code text => ⟨text, some code.toNat⟩
  | .hardwareFault code text => ⟨text, some code.toNat⟩
  | .unsatisfiedConstraints code text => ⟨text, some code.toNat⟩
  | .illegalOperation code text => ⟨text, some code.toNat⟩
  | .protocolError code text => ⟨text, some code.toNat⟩
  | .timeExpired code text => ⟨text, some code.toNat⟩
  | .interrupted _ code text => ⟨text, some code.toNat⟩
  | .noFileOrDirectory _ code text => ⟨text, some code.toNat⟩
  | .invalidArgument _ code text => ⟨text, some code.toNat⟩
  | .permissionDenied _ code text => ⟨text, some code.toNat⟩
  | .resourceExhausted _ code text => ⟨text, some code.toNat⟩
  | .inappropriateType _ code text => ⟨text, some code.toNat⟩
  | .noSuchThing _ code text => ⟨text, some code.toNat⟩
  | .unexpectedEof => ⟨"unexpected end of file", none⟩
  | .userError text => ⟨text, none⟩

instance : Storage IO where
  readFile path := do
    try
      return .ok (← IO.FS.readBinFile path).toList
    catch error =>
      return .error (.ofError error)
  writeFile path bytes := do
    try
      IO.FS.writeBinFile path (ByteArray.mk bytes.toArray)
      return .ok ()
    catch error =>
      return .error (.ofError error)

/-- Runs a session on the file system. -/
def runSession (options : CommandLine.Options) : IO UInt32 := do
  let transcript ← Session.run options
  for line in transcript.log do
    IO.eprint line.render
  IO.print transcript.output
  return if transcript.failed then 1 else 0

end M68HC05

open M68HC05 in
def main (arguments : List String) : IO UInt32 := do
  match CommandLine.parse arguments with
  | .ok (.run options) => runSession options
  | .ok .help =>
    IO.print CommandLine.helpText
    return 0
  | .ok .version =>
    IO.print CommandLine.versionText
    return 0
  | .error fault =>
    IO.eprintln ("error: " ++ fault.message)
    return 2
