import PackageMarket.Launch.Launch

set_option autoImplicit false

/-! The program itself: the real file system, the environment, and the command line. -/

namespace PackageMarket

open Files

def succeeds (action : IO Unit) : IO Bool :=
  try
    action
    return true
  catch _ => return false

def machineFiles : Access IO where
  isPresent p := succeeds do
    let _ ← IO.FS.realPath (String.ofList p)
  read p :=
    try
      return some (← IO.FS.readBinFile (String.ofList p))
    catch _ => return none
  write p c := succeeds (IO.FS.writeBinFile (String.ofList p) c)
  append p c := succeeds do
    let h ← IO.FS.Handle.mk (String.ofList p) .append
    h.write c
  makeDirectories p := if p.isEmpty then return true
    else succeeds (IO.FS.createDirAll (String.ofList p))

end PackageMarket

def main (arguments : List String) : IO UInt32 := do
  let home := (← IO.getEnv "HOME").getD "."
  let world : PackageMarket.Launch.World IO :=
    { files := PackageMarket.machineFiles
      home := home.toList
      filter := ← IO.getEnv "RUST_LOG"
      now := toString (← IO.monoMsNow) }
  let ending := (← PackageMarket.Launch.run world arguments).ending
  (← IO.getStdout).putStr ending.output
  (← IO.getStderr).putStr ending.errors
  return ending.code.toUInt32
