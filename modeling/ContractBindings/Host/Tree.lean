import ContractBindings.Disk.Basic
import ContractBindings.Text.Utf8

/-!
# The tree of the host

What stands on a disk before anybody uses it: the directories of the system, the devices, and a file
for each program. A program is known by what its file holds, so that a copy of the file is the same
program.
-/

namespace ContractBindings.Host

open Disk (Node)

/-- What the file of a program begins with. -/
def programMark : List UInt8 := [0x7f, 0x45, 0x4c, 0x46]

/-- The file of a program. -/
def programFile (name : String) : Node :=
  .file (programMark.toByteArray ++ Text.toBytes name) { mode := 0o755 }

/-- The name of the program that a file holds. -/
def programIn? (bytes : ByteArray) : Option String :=
  if (bytes.extract 0 4).toList = programMark then Text.ofBytes? (bytes.extract 4 bytes.size)
  else none

/-- A directory with entries in any order. -/
def directory (entries : List (String × Node)) : Node := .dir (Node.sorted entries)

/-- An empty directory. -/
def vacant (name : String) : String × Node := (name, .dir [])

/-- The devices. -/
def devices : Node :=
  directory [
    ("null", .device .null), ("zero", .device .zero), ("full", .device .full),
    ("random", .device .zero), ("urandom", .device .zero), ("tty", .device .terminal),
    ("stdin", .device (.stream 0)), ("stdout", .device (.stream 1)),
    ("stderr", .device (.stream 2)), vacant "shm", vacant "pts",
    ("fd", directory ((List.range 10).map fun n => (toString n, .device (.stream n))))]

/-- A small file of the system. -/
def textFile (text : String) : Node := .file (Text.toBytes text)

/-- The root of a system with programs. -/
def root (programs : List String) : Node :=
  directory [
    ("bin", .link "usr/bin"), ("sbin", .link "usr/sbin"), ("lib", .link "usr/lib"),
    ("lib64", .link "usr/lib64"), vacant "boot", ("dev", devices),
    ("etc", directory [
      ("group", textFile "root:x:0:\n"), ("hostname", textFile "localhost\n"),
      ("passwd", textFile "root:x:0:0:root:/root:/bin/bash\n")]),
    vacant "home", vacant "media", vacant "mnt", vacant "opt",
    ("proc", .sealed .notFound .notFound), vacant "root", vacant "run", vacant "srv",
    ("sys", .sealed .notPermitted .permissionDenied), vacant "tmp",
    ("usr", directory [
      ("bin", directory (programs.map fun name => (name, programFile name))),
      vacant "include", vacant "lib", vacant "lib64",
      ("local", directory [vacant "bin", vacant "etc", vacant "lib", vacant "sbin",
        vacant "share", vacant "src"]),
      vacant "sbin", vacant "share", vacant "src"]),
    ("var", directory [vacant "cache", vacant "lib", vacant "log", ("run", .link "/run"),
      vacant "tmp"])]

end ContractBindings.Host
