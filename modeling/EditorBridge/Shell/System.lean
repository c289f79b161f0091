import EditorBridge.Machine.Tree
import EditorBridge.Decimal.Digits

/-!
# The system's own files

The file tree of a machine before anything is put on it: the usual directories, the system programs
and the devices.
-/

namespace EditorBridge.Tree

/-- The system programs. -/
def programNames : List String :=
  ["sh", "dash", "cat", "rm", "mkdir", "sleep", "echo", "printf", "true", "false", "env", "pwd"]

/-- The usual directories. -/
def usualDirectories : List Place :=
  [["etc"], ["home"], ["media"], ["mnt"], ["opt"], ["proc", "self"], ["root"], ["run", "lock"],
    ["srv"], ["sys"], ["tmp"], ["usr", "bin"], ["usr", "games"], ["usr", "include"],
    ["usr", "lib"], ["usr", "lib64"], ["usr", "libexec"], ["usr", "local", "bin"],
    ["usr", "local", "etc"], ["usr", "local", "games"], ["usr", "local", "include"],
    ["usr", "local", "lib"], ["usr", "local", "sbin"], ["usr", "local", "share"],
    ["usr", "local", "src"], ["usr", "sbin"], ["usr", "share"], ["usr", "src"],
    ["var", "backups"], ["var", "cache"], ["var", "lib"], ["var", "local"], ["var", "log"],
    ["var", "mail"], ["var", "opt"], ["var", "spool"], ["var", "tmp"], ["dev", "shm"]]

/-- The links between the usual directories. -/
def usualLinks : List (Place × String) :=
  [(["bin"], "usr/bin"), (["lib"], "usr/lib"), (["lib64"], "usr/lib64"), (["sbin"], "usr/sbin"),
    (["var", "run"], "/run"), (["var", "lock"], "/run/lock"), (["dev", "fd"], "/proc/self/fd"),
    (["dev", "stdin"], "/proc/self/fd/0"), (["dev", "stdout"], "/proc/self/fd/1"),
    (["dev", "stderr"], "/proc/self/fd/2")]

/-- The devices. -/
def usualDevices : List (Place × Device) :=
  [(["dev", "null"], .sink), (["dev", "zero"], .zeroes), (["dev", "full"], .full),
    (["dev", "tty"], .terminal)] ++
    (List.range 10).map fun number =>
      (["proc", "self", "fd", Decimal.natText number], .descriptor number)

/-- The files that say who uses the machine. -/
def usualFiles : List (Place × String) :=
  [(["etc", "passwd"], "root:x:0:0:root:/root:/bin/bash\n"), (["etc", "group"], "root:x:0:\n"),
    (["etc", "hosts"], "127.0.0.1\tlocalhost\n")]

/-- A tree with nothing but what belongs to the system. -/
def system : Tree :=
  let directories : List (Place × Node) := usualDirectories.map fun place => (place, .directory)
  let links : List (Place × Node) :=
    usualLinks.map fun (place, target) => (place, .link ⟨target⟩)
  let devices : List (Place × Node) :=
    usualDevices.map fun (place, device) => (place, .device device)
  let files : List (Place × Node) :=
    usualFiles.map fun (place, text) => (place, .file (Text.encode text) false)
  let programs : List (Place × Node) :=
    programNames.map fun name => (["usr", "bin", name], .program name)
  (directories ++ links ++ devices ++ files ++ programs).foldl
    (fun tree (place, node) => tree.plant place node) ⟨[]⟩

end EditorBridge.Tree
