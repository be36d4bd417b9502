import BootChain.FileSystem

/-!
What every host has installed: the directories of its root, its devices, and the programs that
scripts can count on.
-/

namespace BootChain.Installation

/-- The octets that the file of an installed program starts with. They are no text. -/
def signature : Bytes := [0x7F, 0x45, 0x4C, 0x46, 0x02, 0x01, 0x01, 0xFF]

/-- The file of an installed program. Nothing is known of it but the program's name, so that
    copies of the file are the same program. -/
def fileOf (program : String) : Bytes := signature ++ Utf8.encode program

/-- The program that a file holds, if it is that of an installed one. -/
def program? (content : Bytes) : Option String :=
  if signature.isPrefixOf content then Utf8.text? (content.drop signature.length) else none

/-- The installed programs. -/
def programs : List String :=
  ["[", "awk", "basename", "bash", "cat", "chmod", "cmp", "cp", "cut", "dash", "dirname", "echo",
    "egrep", "env", "expr", "false", "fgrep", "grep", "head", "id", "kill", "ln", "ls", "mawk",
    "mkdir", "mv", "nice", "nl", "nohup", "od", "paste", "printenv", "printf", "pwd", "readlink",
    "realpath", "rev", "rm", "rmdir", "sed", "seq", "setsid", "sh", "sha256sum", "sleep", "sort",
    "tac", "tail", "tee", "test", "timeout", "touch", "tr", "true", "uname", "uniq", "wc",
    "whoami", "xargs", "yes"]

/-- Where programs are looked for, in this order. -/
def searchPath : List Path :=
  ["/usr/local/sbin", "/usr/local/bin", "/usr/sbin", "/usr/bin", "/sbin", "/bin"].map Path.ofText

def placeOf (path : String) : Location :=
  (Path.segments (Utf8.encode path)).filter (· ≠ [])

def directories : List String :=
  ["/dev", "/etc", "/home", "/opt", "/proc", "/root", "/run", "/srv", "/sys", "/tmp", "/usr",
    "/usr/bin", "/usr/lib", "/usr/local", "/usr/local/bin", "/usr/local/sbin", "/usr/sbin", "/var"]

/-- The nodes of a host with nothing but its installation. -/
def nodes : List (Location × Node) :=
  directories.map (fun path => (placeOf path, Node.dir)) ++
  [(placeOf "/bin", .link (.ofText "usr/bin")), (placeOf "/sbin", .link (.ofText "usr/sbin")),
    (placeOf "/lib", .link (.ofText "usr/lib")), (placeOf "/dev/null", .device .null),
    (placeOf "/dev/zero", .device .zero), (placeOf "/dev/full", .device .full)] ++
  programs.map fun program => (placeOf ("/usr/bin/" ++ program), .file (fileOf program) 0o755)

/-- The files of a host with nothing but its installation. -/
def files : FileSystem := { nodes }

end BootChain.Installation
