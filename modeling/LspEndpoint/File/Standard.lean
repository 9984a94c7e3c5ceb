import LspEndpoint.File.Open

/-!
The files that every system has: its directories, devices and programs, and a working directory.
-/
namespace LspEndpoint.File

/-- The directories below the root. -/
def standardDirectories : List String :=
  ["boot", "dev", "dev/pts", "dev/shm", "etc", "home", "media", "mnt", "opt", "proc", "root", "run",
   "srv", "sys", "tmp", "usr", "usr/bin", "usr/games", "usr/include", "usr/lib", "usr/lib64",
   "usr/libexec", "usr/local", "usr/local/bin", "usr/local/etc", "usr/local/include",
   "usr/local/lib", "usr/local/sbin", "usr/local/share", "usr/sbin", "usr/share", "usr/src", "var",
   "var/cache", "var/lib", "var/log", "var/mail", "var/opt", "var/spool", "var/tmp"]

def standardLinks : List (String × String) :=
  [("bin", "usr/bin"), ("lib", "usr/lib"), ("lib64", "usr/lib64"), ("sbin", "usr/sbin")]

def standardDevices : List (String × Device) :=
  [("dev/null", .null), ("dev/zero", .zero), ("dev/full", .full), ("dev/tty", .terminal)]

def standardFiles : List (String × String) :=
  [("etc/passwd", "root:x:0:0:root:/root:/bin/bash\ndaemon:x:1:1:daemon:/usr/sbin:/usr/sbin/nologin\n" ++
      "bin:x:2:2:bin:/bin:/usr/sbin/nologin\nsys:x:3:3:sys:/dev:/usr/sbin/nologin\n" ++
      "sync:x:4:65534:sync:/bin:/bin/sync\ngames:x:5:60:games:/usr/games:/usr/sbin/nologin\n" ++
      "man:x:6:12:man:/var/cache/man:/usr/sbin/nologin\nlp:x:7:7:lp:/var/spool/lpd:/usr/sbin/nologin\n" ++
      "mail:x:8:8:mail:/var/mail:/usr/sbin/nologin\nnews:x:9:9:news:/var/spool/news:/usr/sbin/nologin\n" ++
      "nobody:x:65534:65534:nobody:/nonexistent:/usr/sbin/nologin\n"),
   ("etc/group", "root:x:0:\n"), ("etc/shells", "# /etc/shells: valid login shells\n/bin/sh\n"),
   ("etc/hostname", "localhost\n")]

/-- The names of the programs. -/
def standardPrograms : List String :=
  ["[", "arch", "awk", "b2sum", "base32", "base64", "basename", "bash", "cat", "chgrp", "chmod",
   "chown", "cksum", "cmp", "comm", "cp", "csplit", "cut", "dash", "date", "dd", "df", "diff", "dir",
   "dirname", "du", "echo", "egrep", "env", "expand", "expr", "factor", "false", "fgrep", "find",
   "fmt", "fold", "getconf", "grep", "groups", "gzip", "head", "hostid", "hostname", "id", "install",
   "join", "kill", "link", "ln", "logname", "ls", "md5sum", "mkdir", "mkfifo", "mknod", "mktemp",
   "mv", "nice", "nl", "nohup", "nproc", "numfmt", "od", "paste", "pathchk", "perl", "pr",
   "printenv", "printf", "ptx", "pwd", "readlink", "realpath", "rm", "rmdir", "sed", "seq", "sh",
   "sha1sum", "sha256sum", "shred", "shuf", "sleep", "sort", "split", "stat", "stdbuf", "stty",
   "sum", "sync", "tac", "tail", "tar", "tee", "test", "timeout", "touch", "tr", "true", "truncate",
   "tsort", "tty", "uname", "unexpand", "uniq", "unlink", "users", "vdir", "wc", "who", "whoami",
   "xargs", "yes"]

def placeOf (path : String) : Place := steps (Text.ofString path)

/-- The working directory. -/
def workingPlace : Place := placeOf "tmp/work"

def standardSystem : System where
  entries :=
    (workingPlace, .directory) ::
    standardDirectories.map (fun d => (placeOf d, .directory)) ++
    standardLinks.map (fun l => (placeOf l.1, .link (placeOf l.2))) ++
    standardDevices.map (fun d => (placeOf d.1, .device d.2)) ++
    standardFiles.map (fun f => (placeOf f.1, .file (Text.ofString f.2))) ++
    standardPrograms.map fun p => (placeOf "usr/bin" ++ [Text.ofString p], .program (Text.ofString p))
  here := workingPlace

/-- The system with one more file, if there can be a file at that path. -/
def systemWith (path content : Text) (s : System) : System :=
  match openToAdd s path with
  | .ok (s, place) => (s.write place none content).toOption.getD s
  | .error _ => s

/-- A system with these files, whose paths start from its working directory. -/
def systemOf (files : List (Text × Text)) : System :=
  files.foldl (fun s f => systemWith f.1 f.2.octets s) standardSystem

end LspEndpoint.File
