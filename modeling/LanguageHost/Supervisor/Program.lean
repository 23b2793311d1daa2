import LanguageHost.Files.Tree

namespace LanguageHost

inductive Program where
  | basename
  | cat
  | dirname
  | echo
  | env
  | falsity
  | head
  | ls
  | printenv
  | printf
  | pwd
  | seq
  | sh
  | sleep
  | sort
  | tac
  | tail
  | truth
  | wc
  deriving DecidableEq

namespace Program

def name : Program → String
  | basename => "basename"
  | cat => "cat"
  | dirname => "dirname"
  | echo => "echo"
  | env => "env"
  | falsity => "false"
  | head => "head"
  | ls => "ls"
  | printenv => "printenv"
  | printf => "printf"
  | pwd => "pwd"
  | seq => "seq"
  | sh => "sh"
  | sleep => "sleep"
  | sort => "sort"
  | tac => "tac"
  | tail => "tail"
  | truth => "true"
  | wc => "wc"

def all : List Program :=
  [basename, cat, dirname, echo, env, falsity, head, ls, printenv, printf, pwd, seq, sh, sleep,
    sort, tac, tail, truth, wc]

def ofName? (s : String) : Option Program := all.find? (·.name = s)

end Program

namespace Supervisor

def binaryDirectories : List (List String) := [["usr", "bin"], ["bin"]]

def systemDirectories : List (List String) :=
  [["bin"], ["boot"], ["dev"], ["etc"], ["home"], ["lib"], ["media"], ["mnt"], ["opt"], ["proc"],
    ["root"], ["run"], ["sbin"], ["srv"], ["sys"], ["tmp"], ["usr"], ["usr", "bin"], ["var"]]

def systemTree : FileTree :=
  let binaries := binaryDirectories.flatMap fun dir =>
    Program.all.map fun p => (dir ++ [p.name], FileEntry.special)
  { entries := systemDirectories.map (·, .directory)
      ++ [(["dev", "null"], .special),
        (["etc", "hosts"], .file (Utf8.encodeString "127.0.0.1\tlocalhost\n")),
        (["etc", "passwd"], .file (Utf8.encodeString "root:x:0:0:root:/root:/bin/bash\n"))]
      ++ binaries
    working := [] }

def defaultSearchPath : String := "/usr/local/sbin:/usr/local/bin:/usr/sbin:/usr/bin:/sbin:/bin"

def programAt (t : FileTree) (path : FilePath) : Except FileFault Program :=
  match t.lookup path with
  | .error fault => .error fault
  | .ok (names, _) =>
    match binaryDirectories.contains names.dropLast, names.getLast?.bind Program.ofName? with
    | true, some p => .ok p
    | _, _ => .error .permissionDenied

def search (t : FileTree) (program : String) : List FilePath → Except FileFault Program
  | [] => .error .notFound
  | dir :: rest =>
    match programAt t (dir.join ⟨program⟩) with
    | .ok p => .ok p
    | .error .nameTooLong => .error .nameTooLong
    | .error .permissionDenied =>
      match search t program rest with
      | .ok p => .ok p
      | .error _ => .error .permissionDenied
    | .error _ => search t program rest

def searchPath (env : List (String × String)) : List FilePath :=
  let path := ((env.find? (·.1 = "PATH")).map Prod.snd).getD defaultSearchPath
  (path.splitOn ":").map FilePath.mk

def findProgram (t : FileTree) (env : List (String × String)) (program : String) :
    Except FileFault Program :=
  if program.toList.contains '/' then programAt t ⟨program⟩
  else search t program (searchPath env)

end Supervisor

end LanguageHost
