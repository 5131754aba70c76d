/-!
The programs of a machine by their names.
-/

namespace ServiceStack

/-- A program that a machine can run. -/
inductive Tool where
  | echo | printf | sleep | yes
  /-- `test`, or `[` if it wants a closing bracket -/
  | test (bracket : Bool)
  | cat | head | tail | wc | tac | rev | tee | tr
  | sort | uniq | comm | join | tsort
  | cut | paste | fold | expand | unexpand | nl
  | grep | sed | awk
  | seq | factor | expr | basename | dirname | readlink | realpath | pwd
  | date | stat
  /-- tells digests of a kind -/
  | digest (kind : String)
  | cksum | sum
  | od
  | base32 | base64 | basenc
  | kill | cmp | diff | numfmt
  /-- lists files, with some letters before its options -/
  | ls (letters : String)
  | mkdir | touch | truncate | mktemp | chmod | ln | link
  | rm | rmdir | unlink | cp | mv
  | dd | find | fmt | shuf
  | which | getconf | nproc | pathchk | mountpoint
  | id | whoami | logname | users | groups | uname | tty | printenv
  /-- tells a word and a line break -/
  | told (text : String)
  | env | nice | nohup | stdbuf | setsid | timeout | xargs
  | ionice | chrt | taskset | choom | setpriv | unshare | flock
  /-- named for a kind of machine, or told one -/
  | setarch (named : Bool)
  /-- a shell, which may speak the rich dialect -/
  | shell (rich : Bool)
  /-- does nothing and ends with a code -/
  | constant (code : Nat)
deriving DecidableEq, Repr

namespace Tool

/-- Programs that are only there: none finds anything to do in the words of a service, and each ends
with the code that stands before it. -/
def idle : List (Nat × List String) := [
  (1, ["chcon", "chgrp", "chown", "clear", "csplit", "df", "du", "gunzip",
    "gzip", "hostid", "install", "ldd", "lscpu", "mkfifo", "mknod", "pr", "ps", "ptx", "reset",
    "shred", "split", "stty", "tabs", "uptime", "zcat"]),
  (2, ["perl", "python3", "sdiff", "tar"]),
  (255, ["dnsdomainname", "domainname", "hostname"])]

/-- The programs that every machine has. -/
def common : List (String × Tool) := [
  ("true", constant 0), ("false", constant 1), ("echo", echo), ("printf", printf),
  ("sleep", sleep), ("yes", yes), ("test", test false), ("[", test true), ("cat", cat),
  ("head", head), ("tail", tail), ("wc", wc), ("sort", sort), ("uniq", uniq), ("tac", tac),
  ("comm", comm), ("join", join), ("tsort", tsort), ("paste", paste), ("fold", fold),
  ("expand", expand), ("unexpand", unexpand), ("nl", nl), ("realpath", realpath),
  ("logname", logname), ("users", users), ("groups", groups),
  ("rev", rev), ("tee", tee), ("tr", tr), ("cut", cut), ("grep", grep), ("sed", sed),
  ("awk", awk), ("mawk", awk),
  ("seq", seq), ("factor", factor), ("expr", expr), ("basename", basename),
  ("dirname", dirname), ("id", id), ("date", date), ("stat", stat),
  ("whoami", whoami), ("uname", uname), ("printenv", printenv), ("readlink", readlink),
  ("tty", tty), ("pwd", pwd), ("env", env), ("nice", nice), ("nohup", nohup), ("stdbuf", stdbuf),
  ("setsid", setsid), ("timeout", timeout), ("xargs", xargs), ("dash", shell false),
  ("bash", shell true), ("arch", told "x86_64"), ("cksum", cksum), ("sum", sum), ("od", od),
  ("base32", base32), ("base64", base64), ("basenc", basenc), ("kill", kill), ("cmp", cmp),
  ("diff", diff), ("numfmt", numfmt), ("dd", dd), ("find", find), ("fmt", fmt),
  ("shuf", shuf), ("which", which), ("getconf", getconf), ("nproc", nproc),
  ("pathchk", pathchk), ("mountpoint", mountpoint), ("ionice", ionice), ("chrt", chrt),
  ("taskset", taskset), ("choom", choom), ("setpriv", setpriv), ("unshare", unshare),
  ("flock", flock), ("setarch", setarch false), ("linux64", setarch true),
  ("who", users), ("sync", constant 0), ("pidof", constant 1), ("ls", ls ""),
  ("dir", ls "Cb"), ("vdir", ls "lb"), ("mkdir", mkdir), ("touch", touch),
  ("truncate", truncate),
  ("mktemp", mktemp), ("chmod", chmod), ("ln", ln), ("link", link), ("rm", rm), ("rmdir", rmdir),
  ("unlink", unlink), ("cp", cp), ("mv", mv),
  ("md5sum", digest "md5"), ("b2sum", digest "blake2b")] ++
  (["1", "224", "256", "384", "512"].map fun n => ("sha" ++ n ++ "sum", digest ("sha" ++ n))) ++
  idle.flatMap fun g => g.2.map (·, constant g.1)

end Tool

end ServiceStack
