import NameTables.Script.Schedule
import NameTables.Tool.Basic
import NameTables.Tool.Wait

/-!
# Scripts as tools

A machine whose programs are scripts.  A call of one of them is carried out at once, and the time
it takes decides whether it has ended when it is asked.

To the rest a tool is any function of a call and the files (`Tools`), and all that is stated and proved
holds of any such functions.  What is in `NameTables.Script` is one of them, to try the whole out
with: nothing outside of it depends on it, and no theorem is about it.

## Main definitions

* `Machine` — where programs are looked for.
* `Machine.tools` — the programs of the machine.
* `systemFiles` — the files that every machine has.
-/

namespace NameTables.Script

/-- A machine. -/
structure Machine where
  /-- The directories in which programs are looked for, with colons between them. -/
  search : Text

namespace Machine

/-- A machine that looks for programs where an ordinary system has them. -/
def ordinary : Machine := ⟨ordinarySearch⟩

/-- The time for which a call is watched: its limit, rounded up to the next question. -/
def watchTime (limit : Duration) : Nat :=
  (limit.nanoseconds + pause.nanoseconds - 1) / pause.nanoseconds * pause.nanoseconds

/-- The number of the process of a call. -/
def firstNumber : Nat := 4242

/-- What is there when the program of a call begins: nothing to read, and two texts that are
collected. -/
def sceneFor (fs : Files) : Scene where
  files := fs
  collected := [[], []]
  opened := [(1, .toRead (.device .sink)), (2, .toWrite (.collected 0) false),
    (3, .toWrite (.collected 1) false)]
  pipes := []
  latestOpened := 3
  running := [(firstNumber, [1, 2, 3])]
  ended := []
  killed := []
  sent := []
  latest := firstNumber

/-- The shell that the program of a call begins with. -/
def shell (m : Machine) (call : Call) (fs : Files) : Shell where
  toScene := sceneFor fs
  number := firstNumber
  root := firstNumber
  parent := firstNumber - 1
  starter := firstNumber - 1
  epoch := fs.now
  clock := Shell.startTime
  limit := watchTime call.limit
  horizon := none
  flow := .go
  name := octets call.program.text
  speaker := none
  line := 1
  lineRead := 1
  directory := octets fs.herePath.text
  args := []
  status := 0
  bindings := [("PATH".toList, octets m.search)]
  exported := ["PATH".toList]
  fixed := []
  functions := []
  aliases := []
  known := []
  locals := none
  options := []
  optionAt := (1, 0)
  mask := 0o022
  guarded := 0
  alone := false
  calls := 0
  loops := 0
  channels := [(0, 1), (1, 2), (2, 3)]
  frames := []
  jobs := []
  lastJob := none
  noticed := []
  traps := []
  pending := []
  statusBefore := none
  substituted := false

/-- A program that has ended at a time, or that never ends. -/
def childOf {σ : Type} (finish : Option Nat) (status : σ) : Child σ where
  answer k :=
    match finish with
    | some time => if time ≤ k * pause.nanoseconds then .ended status else .running
    | none => .running
  start := 0
  reading k := k * pause.nanoseconds
  started := Nat.zero_le _
  advances k := Nat.le_of_eq (Nat.succ_mul k pause.nanoseconds).symm

/-- What has been written to standard output, for 0, and to standard error, for 1. -/
def collectedBytes (scene : Scene) (n : Nat) : Bytes :=
  toBytes ((scene.collected[n]?).getD []).reverse.flatten

/-- What a program leaves that has ended as a shell has. -/
def endedOf (s : Shell) (scene : Scene) : Ended :=
  let code :=
    match s.flow with
    | .killed _ => none
    | _ => some (s.status % 256)
  ⟨code, collectedBytes scene 0, collectedBytes scene 1⟩

/-- The reply to a call that ends as a shell has ended. -/
def replyOf (call : Call) (s : Shell) (scene : Scene) : Reply :=
  let finish := if s.flow = .late then none else some s.clock
  -- nobody looks at what a program has written that takes too long
  let ended := if s.flow = .late then ⟨none, [], []⟩ else endedOf s scene
  match (childOf finish ended).wait call.limit with
  | some wait => wait.ending.reply
  -- the run breaks off there, which is no reply: limits beyond the clock are not tried
  | none => .lost .invalid

/-- The programs of the machine. -/
def tools (m : Machine) : Tools := fun call fs =>
  if (call.program.text :: call.args).any fun word => '\x00' ∈ word then
    (.notStarted .nulInCommand, fs)
  else
    let name := octets call.program.text
    match startFor (fun p => startOf fs p name (call.args.map octets)) (octets m.search) name with
    | .error fault => (.notStarted fault, fs)
    | .ok start =>
      let (s, scene) := Schedule.outcome carryOutErrand (m.shell call fs)
        (launch carryOut launchLimit start)
      (replyOf call s scene, { scene.files with here := fs.here })

end Machine

/-- The directories that every machine has. -/
def systemDirectories : List (List String) :=
  [[], ["usr"], ["usr", "bin"], ["usr", "lib"], ["usr", "sbin"], ["usr", "share"], ["usr", "local"],
    ["usr", "local", "bin"], ["usr", "include"], ["etc"], ["dev"], ["home"], ["root"], ["var"],
    ["var", "tmp"], ["opt"], ["proc"], ["run"], ["sys"], ["mnt"], ["srv"]]

/-- The place that names lead to, the outermost first. -/
def placeOf (names : List String) : Place := (names.map String.toList).reverse

/-- The number of the file that all programs of the system have in common. -/
def programFile : Nat := 1

/-- The programs of the system that are there without being carried out by anyone. -/
def otherPrograms : List String :=
  ["awk", "base32", "base64", "bash", "cc", "cksum", "expand", "fold", "gcc", "gzip", "install", "ld",
    "make", "mawk", "md5sum", "perl", "sha1sum", "sha224sum", "sha256sum", "sha384sum", "sha512sum",
    "sum", "tar", "unexpand"]

/-- The users of the system: the name, the number, the group, what is said of the user, the directory
and the program that is started for the user. -/
def systemUsers : List (String × Nat × Nat × String × String × String) :=
  let plain := fun (name : String) (number : Nat) (home : String) =>
    (name, number, number, name, home, "/usr/sbin/nologin")
  [("root", 0, 0, "root", "/root", "/bin/bash"), plain "daemon" 1 "/usr/sbin",
    plain "bin" 2 "/bin", plain "sys" 3 "/dev", ("sync", 4, 65534, "sync", "/bin", "/bin/sync"),
    ("games", 5, 60, "games", "/usr/games", "/usr/sbin/nologin"),
    ("man", 6, 12, "man", "/var/cache/man", "/usr/sbin/nologin"),
    plain "lp" 7 "/var/spool/lpd", plain "mail" 8 "/var/mail", plain "news" 9 "/var/spool/news",
    plain "uucp" 10 "/var/spool/uucp", plain "proxy" 13 "/bin", plain "www-data" 33 "/var/www",
    plain "backup" 34 "/var/backups",
    ("list", 38, 38, "Mailing List Manager", "/var/list", "/usr/sbin/nologin"),
    ("irc", 39, 39, "ircd", "/run/ircd", "/usr/sbin/nologin"),
    ("_apt", 42, 65534, "", "/nonexistent", "/usr/sbin/nologin"),
    plain "nobody" 65534 "/nonexistent"]

/-- The file that lists the users. -/
def userText : Text :=
  systemUsers.flatMap fun (name, number, group, said, home, program) =>
    Text.join [':'] [name.toList, ['x'], Text.ofNat number, Text.ofNat group, said.toList,
      home.toList, program.toList] ++ ['\n']

/-- The nodes of the system. -/
def systemNodes : List (Place × Node) :=
  let directories := systemDirectories.map fun names =>
    (placeOf names, Node.directory Files.usualDirectoryMode)
  let devices := [("null", Device.sink), ("zero", .zeros), ("full", .full), ("tty", .terminal),
      ("random", .zeros), ("urandom", .zeros)].map
    fun (name, d) => (placeOf ["dev", name], Node.device d)
  let links := [("bin", "usr/bin"), ("lib", "usr/lib"), ("sbin", "usr/sbin")].map
    fun (name, target) => (placeOf [name], Node.link target.toList)
  let programs := (programNames ++ otherPrograms.map String.toList).map fun name =>
    ((name :: programPlace : Place), Node.file programFile)
  directories ++ [(placeOf ["tmp"], .directory 0o1777)] ++ devices ++ links
    ++ [(placeOf ["etc", "passwd"], .file 2), (placeOf ["etc", "group"], .file 3)] ++ programs

/-- The files that every machine has, with the directory that relative paths start from. -/
def systemFiles (here : Place) : Files where
  nodes := systemNodes
  states :=
    let state := fun (content : Text) (mode : Nat) => FileState.mk (Text.encode content) mode 0 0
    [(programFile, state "\x7fELF\x02\x01\x01".toList 0o755), (2, state userText 0o644),
      (3, state "root:x:0:\n".toList 0o644)]
  latest := 3
  here
  -- some day in the year 2025
  now := 1750000000 * Duration.perSecond

end NameTables.Script
