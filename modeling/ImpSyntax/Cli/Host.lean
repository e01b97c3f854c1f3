import ImpSyntax.Cli.Files

/-!
# The host around a run

The command line runs on a Linux host with a merged `/usr`: `/bin`, `/lib`, `/lib64` and
`/sbin` are links to their namesakes below `/usr`, so `/bin/..` is `/usr`. `FileTree.system`
is that host as far as a run can see it, with the directories, links and files below and an
empty working directory under `/tmp`. A file of the host is kept with the text it starts with,
which is all a run shows of it, or empty where that text depends on the machine.

`FileTree.ofLists` adds a run's own directories and files to the host.
-/

namespace ImpSyntax.Cli.FileTree

/-- The paths of `names` in the directory `dir`. -/
def within (dir : String) (names : List String) : List String :=
  names.map (dir ++ "/" ++ ·)

/-- The host's directories, below the root. -/
def hostDirs : List String :=
  ["/boot", "/dev", "/etc", "/home", "/media", "/mnt", "/opt", "/proc", "/root", "/run", "/srv",
    "/sys", "/tmp", "/usr", "/var"] ++
  within "/dev" ["mqueue", "pts", "shm"] ++
  within "/run" ["lock", "mount"] ++
  within "/usr" ["bin", "games", "include", "lib", "lib64", "libexec", "local", "sbin", "share",
    "src"] ++
  within "/usr/local" ["bin", "etc", "games", "include", "lib", "sbin", "share", "src",
    "lib/python3.11", "lib/python3.11/dist-packages", "share/man"] ++
  within "/usr/lib" ["apt", "dpkg", "init", "locale", "lsb", "mime", "python3", "python3.11",
    "python3/dist-packages", "python3.11/encodings", "python3.11/json", "python3.11/lib-dynload",
    "ssl", "systemd", "terminfo", "tmpfiles.d", "udev", "x86_64-linux-gnu"] ++
  within "/usr/share" ["base-files", "bash-completion", "common-licenses", "debconf", "doc",
    "info", "keyrings", "lintian", "locale", "man", "menu", "misc", "perl5", "pixmaps",
    "python3", "tabset", "terminfo", "zoneinfo", "zoneinfo/Etc"] ++
  within "/var" ["backups", "cache", "lib", "local", "log", "mail", "opt", "spool", "tmp",
    "cache/apt", "cache/debconf", "cache/ldconfig", "lib/apt", "lib/dpkg", "lib/misc",
    "lib/systemd", "log/apt"] ++
  within "/etc" ["alternatives", "apt", "cron.d", "cron.daily", "default", "dpkg", "init.d",
    "kernel", "ld.so.conf.d", "logrotate.d", "opt", "pam.d", "profile.d", "python3",
    "python3.11", "rc0.d", "rc1.d", "rc2.d", "rc3.d", "rc4.d", "rc5.d", "rc6.d", "rcS.d",
    "security", "selinux", "skel", "ssl", "systemd", "terminfo", "update-motd.d"] ++
  within "/proc" ["1", "self", "self/fd", "sys", "sys/kernel", "sys/fs", "sys/vm", "net",
    "driver", "fs", "irq", "bus", "tty"] ++
  within "/sys" ["block", "bus", "class", "dev", "devices", "firmware", "fs", "kernel",
    "module", "power"]

/-- The host's symbolic links, each with the path it points to. -/
def hostLinks : List (String × String) :=
  [("/bin", "usr/bin"), ("/lib", "usr/lib"), ("/lib64", "usr/lib64"), ("/sbin", "usr/sbin"),
    ("/usr/bin/sh", "dash"), ("/usr/bin/python3", "python3.11"),
    ("/usr/bin/awk", "/etc/alternatives/awk"), ("/etc/alternatives/awk", "/usr/bin/mawk"),
    ("/usr/bin/pager", "/etc/alternatives/pager"), ("/etc/alternatives/pager", "/usr/bin/more"),
    ("/usr/local/man", "share/man"), ("/var/run", "/run"), ("/var/lock", "/run/lock"),
    ("/etc/os-release", "../usr/lib/os-release"), ("/etc/mtab", "../proc/self/mounts"),
    ("/etc/localtime", "/usr/share/zoneinfo/Etc/UTC"), ("/proc/mounts", "self/mounts"),
    ("/dev/fd", "/proc/self/fd"), ("/dev/stdin", "/proc/self/fd/0"),
    ("/dev/stdout", "/proc/self/fd/1"), ("/dev/stderr", "/proc/self/fd/2"),
    ("/dev/ptmx", "pts/ptmx"), ("/dev/core", "/proc/kcore"),
    ("/usr/lib64/ld-linux-x86-64.so.2", "/lib/x86_64-linux-gnu/ld-linux-x86-64.so.2")]

/-- The programs in `/usr/bin`. -/
def hostPrograms : List String :=
  ["[", "arch", "b2sum", "base32", "base64", "basename", "basenc", "bash", "bashbug", "cat",
    "chattr", "chcon", "chfn", "chgrp", "chmod", "chown", "chsh", "cksum", "clear", "cmp",
    "comm", "cp", "csplit", "cut", "dash", "date", "dd", "df", "diff", "diff3", "dir",
    "dircolors", "dirname", "dpkg", "dpkg-query", "du", "echo", "egrep", "env", "expand",
    "expr", "factor", "false", "fgrep", "find", "fmt", "fold", "getconf", "getent", "grep",
    "groups", "gunzip", "gzip", "head", "hostid", "hostname", "id", "install", "join", "kill",
    "link", "ln", "login", "logname", "ls", "lsattr", "mawk", "md5sum", "mkdir", "mkfifo",
    "mknod", "mktemp", "more", "mount", "mv", "nice", "nl", "nohup", "nproc", "numfmt", "od",
    "passwd", "paste", "pathchk", "perl", "pinky", "pr", "printenv", "printf", "ptx", "pwd",
    "python3.11", "readlink", "realpath", "rm", "rmdir", "run-parts", "runcon", "sed", "seq",
    "sha1sum", "sha224sum", "sha256sum", "sha384sum", "sha512sum", "shred", "shuf", "sleep",
    "sort", "split", "stat", "stdbuf", "stty", "su", "sum", "sync", "tac", "tail", "tar", "tee",
    "tempfile", "test", "timeout", "touch", "tr", "true", "truncate", "tset", "tsort", "tty",
    "umount", "uname", "unexpand", "uniq", "unlink", "users", "vdir", "wc", "which", "who",
    "whoami", "xargs", "yes", "zcat"]

/-- The programs in `/usr/sbin`. -/
def hostSystemPrograms : List String :=
  ["chroot", "groupadd", "groupdel", "groupmod", "ldconfig", "nologin", "pwck", "useradd",
    "userdel", "usermod", "start-stop-daemon"]

/-- The host's files of known beginning, each with its text. -/
def hostTexts : List (String × String) :=
  [("/dev/null", ""),
    ("/etc/passwd",
      "root:x:0:0:root:/root:/bin/bash\n" ++
      "daemon:x:1:1:daemon:/usr/sbin:/usr/sbin/nologin\n" ++
      "bin:x:2:2:bin:/bin:/usr/sbin/nologin\n" ++
      "sys:x:3:3:sys:/dev:/usr/sbin/nologin\n" ++
      "sync:x:4:65534:sync:/bin:/bin/sync\n" ++
      "games:x:5:60:games:/usr/games:/usr/sbin/nologin\n" ++
      "man:x:6:12:man:/var/cache/man:/usr/sbin/nologin\n" ++
      "lp:x:7:7:lp:/var/spool/lpd:/usr/sbin/nologin\n" ++
      "mail:x:8:8:mail:/var/mail:/usr/sbin/nologin\n" ++
      "news:x:9:9:news:/var/spool/news:/usr/sbin/nologin\n" ++
      "uucp:x:10:10:uucp:/var/spool/uucp:/usr/sbin/nologin\n" ++
      "proxy:x:13:13:proxy:/bin:/usr/sbin/nologin\n" ++
      "www-data:x:33:33:www-data:/var/www:/usr/sbin/nologin\n" ++
      "backup:x:34:34:backup:/var/backups:/usr/sbin/nologin\n" ++
      "list:x:38:38:Mailing List Manager:/var/list:/usr/sbin/nologin\n" ++
      "irc:x:39:39:ircd:/run/ircd:/usr/sbin/nologin\n" ++
      "_apt:x:42:65534::/nonexistent:/usr/sbin/nologin\n" ++
      "nobody:x:65534:65534:nobody:/nonexistent:/usr/sbin/nologin\n"),
    ("/etc/group",
      "root:x:0:\ndaemon:x:1:\nbin:x:2:\nsys:x:3:\nadm:x:4:\ntty:x:5:\ndisk:x:6:\nlp:x:7:\n" ++
      "mail:x:8:\nnews:x:9:\nuucp:x:10:\nman:x:12:\nproxy:x:13:\nkmem:x:15:\ndialout:x:20:\n" ++
      "fax:x:21:\nvoice:x:22:\ncdrom:x:24:\nfloppy:x:25:\ntape:x:26:\nsudo:x:27:\naudio:x:29:\n" ++
      "dip:x:30:\nwww-data:x:33:\nbackup:x:34:\noperator:x:37:\nlist:x:38:\nirc:x:39:\n" ++
      "src:x:40:\nshadow:x:42:\nutmp:x:43:\nvideo:x:44:\nsasl:x:45:\nplugdev:x:46:\n" ++
      "staff:x:50:\ngames:x:60:\nusers:x:100:\nnogroup:x:65534:\n"),
    ("/etc/shadow", "root:*:"), ("/etc/gshadow", "root:*::\n"),
    ("/etc/shells", "# /etc/shells: valid login shells\n"),
    ("/etc/bash.bashrc", "# System-wide .bashrc file for interactive bash(1) shells.\n"),
    ("/etc/fstab", "# UNCONFIGURED FSTAB FOR BASE SYSTEM\n"),
    ("/etc/host.conf", "multi on\n"),
    ("/etc/ld.so.conf", "include /etc/ld.so.conf.d/*.conf\n"),
    ("/etc/nsswitch.conf", "# /etc/nsswitch.conf\n"),
    ("/etc/hosts", "127.0.0.1\tlocalhost\n"),
    ("/etc/login.defs", "#\n"),
    ("/etc/timezone", "Etc/UTC\n")]

/-- The host's files whose text depends on the machine; they are kept empty. -/
def hostFiles : List String :=
  within "/usr/bin" hostPrograms ++ within "/usr/sbin" hostSystemPrograms ++
  within "/etc" ["adduser.conf", "debconf.conf", "debian_version", "deluser.conf",
    "e2scrub.conf", "environment", "gai.conf", "hostname", "issue", "issue.net", "ld.so.cache",
    "mime.types", "mke2fs.conf", "pam.conf", "profile", "resolv.conf", "subgid", "subuid",
    "xattr.conf"] ++
  within "/usr/lib" ["os-release", "x86_64-linux-gnu/ld-linux-x86-64.so.2",
    "x86_64-linux-gnu/libc.so.6"] ++
  ["/usr/share/zoneinfo/Etc/UTC", "/dev/zero", "/dev/full", "/dev/random", "/dev/urandom",
    "/dev/pts/ptmx"] ++
  within "/proc" ["cmdline", "cpuinfo", "filesystems", "kcore", "loadavg", "meminfo", "stat",
    "uptime", "version", "self/cmdline", "self/environ", "self/mounts", "self/stat",
    "self/status"]

/-- **The host around a run**: the root, the host's directories, links and files, the
terminal device, which a run without a terminal cannot open, and the working directory,
still empty. -/
def system : FileTree :=
  ⟨([], .dir) :: hostDirs.map (fun d => (placeOf d, Entry.dir)) ++
    hostLinks.map (fun l => (placeOf l.1, Entry.link l.2)) ++
    hostTexts.map (fun f => (placeOf f.1, Entry.file f.2.toUTF8.toList)) ++
    hostFiles.map (fun f => (placeOf f, Entry.file [])) ++
    [(placeOf "/dev/tty", .device (.other 6 "No such device or address")), (workDir, .dir)]⟩

/-- **The tree of a run**: the host, with the given directories and then the given files
made from the working directory. -/
def ofLists (files : List (String × List UInt8)) (dirs : List String) : FileTree :=
  let t := dirs.foldl makeDir system
  files.foldl (fun t f => t.writeFile f.1 f.2) t

end ImpSyntax.Cli.FileTree
