import ImpSyntax.Text.Quoted

/-!
# Files of the command line

The command line reads program files by path. Opening a path can fail, and each failure
is reported with its error number and the path quoted:

* a path that names nothing, or the empty path: `[Errno 2] No such file or directory`;
* a directory: `[Errno 21] Is a directory`;
* a path that goes on through a file: `[Errno 20] Not a directory`;
* a component longer than 255 bytes, or a path of 4096 bytes or more:
  `[Errno 36] File name too long`;
* a path holding a NUL character, which is not an operating-system error at all.

A *file tree* is the file system as a run sees it: entries by their place, each a
directory, a file with its bytes, or a symbolic link with the path it points to. The
program runs in a working directory of its own under `/tmp`, whose name no path can know.

A path is read component by component, from the root when it starts with `/` and from
the working directory otherwise: empty components and `.` stay where they are, `..` goes
to the parent (the root is its own parent), and a name must be an entry of the directory
reached so far. A link is followed where it is met: its target is read from the root when
it starts with `/` and from the link's directory otherwise, and the rest of the path goes
on from where the target leads, so `..` after a link leaves the target, not the link. At
most 40 links are followed in one lookup. A file ends the walk: a component after it, even
an empty one from a trailing `/`, makes the path not a directory. Files are made the way a
script makes them: the directories along the path are made as far as they are missing,
then the file.
-/

namespace ImpSyntax.Cli

/-- **Why a path cannot be opened for reading.** -/
inductive OpenError where
  | notFound
  | isDirectory
  | notDirectory
  | nameTooLong
  | permissionDenied
  /-- Another failure of the operating system, with its number and description. -/
  | other (errno : Nat) (text : String)
  /-- The path holds a NUL character. -/
  | nullByte
  deriving DecidableEq, Repr, Inhabited

namespace OpenError

/-- The name of the kind of error. -/
def kind : OpenError → String
  | notFound => "FileNotFoundError"
  | isDirectory => "IsADirectoryError"
  | notDirectory => "NotADirectoryError"
  | permissionDenied => "PermissionError"
  | nameTooLong | other .. => "OSError"
  | nullByte => "ValueError"

/-- Errors of the operating system; the program reports them and goes on. -/
def isSystemError : OpenError → Bool
  | nullByte => false
  | _ => true

/-- **How an open error is written**, for the path `path`. -/
def message (path : String) : OpenError → String
  | notFound => "[Errno 2] No such file or directory: " ++ Text.quote path
  | isDirectory => "[Errno 21] Is a directory: " ++ Text.quote path
  | notDirectory => "[Errno 20] Not a directory: " ++ Text.quote path
  | nameTooLong => "[Errno 36] File name too long: " ++ Text.quote path
  | permissionDenied => "[Errno 13] Permission denied: " ++ Text.quote path
  | other n t => "[Errno " ++ toString n ++ "] " ++ t ++ ": " ++ Text.quote path
  | nullByte => "embedded null byte"

end OpenError

/-- **A source of files**: the bytes at a path, or why it cannot be opened. -/
abbrev Reader := String → Except OpenError (List UInt8)

/-- **A step from a directory to one of its entries**: an entry by its name, or the working
directory, whose own name is not known and which no component of a path can name. -/
inductive Step where
  | named (name : String)
  | work
  deriving DecidableEq, Repr, Inhabited

/-- **A place in the file system**: the steps to it from the root. -/
abbrev Place := List Step

/-- **What is at a place**: a directory, a file with its bytes, a symbolic link with the
path it points to, or a device that is there but fails to open, such as a terminal with no
terminal behind it. -/
inductive Entry where
  | dir
  | file (bytes : List UInt8)
  | link (target : String)
  | device (failure : OpenError)
  deriving DecidableEq, Repr, Inhabited

/-- **A file tree**: the entries by their place. -/
structure FileTree where
  entries : List (Place × Entry)
  deriving Inhabited

namespace FileTree

/-- The entry at a place, if there is one. -/
def entry? (t : FileTree) (p : Place) : Option Entry :=
  t.entries.lookup p

/-- Putting an entry at a place, in the stead of what was there. -/
def set (t : FileTree) (p : Place) (e : Entry) : FileTree :=
  ⟨(t.entries.filter (·.1 != p)) ++ [(p, e)]⟩

/-- **The working directory**: a directory of its own under `/tmp`. -/
def workDir : Place := [.named "tmp", .work]

/-- The place an absolute path names when none of its components is a link, `..` or `.`. -/
def placeOf (path : String) : Place :=
  ((path.splitOn "/").filter (· != "")).map .named

/-- Where a path starts: the root for an absolute path, the working directory otherwise. -/
def start (path : String) : Place :=
  if path.startsWith "/" then [] else workDir

/-- The most symbolic links one lookup follows. -/
def linkLimit : Nat := 40

/-- The error of a lookup that meets more links than `linkLimit`. -/
def tooManyLinks : OpenError := .other 40 "Too many levels of symbolic links"

/-- **Following the components of a path** from the directory `cur`, with `links` more
links that may be followed: where they lead, or why they do not. -/
def walk (t : FileTree) (links : Nat) (cur : Place) (cs : List String) :
    Except OpenError Place :=
  match cs with
  | [] => .ok cur
  | c :: rest =>
    if c == "" || c == "." then t.walk links cur rest
    else if c == ".." then t.walk links cur.dropLast rest
    else if c.utf8ByteSize > 255 then .error .nameTooLong
    else
      let next := cur ++ [.named c]
      match t.entry? next with
      | some .dir => t.walk links next rest
      | some (.file _) | some (.device _) =>
        if rest.isEmpty then .ok next else .error .notDirectory
      | some (.link target) =>
        match links with
        | 0 => .error tooManyLinks
        | n + 1 => t.walk n (if target.startsWith "/" then [] else cur) (target.splitOn "/" ++ rest)
      | none => .error .notFound
termination_by (links, cs.length)

/-- **Reading a path** of the tree. -/
def read (t : FileTree) (path : String) : Except OpenError (List UInt8) :=
  if path.toList.contains '\x00' then .error .nullByte
  else if path.isEmpty then .error .notFound
  else if path.utf8ByteSize ≥ 4096 then .error .nameTooLong
  else
    match t.walk linkLimit (start path) (path.splitOn "/") with
    | .error e => .error e
    | .ok p =>
      match t.entry? p with
      | some (.file bs) => .ok bs
      | some (.device e) => .error e
      | _ => .error .isDirectory

/-- **Making the directories along some components** from `cur`, as far as they are
missing: the tree after, and the place they lead to. -/
def makeDirs (t : FileTree) (cur : Place) : List String → FileTree × Place
  | [] => (t, cur)
  | c :: cs =>
    if c == "" || c == "." then t.makeDirs cur cs
    else if c == ".." then t.makeDirs cur.dropLast cs
    else
      let next := cur ++ [.named c]
      match t.entry? next with
      | some _ => t.makeDirs next cs
      | none => (t.set next .dir).makeDirs next cs

/-- **Making a directory** by its path, with the directories above it. -/
def makeDir (t : FileTree) (path : String) : FileTree :=
  (t.makeDirs (start path) (path.splitOn "/")).1

/-- **Writing a file** by its path: the directories above it are made first. -/
def writeFile (t : FileTree) (path : String) (bytes : List UInt8) : FileTree :=
  let cs := path.splitOn "/"
  let (t', dir) := t.makeDirs (start path) cs.dropLast
  match cs.getLast? with
  | some name =>
    if name == "" || name == "." || name == ".." then t' else t'.set (dir ++ [.named name]) (.file bytes)
  | none => t'

end FileTree

end ImpSyntax.Cli
