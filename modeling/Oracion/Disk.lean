import Oracion.Chars.Lines
import Oracion.Fault

/-!
# Disks

A disk is a tree of folders and files, seen from a working folder.  A path is followed
name by name: it starts at the root if it begins with a slash and in the working folder
otherwise, `.` stays where it is, and `..` goes to the folder outside, which for the
root is the root itself.  The first name that cannot be followed says why.

## Main definitions

* `FileTree` — a file, or a folder with its entries.
* `Disk` — the working folder and the folders around it.
* `Disk.read` — the bytes of the file at a path.
* `Disk.holding` — a disk whose working folder holds only given files.

## Main results

* `Disk.read_name` — a file of the working folder is read by its name.
-/

namespace Oracion

/-- A file, or a folder with its entries. -/
inductive FileTree where
  /-- A file with its bytes. -/
  | file (bytes : ByteArray)
  /-- A folder with what it holds, by name. -/
  | folder (entries : List (String × FileTree))
  deriving Inhabited

/-- What a folder holds, by name. -/
abbrev Entries := List (String × FileTree)

/-! ### Paths -/

/-- What stands between the slashes of a path. -/
def splitSlashes : List Char → List (List Char)
  | [] => [[]]
  | c :: cs => if c = '/' then [] :: splitSlashes cs else Chars.consLine c (splitSlashes cs)

/-- The names in a path, in order. -/
def pathNames (path : String) : List String :=
  ((splitSlashes path.toList).filter fun name => !name.isEmpty).map String.ofList

/-- Whether a path begins at the root. -/
def isAbsolute (path : String) : Bool := path.toList.head? == some '/'

/-- Whether a path can only mean a folder, because it ends in a slash. -/
def meansFolder (path : String) : Bool := path.toList.getLast? == some '/'

/-- The most bytes that a name can have. -/
def maxName : Nat := 255

/-- The most bytes that a path can have. -/
def maxPath : Nat := 4095

/-! ### Following a path -/

/-- The working folder of a disk, then the folder that holds it, and so on to the root. -/
structure Disk where
  /-- The folders, from the working folder to the root. -/
  trail : List Entries
  deriving Inhabited

namespace Disk

/-- What the working folder holds. -/
def here (d : Disk) : Entries := d.trail.headD []

/-- The disk as seen from the folder outside. -/
def outward (d : Disk) : Disk :=
  match d.trail with
  | _ :: outer :: rest => ⟨outer :: rest⟩
  | trail => ⟨trail⟩

/-- The disk as seen from a folder inside. -/
def inward (d : Disk) (entries : Entries) : Disk := ⟨entries :: d.trail⟩

/-- The disk as seen from the root. -/
def fromRoot (d : Disk) : Disk := ⟨d.trail.drop (d.trail.length - 1)⟩

/-- The bytes of the file that names lead to from the working folder; with `asFolder`, the
last name can only mean a folder. -/
def follow (d : Disk) (asFolder : Bool) : List String → Except ReadFault ByteArray
  | [] => .error .isDirectory
  | name :: names =>
      if name = "." then d.follow asFolder names
      else if name = ".." then d.outward.follow asFolder names
      else if maxName < name.utf8ByteSize then .error .nameTooLong
      else
        match d.here.lookup name with
        | none => .error .notFound
        | some (.folder entries) => (d.inward entries).follow asFolder names
        | some (.file bytes) =>
            if names.isEmpty && !asFolder then .ok bytes else .error .notDirectory

/-- The bytes of the file at a path. -/
def read (d : Disk) (path : String) : Except ReadFault ByteArray :=
  if path.isEmpty then .error .notFound
  else if maxPath < path.utf8ByteSize then .error .nameTooLong
  else (if isAbsolute path then d.fromRoot else d).follow (meansFolder path) (pathNames path)

/-! ### A folder of files -/

/-- The folders that stand at the root of every system, those for devices and for what is
temporary left out. -/
def commonFolders : List String :=
  ["bin", "boot", "etc", "home", "lib", "media", "mnt", "opt", "proc", "root", "run", "sbin",
   "srv", "sys", "usr", "var"]

/-- A disk whose working folder, a temporary one, holds only given files.  Among the devices
are the empty one and the standard input. -/
def holding (files : List (String × ByteArray)) (stdin : ByteArray) : Disk :=
  let work : Entries := files.map fun (name, bytes) => (name, .file bytes)
  let temporary : Entries := [("work", .folder work)]
  let devices : Entries := [("null", .file .empty), ("stdin", .file stdin)]
  let root : Entries := ("dev", .folder devices) :: ("tmp", .folder temporary) ::
    commonFolders.map fun name => (name, .folder [])
  ⟨[work, temporary, root]⟩

end Disk

/-! ### Reading by name -/

theorem splitSlashes_of_not_mem {cs : List Char} (h : '/' ∉ cs) : splitSlashes cs = [cs] := by
  induction cs with
  | nil => rfl
  | cons c cs ih =>
    rw [List.mem_cons, not_or] at h
    rw [splitSlashes, if_neg fun e => h.1 e.symm, ih h.2]
    rfl

/-- A text without slashes is a path of one name. -/
theorem pathNames_of_not_mem {path : String} (hne : path ≠ "") (h : '/' ∉ path.toList) :
    pathNames path = [path] := by
  have hl : path.toList ≠ [] := fun e => hne (String.toList_inj.1 (by simpa using e))
  simp [pathNames, splitSlashes_of_not_mem h, hl]

/-- **A file of the working folder is read by its name.** -/
theorem Disk.read_name {d : Disk} {name : String} {bytes : ByteArray} (hne : name ≠ "")
    (hslash : '/' ∉ name.toList) (hdot : name ≠ ".") (hdots : name ≠ "..")
    (hlen : name.utf8ByteSize ≤ maxName) (hfile : d.here.lookup name = some (.file bytes)) :
    d.read name = .ok bytes := by
  have habs : isAbsolute name = false := by
    refine Bool.eq_false_iff.2 fun h => hslash ?_
    exact List.mem_of_mem_head? (eq_of_beq h)
  have hend : meansFolder name = false := by
    refine Bool.eq_false_iff.2 fun h => hslash ?_
    exact List.mem_of_mem_getLast? (eq_of_beq h)
  have hpath : ¬ maxPath < name.utf8ByteSize := by
    unfold maxName at hlen
    unfold maxPath
    omega
  have hname : ¬ maxName < name.utf8ByteSize := by omega
  simp [read, habs, hend, hpath, hname, hne, pathNames_of_not_mem hne hslash, follow, hdot, hdots,
    hfile]

end Oracion
