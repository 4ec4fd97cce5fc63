import FixBindings.Path

/-!
# Directories and files

The files and directories of a system with a working directory, and what reading, writing and making
directories do to them. The working directory and the directories around it are there. There are no links,
and nothing is forbidden.
-/

namespace FixBindings

/-- Where something stands: the names, in bytes, that lead to it from the root. -/
abbrev Place := List (List UInt8)

/-- What stands at a place. -/
inductive FileTree.Entry where
  /-- A file with its bytes. -/
  | file (bytes : List UInt8)
  /-- A directory. -/
  | directory
  deriving DecidableEq, Repr

/-- The files and directories of a system. -/
structure FileTree where
  /-- Where paths start that have no root. -/
  workingDirectory : Place
  /-- What stands at the places, but for the working directory and those around it. -/
  entries : List (Place × FileTree.Entry)
  deriving DecidableEq, Repr

namespace FileTree

/-- Why an operation on files fails. -/
inductive Fault where
  /-- There is nothing at the place. -/
  | missing
  /-- There is something at the place already. -/
  | exists
  /-- Something on the way is a file. -/
  | notDirectory
  /-- A directory stands at the place of a file. -/
  | isDirectory
  /-- A name or the whole path is longer than names or paths may be. -/
  | nameTooLong
  /-- The path holds a surrogate that no name can hold. -/
  | encoding (e : Text.EncodeError)
  /-- The path holds a NUL, which no path can. -/
  | nul
  deriving DecidableEq, Repr

/-- The number and the wording of a fault. -/
def Fault.message : Fault → String
  | .missing => "[Errno 2] No such file or directory"
  | .exists => "[Errno 17] File exists"
  | .notDirectory => "[Errno 20] Not a directory"
  | .isDirectory => "[Errno 21] Is a directory"
  | .nameTooLong => "[Errno 36] File name too long"
  | .encoding e => e.message
  | .nul => "embedded null byte"

/-- Whether a fault is one that the system reports. -/
def Fault.isOfSystem : Fault → Bool
  | .encoding _ | .nul => false
  | _ => true

/-- A fault at a path. -/
structure Error where
  /-- The fault. -/
  fault : Fault
  /-- The path that was asked for. -/
  path : Path
  deriving DecidableEq, Repr

/-- The wording of an error. One of the system names the path. -/
def Error.message (e : Error) : String :=
  if e.fault.isOfSystem then e.fault.message ++ ": " ++ Text.quoted e.path.text
  else e.fault.message

/-- Whether an error is one that the system reports. -/
def Error.isOfSystem (e : Error) : Bool :=
  e.fault.isOfSystem

/-- What stands at a place; the working directory and those around it are directories. -/
def entry? (t : FileTree) (place : Place) : Option Entry :=
  if place <+: t.workingDirectory then some .directory else t.entries.lookup place

/-- Put an entry at a place, instead of the one that stands there. -/
def put (place : Place) (e : Entry) : List (Place × Entry) → List (Place × Entry)
  | [] => [(place, e)]
  | (p, d) :: entries => if p = place then (place, e) :: entries else (p, d) :: put place e entries

/-- The tree with an entry at a place, instead of the one that stands there. -/
def insert (t : FileTree) (place : Place) (e : Entry) : FileTree :=
  { t with entries := put place e t.entries }

@[simp] theorem lookup_put_self (place : Place) (e : Entry) (entries : List (Place × Entry)) :
    (put place e entries).lookup place = some e := by
  induction entries with
  | nil => simp [put]
  | cons head entries ih =>
    obtain ⟨k, d⟩ := head
    by_cases h : k = place
    · simp [put, h]
    · have hne : (place == k) = false := by simpa using fun h' ↦ h h'.symm
      simp [put, h, List.lookup_cons, hne, ih]

theorem lookup_put_of_ne {p place : Place} (e : Entry) (entries : List (Place × Entry))
    (h : p ≠ place) : (put place e entries).lookup p = entries.lookup p := by
  have hne : (p == place) = false := by simpa using h
  induction entries with
  | nil => simp [put, List.lookup_cons, hne]
  | cons head entries ih =>
    obtain ⟨k, d⟩ := head
    by_cases hh : k = place
    · simp [put, hh, List.lookup_cons, hne]
    · simp [put, hh, List.lookup_cons, ih]

@[simp] theorem workingDirectory_insert (t : FileTree) (place : Place) (e : Entry) :
    (t.insert place e).workingDirectory = t.workingDirectory := rfl

/-- The most bytes of a name. -/
def maxNameBytes : Nat := 255

/-- The most bytes of a path. -/
def maxPathBytes : Nat := 4095

/-- The name that leads one level up. -/
def upward : List UInt8 := [0x2E, 0x2E]

/-- The place that names lead to from the place `start`; nothing is above the root. All but the last of
the names must lead to directories that exist. -/
def placeFrom (t : FileTree) (start : Place) : List (List UInt8) → Except Fault Place
  | [] => .ok start
  | name :: names =>
    match t.entry? start with
    | none => .error .missing
    | some (.file _) => .error .notDirectory
    | some .directory =>
      if name = upward then placeFrom t start.dropLast names
      else if maxNameBytes < name.length then .error .nameTooLong
      else placeFrom t (start ++ [name]) names

/-- The names of a path in bytes. -/
def namesOf (p : Path) : List (List UInt8) :=
  p.names.map Text.fileBytes

/-- Where a path starts. -/
def startOf (t : FileTree) (p : Path) : Place :=
  if p.isAbsolute then [] else t.workingDirectory

/-- The place that a path leads to. -/
def place (t : FileTree) (p : Path) : Except Fault Place :=
  match Text.nameError? p.text with
  | some e => .error (.encoding e)
  | none =>
    if p.text.contains '\x00' then .error .nul
    else if maxPathBytes < (Text.fileBytes p.text).length then .error .nameTooLong
    else t.placeFrom (t.startOf p) (namesOf p)

/-- Whether a path leads to a directory. -/
def isDirectory (t : FileTree) (p : Path) : Bool :=
  match t.place p with
  | .ok place => t.entry? place == some .directory
  | .error _ => false

/-- The bytes of the file at a path. -/
def read (t : FileTree) (p : Path) : Except Error (List UInt8) :=
  match t.place p with
  | .error fault => .error ⟨fault, p⟩
  | .ok place =>
    match t.entry? place with
    | none => .error ⟨.missing, p⟩
    | some .directory => .error ⟨.isDirectory, p⟩
    | some (.file bytes) => .ok bytes

/-- The tree with bytes written to the file at a path, whose directory must exist. -/
def write (t : FileTree) (p : Path) (bytes : List UInt8) : Except Error FileTree :=
  match t.place p with
  | .error fault => .error ⟨fault, p⟩
  | .ok place =>
    match t.entry? place with
    | some .directory => .error ⟨.isDirectory, p⟩
    | _ => .ok (t.insert place (.file bytes))

/-- The tree with a new directory at a path. -/
def makeDirectory (t : FileTree) (p : Path) : Except Fault FileTree :=
  match t.place p with
  | .error fault => .error fault
  | .ok place =>
    match t.entry? place with
    | some _ => .error .exists
    | none => .ok (t.insert place .directory)

/-- The error when making a directory has failed: none when the directory is there. -/
def directoryError? (t : FileTree) (p : Path) (fault : Fault) : Option Error :=
  if t.isDirectory p then none else some ⟨fault, p⟩

/-- The tree with a directory at the path whose names are given from the last to the first, and with
all directories on the way. Those that have been made stay when a later one cannot be made. -/
def makeDirectories (t : FileTree) (root : String) : List String → FileTree × Option Error
  | [] => (t, none)
  | name :: names =>
    let p : Path := ⟨root, (name :: names).reverse⟩
    match t.makeDirectory p with
    | .ok t => (t, none)
    | .error .missing =>
      match makeDirectories t root names with
      | (t, some e) => (t, some e)
      | (t, none) =>
        match t.makeDirectory p with
        | .ok t => (t, none)
        | .error .missing => (t, some ⟨.missing, p⟩)
        | .error fault => (t, t.directoryError? p fault)
    | .error fault => (t, t.directoryError? p fault)

/-- The tree with the directories on the way to a path, as far as they can be made. -/
def makeWay (t : FileTree) (p : Path) : FileTree × Option Error :=
  t.makeDirectories p.root p.parent.names.reverse

/-- The tree with all directories on the way to a path. -/
def makeParents (t : FileTree) (p : Path) : Except Error FileTree :=
  match t.makeWay p with
  | (t, none) => .ok t
  | (_, some e) => .error e

/-- The files below the working directory that are not in the first tree with the same bytes, with the
names that lead to them from there. -/
def changes (before after : FileTree) : List (Place × List UInt8) :=
  after.entries.filterMap fun (place, e) ↦
    match e with
    | .file bytes =>
      if before.entry? place = some e || !(after.workingDirectory <+: place) then none
      else some (place.drop after.workingDirectory.length, bytes)
    | .directory => none

end FileTree

end FixBindings
