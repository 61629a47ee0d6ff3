import Mathlib.Data.List.Basic
import Mathlib.Data.List.Induction
import Mathlib.Logic.Function.Basic
import PlayitAgent.Lib.Fallible

/-!
# A file system

A tree of directories and files, with paths as Rust's `std::path` takes them apart, and the calls of
`std::fs` on it. A location is the list of names that leads from the root to an entry, without `.`
and `..`; a path is looked up by walking its components through directories that exist. There are no
links. Every call says what it does to the tree or which error it returns; failures of the system
itself are left to whoever uses the calls.

A `FileSystem` carries what makes it a tree: the root and the working directory are directories, and
so is whatever an entry is in. All changes go through `put`, which keeps this.
-/

namespace PlayitAgent

/-! ## Paths -/

/-- The name of an entry: a text, or bytes that are none, which are shown as another text. -/
inductive OsName where
  | unicode (text : String)
  | other (bytes : List UInt8) (shown : String)
  deriving DecidableEq

/-- What is behind the last dot of a name, unless that is its first character. -/
def afterLastDot {α : Type} [DecidableEq α] (dot : α) (name : List α) : Option (List α) :=
  let parts := name.splitOn dot
  if parts.length < 2 ∨ parts.dropLast = [[]] then none else parts.getLast?

/-- `OsStr::to_str`. -/
def OsName.toStr : OsName → Option String
  | unicode text => some text
  | other _ _ => none

/-- What is shown of a name. -/
def OsName.display : OsName → String
  | unicode text => text
  | other _ shown => shown

/-- A component of a path. -/
inductive Component where
  | curDir
  | parentDir
  | normal (name : OsName)
  deriving DecidableEq

/-- What is shown of a component. -/
def Component.display : Component → String
  | curDir => "."
  | parentDir => ".."
  | normal name => name.display

/-- A path, as its components. -/
structure Path where
  absolute : Bool
  components : List Component
  deriving DecidableEq

/-- Where an entry is: the names on the way to it from the root. -/
abbrev Location := List OsName

namespace Path

/-- The empty path. -/
def empty : Path := ⟨false, []⟩

/-- `Path::parent`. -/
def parent (path : Path) : Option Path :=
  if path.components = [] then none else some { path with components := path.components.dropLast }

/-- `Path::file_name`. -/
def fileName (path : Path) : Option OsName :=
  match path.components.getLast? with
  | some (.normal name) => some name
  | _ => none

/-- `Path::extension`, where that is a text: it may be one also where the name is none. -/
def extension (path : Path) : Option String := do
  match ← path.fileName with
  | .unicode text => return String.ofList (← afterLastDot '.' text.toList)
  | .other bytes _ => String.fromUTF8? ⟨(← afterLastDot 46 bytes).toArray⟩

/-- `Path::join` with one name. -/
def join (path : Path) (name : OsName) : Path :=
  { path with components := path.components ++ [.normal name] }

/-- `Path::display`. -/
def display (path : Path) : String :=
  (if path.absolute then "/" else "") ++ "/".intercalate (path.components.map Component.display)

end Path

/-- The location that one component leads to. -/
def Location.enter (location : Location) : Component → Location
  | .curDir => location
  | .parentDir => location.dropLast
  | .normal name => location ++ [name]

/-! ## The tree -/

/-- An entry: a directory or a file, with its mode. -/
inductive Node where
  | dir (mode : ℕ)
  | file (content : List UInt8) (mode : ℕ)
  deriving DecidableEq

/-- The entry is a directory. -/
def Node.isDir : Node → Bool
  | dir _ => true
  | file _ _ => false

/-- The entry with another mode. -/
def Node.chmod (mode : ℕ) : Node → Node
  | dir _ => dir mode
  | file content _ => file content mode

/-- The errors that the calls tell apart, and any other one with its text. -/
inductive FsError where
  | notFound
  | alreadyExists
  | notADirectory
  | isADirectory
  | os (text : String)
  deriving DecidableEq

/-- The text of an error. -/
def FsError.text : FsError → String
  | notFound => "No such file or directory (os error 2)"
  | alreadyExists => "File exists (os error 17)"
  | notADirectory => "Not a directory (os error 20)"
  | isADirectory => "Is a directory (os error 21)"
  | os text => text

/-- There is a directory at the location. -/
def DirAt (nodes : Location → Option Node) (location : Location) : Prop :=
  ∃ mode, nodes location = some (.dir mode)

/-- Where there is nothing, there is no directory. -/
theorem not_dirAt_of_none {nodes : Location → Option Node} {location : Location}
    (h : nodes location = none) : ¬DirAt nodes location := by
  simp [DirAt, h]

/-- Where there is a file, there is no directory. -/
theorem not_dirAt_of_file {nodes : Location → Option Node} {location : Location}
    {content : List UInt8} {mode : ℕ} (h : nodes location = some (.file content mode)) :
    ¬DirAt nodes location := by
  simp [DirAt, h]

/-- A file system. -/
structure FileSystem where
  nodes : Location → Option Node
  /-- The working directory. -/
  cwd : Location
  umask : ℕ
  root_dir : DirAt nodes []
  cwd_dir : DirAt nodes cwd
  parent_dir : ∀ location name, nodes (location ++ [name]) ≠ none → DirAt nodes location

/-- Whether there is a directory at a location. -/
instance (nodes : Location → Option Node) (location : Location) :
    Decidable (DirAt nodes location) :=
  match h : nodes location with
  | some (.dir mode) => .isTrue ⟨mode, h⟩
  | some (.file _ _) => .isFalse fun ⟨_, hm⟩ => nomatch h.symm.trans hm
  | none => .isFalse fun ⟨_, hm⟩ => nomatch h.symm.trans hm

namespace FileSystem

variable (fs : FileSystem)

/-- An entry may take the place of what is at a location: a directory stays one, and what an entry
is in is a directory. -/
def Fits (location : Location) (node : Option Node) : Prop :=
  (DirAt fs.nodes location → ∃ mode, node = some (.dir mode)) ∧
    (node ≠ none → location = [] ∨ DirAt fs.nodes location.dropLast)

/-- A directory that exists is one after the change, too. -/
theorem Fits.dirAt_update {fs : FileSystem} {location : Location} {node : Option Node}
    (h : fs.Fits location node) {other : Location} (hother : DirAt fs.nodes other) :
    DirAt (Function.update fs.nodes location node) other := by
  by_cases heq : other = location
  · subst heq
    obtain ⟨mode, hmode⟩ := h.1 hother
    exact ⟨mode, by rw [Function.update_self, hmode]⟩
  · obtain ⟨mode, hmode⟩ := hother
    exact ⟨mode, by rw [Function.update_of_ne heq, hmode]⟩

/-- The file system with another entry at a location. -/
def put (location : Location) (node : Option Node) (h : fs.Fits location node) : FileSystem where
  nodes := Function.update fs.nodes location node
  cwd := fs.cwd
  umask := fs.umask
  root_dir := h.dirAt_update fs.root_dir
  cwd_dir := h.dirAt_update fs.cwd_dir
  parent_dir := by
    intro other name hne
    -- The entry that is put may be the one in question, and then its parent fits.
    by_cases heq : other ++ [name] = location
    · rw [heq, Function.update_self] at hne
      rcases h.2 hne with hroot | hparent
      · rw [hroot] at heq
        simp at heq
      · rw [← heq, List.dropLast_concat] at hparent
        exact h.dirAt_update hparent
    · rw [Function.update_of_ne heq] at hne
      exact h.dirAt_update (fs.parent_dir other name hne)

/-- A file system with nothing but the root. -/
def bare (mode umask : ℕ) : FileSystem where
  nodes location := if location = [] then some (.dir mode) else none
  cwd := []
  umask := umask
  root_dir := ⟨mode, rfl⟩
  cwd_dir := ⟨mode, rfl⟩
  parent_dir location name h := by simp at h

/-! ## Looking up -/

/-- Where a path starts. -/
def origin (path : Path) : Location := if path.absolute then [] else fs.cwd

/-- A component is entered from a directory that exists. -/
def enter (location : Location) (component : Component) : Except FsError Location :=
  match fs.nodes location with
  | none => .error .notFound
  | some (.file _ _) => .error .notADirectory
  | some (.dir _) => .ok (location.enter component)

/-- The components of a path are entered one after the other. -/
def walk (path : Path) : Except FsError Location :=
  path.components.foldlM fs.enter (fs.origin path)

/-- The location of a path; the empty path has none. -/
def resolve (path : Path) : Except FsError Location :=
  if path = .empty then .error .notFound else fs.walk path

/-- The location that the components spell, whether or not there is anything on the way. -/
def locate (path : Path) : Location := path.components.foldl Location.enter (fs.origin path)

/-- `fs::metadata`. -/
def metadata (path : Path) : Except FsError Node := do
  match fs.nodes (← fs.resolve path) with
  | none => .error .notFound
  | some node => .ok node

/-- `Path::is_dir`. -/
def isDir (path : Path) : Bool :=
  match fs.metadata path with
  | .ok node => node.isDir
  | .error _ => false

/-- `fs::read`. -/
def read (path : Path) : Except FsError (List UInt8) := do
  match ← fs.metadata path with
  | .dir _ => .error .isADirectory
  | .file content _ => .ok content

/-! ## Changes at a location -/

/-- A mode without the bits that are masked. -/
def masked (mode : ℕ) : ℕ := mode - (mode &&& fs.umask)

/-- A new entry. -/
def createAt (location : Location) (node : Node) : Except FsError FileSystem :=
  if hnew : fs.nodes location = none then
    if hparent : DirAt fs.nodes location.dropLast then
      .ok (fs.put location (some node)
        ⟨fun ⟨_, h⟩ => (nomatch hnew.symm.trans h), fun _ => .inr hparent⟩)
    else .error .notFound
  else .error .alreadyExists

/-- What an entry is in is a directory. -/
theorem dirAt_dropLast {location : Location} (h : fs.nodes location ≠ none) :
    location = [] ∨ DirAt fs.nodes location.dropLast := by
  rcases List.eq_nil_or_concat' location with rfl | ⟨parent, name, rfl⟩
  · exact .inl rfl
  · rw [List.dropLast_concat]
    exact .inr (fs.parent_dir parent name h)

/-- Another mode for an entry. -/
def chmodAt (location : Location) (mode : ℕ) : Except FsError FileSystem :=
  match h : fs.nodes location with
  | none => .error .notFound
  | some node =>
    .ok (fs.put location (some (node.chmod mode))
      ⟨fun ⟨_, hdir⟩ => ⟨mode, by rw [hdir] at h; cases h; rfl⟩,
        fun _ => fs.dirAt_dropLast (by simp [h])⟩)

/-- Other contents for a file that is open; nothing happens when it is not there any more. -/
def writeAt (location : Location) (content : List UInt8) : FileSystem :=
  match h : fs.nodes location with
  | some (.file _ mode) =>
    fs.put location (some (.file content mode))
      ⟨fun ⟨_, hdir⟩ => (nomatch h.symm.trans hdir), fun _ => fs.dirAt_dropLast (by simp [h])⟩
  | _ => fs

/-- A file is removed. -/
def removeAt (location : Location) : Except FsError FileSystem :=
  match h : fs.nodes location with
  | none => .error .notFound
  | some (.dir _) => .error .isADirectory
  | some (.file _ _) =>
    .ok (fs.put location none
      ⟨fun ⟨_, hdir⟩ => (nomatch h.symm.trans hdir), fun hne => absurd rfl hne⟩)

/-- A file takes the place of what is at a location, unless that is a directory. -/
def replaceAt (location : Location) (content : List UInt8) (mode : ℕ) :
    Except FsError FileSystem :=
  if hdir : DirAt fs.nodes location then .error .isADirectory
  else if hparent : DirAt fs.nodes location.dropLast then
    .ok (fs.put location (some (.file content mode))
      ⟨fun h => absurd h hdir, fun _ => .inr hparent⟩)
  else .error .notFound

/-! ## Calls -/

/-- `mkdir`. -/
def mkdir (path : Path) : Except FsError FileSystem := do
  fs.createAt (← fs.resolve path) (.dir (fs.masked 0o777))

/-- `fs::set_permissions`. -/
def setPermissions (path : Path) (mode : ℕ) : Except FsError FileSystem := do
  fs.chmodAt (← fs.resolve path) mode

/-- `OpenOptions::create_new` for a file, which is open then. -/
def createNew (path : Path) (mode : ℕ) : Except FsError (Location × FileSystem) := do
  let location ← fs.resolve path
  return (location, ← fs.createAt location (.file [] (fs.masked mode)))

/-- `File::create`: a file that exists is emptied, and keeps its mode. -/
def create (path : Path) : Except FsError (Location × FileSystem) := do
  let location ← fs.resolve path
  match fs.nodes location with
  | none => return (location, ← fs.createAt location (.file [] (fs.masked 0o666)))
  | some (.file _ mode) => return (location, ← fs.replaceAt location [] mode)
  | some (.dir _) => .error .isADirectory

/-- `fs::rename` of a file. -/
def rename (source target : Path) : Except FsError FileSystem := do
  let origin ← fs.resolve source
  let destination ← fs.resolve target
  match fs.nodes origin with
  | none => .error .notFound
  | some (.dir _) => .error .isADirectory
  | some (.file content mode) =>
    if origin = destination then .ok fs
    else (← fs.replaceAt destination content mode).removeAt origin

/-- `fs::remove_file`. -/
def removeFile (path : Path) : Except FsError FileSystem := do
  fs.removeAt (← fs.resolve path)

/-- `fs::create_dir_all`, along the components from the last one on. -/
def createDirAllRev (absolute : Bool) : List Component → FileSystem →
    Except FsError Unit × FileSystem
  | [], fs => (.ok (), fs)
  | component :: rest, fs =>
    let path : Path := ⟨absolute, (component :: rest).reverse⟩
    match fs.mkdir path with
    | .ok fs' => (.ok (), fs')
    | .error .notFound =>
      match createDirAllRev absolute rest fs with
      | (.error e, fs') => (.error e, fs')
      | (.ok (), fs') =>
        match fs'.mkdir path with
        | .ok fs'' => (.ok (), fs'')
        | .error e => if fs'.isDir path then (.ok (), fs') else (.error e, fs')
    | .error e => if fs.isDir path then (.ok (), fs) else (.error e, fs)

/-- `fs::create_dir_all`. Directories that were made stay when a later one cannot be made. -/
def createDirAll (path : Path) : Except FsError Unit × FileSystem :=
  createDirAllRev path.absolute path.components.reverse fs

/-- The file system once the directories of a path were made. -/
def withParent (path : Path) : FileSystem :=
  match path.parent with
  | none => fs
  | some parent => (fs.createDirAll parent).2

/-! ## What a change leaves alone -/

/-- One entry has changed, and nothing else. -/
structure Changed (location : Location) (node : Option Node) (fs' : FileSystem) : Prop where
  nodes : fs'.nodes = Function.update fs.nodes location node
  cwd : fs'.cwd = fs.cwd
  umask : fs'.umask = fs.umask

variable {fs} {fs' : FileSystem} {location : Location}

/-- What `put` does. -/
theorem changed_put {node : Option Node} (h : fs.Fits location node) :
    fs.Changed location node (fs.put location node h) := ⟨rfl, rfl, rfl⟩

/-- What is at the location after the change. -/
theorem Changed.nodes_self {node : Option Node} (h : fs.Changed location node fs') :
    fs'.nodes location = node := by
  rw [h.nodes, Function.update_self]

/-- What is elsewhere after the change. -/
theorem Changed.nodes_of_ne {node : Option Node} (h : fs.Changed location node fs')
    {other : Location} (hne : other ≠ location) : fs'.nodes other = fs.nodes other := by
  rw [h.nodes, Function.update_of_ne hne]

/-- A new entry is made where there was none, in a directory. -/
theorem changed_of_createAt {node : Node} (h : fs.createAt location node = .ok fs') :
    fs.nodes location = none ∧ DirAt fs.nodes location.dropLast ∧
      fs.Changed location (some node) fs' := by
  unfold createAt at h
  split_ifs at h with hnew hparent
  cases h
  exact ⟨hnew, hparent, changed_put _⟩

/-- A new entry can be made where there is none, in a directory. -/
theorem createAt_ok (node : Node) (hnew : fs.nodes location = none)
    (hparent : DirAt fs.nodes location.dropLast) :
    ∃ fs', fs.createAt location node = .ok fs' ∧ fs.Changed location (some node) fs' := by
  unfold createAt
  rw [dif_pos hnew, dif_pos hparent]
  exact ⟨_, rfl, changed_put _⟩

/-- The mode of an entry that exists can be changed. -/
theorem chmodAt_ok {node : Node} (hnode : fs.nodes location = some node) (mode : ℕ) :
    ∃ fs', fs.chmodAt location mode = .ok fs' ∧
      fs.Changed location (some (node.chmod mode)) fs' := by
  unfold chmodAt
  split
  · next h => exact nomatch h.symm.trans hnode
  · next node' h =>
    obtain rfl : node' = node := Option.some.inj (h.symm.trans hnode)
    exact ⟨_, rfl, changed_put _⟩

/-- Only the mode of the entry changes. -/
theorem changed_of_chmodAt {mode : ℕ} (h : fs.chmodAt location mode = .ok fs') :
    ∃ node, fs.nodes location = some node ∧
      fs.Changed location (some (node.chmod mode)) fs' := by
  unfold chmodAt at h
  split at h
  · cases h
  · next node hnode =>
    cases h
    exact ⟨node, hnode, changed_put _⟩

/-- Only the content of the file changes. -/
theorem writeAt_changed {old : List UInt8} {mode : ℕ}
    (hfile : fs.nodes location = some (.file old mode)) (content : List UInt8) :
    fs.Changed location (some (.file content mode)) (fs.writeAt location content) := by
  unfold writeAt
  split
  · next old' mode' h =>
    obtain ⟨-, rfl⟩ : old' = old ∧ mode' = mode := by simpa using h.symm.trans hfile
    exact changed_put _
  · next h => exact absurd hfile (h old mode)

/-- A file can be removed. -/
theorem removeAt_ok {content : List UInt8} {mode : ℕ}
    (hfile : fs.nodes location = some (.file content mode)) :
    ∃ fs', fs.removeAt location = .ok fs' ∧ fs.Changed location none fs' := by
  unfold removeAt
  split
  · next h => exact nomatch h.symm.trans hfile
  · next h => exact nomatch h.symm.trans hfile
  · exact ⟨_, rfl, changed_put _⟩

/-- What was removed was a file. -/
theorem changed_of_removeAt (h : fs.removeAt location = .ok fs') :
    (∃ content mode, fs.nodes location = some (.file content mode)) ∧
      fs.Changed location none fs' := by
  unfold removeAt at h
  split at h
  · cases h
  · cases h
  · next content mode hfile =>
    cases h
    exact ⟨⟨content, mode, hfile⟩, changed_put _⟩

/-- A file can take the place of what is no directory. -/
theorem replaceAt_ok (content : List UInt8) (mode : ℕ) (hdir : ¬DirAt fs.nodes location)
    (hparent : DirAt fs.nodes location.dropLast) :
    ∃ fs', fs.replaceAt location content mode = .ok fs' ∧
      fs.Changed location (some (.file content mode)) fs' := by
  unfold replaceAt
  rw [dif_neg hdir, dif_pos hparent]
  exact ⟨_, rfl, changed_put _⟩

/-- What was replaced was no directory. -/
theorem changed_of_replaceAt {content : List UInt8} {mode : ℕ}
    (h : fs.replaceAt location content mode = .ok fs') :
    ¬DirAt fs.nodes location ∧ fs.Changed location (some (.file content mode)) fs' := by
  unfold replaceAt at h
  split_ifs at h with hdir hparent
  cases h
  exact ⟨hdir, changed_put _⟩

/-! ## What lookups depend on -/

/-- The location that a path spells depends on the working directory alone. -/
theorem locate_congr (hcwd : fs'.cwd = fs.cwd) : fs'.locate = fs.locate := by
  funext path
  simp [locate, origin, hcwd]

/-- Directories stay directories. -/
structure KeepsDirs (fs fs' : FileSystem) : Prop where
  cwd : fs'.cwd = fs.cwd
  dirs : ∀ location, DirAt fs.nodes location → DirAt fs'.nodes location

/-- A change that leaves a directory where there was one keeps the directories. -/
theorem Changed.keepsDirs {node : Option Node} (h : fs.Changed location node fs')
    (hdir : DirAt fs.nodes location → ∃ mode, node = some (.dir mode)) : KeepsDirs fs fs' := by
  refine ⟨h.cwd, fun other hother => ?_⟩
  by_cases heq : other = location
  · subst heq
    obtain ⟨mode, rfl⟩ := hdir hother
    exact ⟨mode, h.nodes_self⟩
  · obtain ⟨mode, hmode⟩ := hother
    exact ⟨mode, by rw [h.nodes_of_ne heq, hmode]⟩

/-- So does a change where there was none. -/
theorem Changed.keepsDirs_of_not_dirAt {node : Option Node} (h : fs.Changed location node fs')
    (hdir : ¬DirAt fs.nodes location) : KeepsDirs fs fs' :=
  h.keepsDirs fun hd => absurd hd hdir

/-- A component is entered from a directory. -/
theorem enter_eq_ok_iff {component : Component} {target : Location} :
    fs.enter location component = .ok target ↔
      DirAt fs.nodes location ∧ target = location.enter component := by
  unfold enter DirAt
  split
  · next h => simp [h]
  · next h => simp [h]
  · next mode h => simp [h, eq_comm]

/-- One more component. -/
theorem walk_concat (absolute : Bool) (components : List Component) (component : Component) :
    fs.walk ⟨absolute, components ++ [component]⟩ =
      (fs.walk ⟨absolute, components⟩ >>= fun location => fs.enter location component) := by
  simp only [walk, List.foldlM_append, List.foldlM_cons, List.foldlM_nil, bind_pure]
  rfl

/-- One more component that is entered. -/
theorem walk_concat_eq_ok_iff {absolute : Bool} {components : List Component}
    {component : Component} {target : Location} :
    fs.walk ⟨absolute, components ++ [component]⟩ = .ok target ↔
      ∃ location, fs.walk ⟨absolute, components⟩ = .ok location ∧ DirAt fs.nodes location ∧
        target = location.enter component := by
  rw [walk_concat]
  cases fs.walk ⟨absolute, components⟩ with
  | error e => simp [bind, Except.bind]
  | ok location => simp [bind, Except.bind, enter_eq_ok_iff]

/-- A path that leads somewhere leads where its components say. -/
theorem locate_of_walk {absolute : Bool} {components : List Component} {target : Location}
    (h : fs.walk ⟨absolute, components⟩ = .ok target) :
    target = fs.locate ⟨absolute, components⟩ := by
  -- A walk goes on at its end, so the induction is on the last component.
  induction components using List.reverseRecOn generalizing target with
  | nil => exact (Except.ok.inj h).symm
  | append_singleton components component ih =>
    obtain ⟨location, hlocation, -, rfl⟩ := walk_concat_eq_ok_iff.1 h
    rw [ih hlocation]
    simp [locate, origin]

/-- A path that leads somewhere leads there while directories stay directories. -/
theorem KeepsDirs.walk (hkeeps : KeepsDirs fs fs') {absolute : Bool} {components : List Component}
    {target : Location} (h : fs.walk ⟨absolute, components⟩ = .ok target) :
    fs'.walk ⟨absolute, components⟩ = .ok target := by
  induction components using List.reverseRecOn generalizing target with
  | nil =>
    rw [← h]
    simp [FileSystem.walk, origin, hkeeps.cwd]
  | append_singleton components component ih =>
    obtain ⟨location, hlocation, hdir, rfl⟩ := walk_concat_eq_ok_iff.1 h
    exact walk_concat_eq_ok_iff.2 ⟨location, ih hlocation, hkeeps.dirs location hdir, rfl⟩

/-- The location of a path that is not empty. -/
theorem resolve_eq_ok_iff {path : Path} {target : Location} :
    fs.resolve path = .ok target ↔ path ≠ .empty ∧ fs.walk path = .ok target := by
  unfold resolve
  split_ifs with h
  · simp [h]
  · simp [h]

/-- A path that leads somewhere leads where its components say. -/
theorem locate_of_resolve {path : Path} {target : Location} (h : fs.resolve path = .ok target) :
    target = fs.locate path := locate_of_walk (resolve_eq_ok_iff.1 h).2

/-- A path that leads somewhere leads there while directories stay directories. -/
theorem KeepsDirs.resolve (hkeeps : KeepsDirs fs fs') {path : Path} {target : Location}
    (h : fs.resolve path = .ok target) : fs'.resolve path = .ok target := by
  obtain ⟨hne, hwalk⟩ := resolve_eq_ok_iff.1 h
  exact resolve_eq_ok_iff.2 ⟨hne, hkeeps.walk hwalk⟩

/-- What a path is found to be. -/
theorem metadata_eq_ok_iff {path : Path} {node : Node} :
    fs.metadata path = .ok node ↔
      ∃ location, fs.resolve path = .ok location ∧ fs.nodes location = some node := by
  unfold metadata
  cases fs.resolve path with
  | error e => simp [bind, Except.bind]
  | ok location =>
    cases h : fs.nodes location with
    | none => simp [bind, Except.bind, h]
    | some node' => simp [bind, Except.bind, h]

/-! ## Directories that are made -/

/-- Directories have been made where there was nothing, and nothing else has happened. -/
structure Extends (fs fs' : FileSystem) : Prop where
  cwd : fs'.cwd = fs.cwd
  umask : fs'.umask = fs.umask
  nodes : ∀ location, fs'.nodes location = fs.nodes location ∨
    fs.nodes location = none ∧ fs'.nodes location = some (.dir (fs.masked 0o777))

namespace Extends

/-- Nothing has happened. -/
protected theorem refl (fs : FileSystem) : Extends fs fs := ⟨rfl, rfl, fun _ => .inl rfl⟩

/-- One directory after the other. -/
protected theorem trans {fs fs' fs'' : FileSystem} (h : Extends fs fs') (h' : Extends fs' fs'') :
    Extends fs fs'' := by
  refine ⟨h'.cwd.trans h.cwd, h'.umask.trans h.umask, fun location => ?_⟩
  have hmasked : fs'.masked 0o777 = fs.masked 0o777 := by simp only [masked, h.umask]
  rcases h'.nodes location with heq' | ⟨hnone', hnew'⟩
  · rw [heq']
    exact h.nodes location
  · rcases h.nodes location with heq | ⟨hnone, hnew⟩
    · exact .inr ⟨heq ▸ hnone', hmasked ▸ hnew'⟩
    · exact nomatch hnone'.symm.trans hnew

/-- What was there is there. -/
theorem nodes_of_some {fs fs' : FileSystem} (h : Extends fs fs') {location : Location} {node : Node}
    (hnode : fs.nodes location = some node) : fs'.nodes location = some node := by
  rcases h.nodes location with heq | ⟨hnone, -⟩
  · rw [heq, hnode]
  · exact nomatch hnone.symm.trans hnode

/-- A file that is there was there. -/
theorem nodes_of_file {fs fs' : FileSystem} (h : Extends fs fs') {location : Location}
    {content : List UInt8} {mode : ℕ} (hnode : fs'.nodes location = some (.file content mode)) :
    fs.nodes location = some (.file content mode) := by
  rcases h.nodes location with heq | ⟨-, hnew⟩
  · rw [← heq, hnode]
  · exact nomatch hnew.symm.trans hnode

/-- Directories stay directories. -/
theorem keepsDirs {fs fs' : FileSystem} (h : Extends fs fs') : KeepsDirs fs fs' := by
  refine ⟨h.cwd, fun location hdir => ?_⟩
  obtain ⟨mode, hmode⟩ := hdir
  exact ⟨mode, h.nodes_of_some hmode⟩

end Extends

/-- The components of a path lead to a directory. -/
def LeadsToDir (fs : FileSystem) (path : Path) : Prop :=
  ∃ location, fs.walk path = .ok location ∧ DirAt fs.nodes location

/-- A path that leads to a directory goes on doing so. -/
theorem LeadsToDir.mono {path : Path} (h : fs.LeadsToDir path) (hkeeps : KeepsDirs fs fs') :
    fs'.LeadsToDir path := by
  obtain ⟨location, hwalk, hdir⟩ := h
  exact ⟨location, hkeeps.walk hwalk, hkeeps.dirs location hdir⟩

/-- The path on the way to a directory leads to a directory. -/
theorem LeadsToDir.of_concat {absolute : Bool} {components : List Component} {component : Component}
    (h : fs.LeadsToDir ⟨absolute, components ++ [component]⟩) :
    fs.LeadsToDir ⟨absolute, components⟩ := by
  obtain ⟨location, hwalk, -⟩ := h
  obtain ⟨before, hbefore, hdir, -⟩ := walk_concat_eq_ok_iff.1 hwalk
  exact ⟨before, hbefore, hdir⟩

/-- A path without components leads to the directory that it starts in. -/
theorem leadsToDir_nil (fs : FileSystem) (absolute : Bool) : fs.LeadsToDir ⟨absolute, []⟩ := by
  refine ⟨fs.origin ⟨absolute, []⟩, rfl, ?_⟩
  cases absolute with
  | false => exact fs.cwd_dir
  | true => exact fs.root_dir

/-- A path is found to be a directory exactly when it is not empty and leads to one. -/
theorem metadata_dir_iff {path : Path} :
    (∃ mode, fs.metadata path = .ok (.dir mode)) ↔ path ≠ .empty ∧ fs.LeadsToDir path := by
  simp only [metadata_eq_ok_iff, resolve_eq_ok_iff, LeadsToDir, DirAt]
  constructor
  · rintro ⟨mode, location, ⟨hne, hwalk⟩, hnode⟩
    exact ⟨hne, location, hwalk, mode, hnode⟩
  · rintro ⟨hne, location, hwalk, mode, hnode⟩
    exact ⟨mode, location, ⟨hne, hwalk⟩, hnode⟩

/-- A path is found to be a directory. -/
theorem isDir_iff {path : Path} :
    fs.isDir path = true ↔ path ≠ .empty ∧ fs.LeadsToDir path := by
  have hmeta : fs.isDir path = true ↔ ∃ mode, fs.metadata path = .ok (.dir mode) := by
    unfold isDir
    cases fs.metadata path with
    | error e => simp
    | ok node => cases node <;> simp [Node.isDir]
  rw [hmeta, metadata_dir_iff]

/-- Directories have been made on the way to a path, and nothing else has happened. -/
structure MakesDirs (fs : FileSystem) (path : Path) (fs' : FileSystem) : Prop where
  extend : Extends fs fs'
  onWay : ∀ location, fs'.nodes location ≠ fs.nodes location →
    ∃ before, before <+: path.components ∧ location = fs.locate ⟨path.absolute, before⟩

namespace MakesDirs

/-- Nothing has happened. -/
protected theorem refl (fs : FileSystem) (path : Path) : MakesDirs fs path fs :=
  ⟨.refl fs, fun _ hne => absurd rfl hne⟩

/-- One directory after the other. -/
protected theorem trans {path : Path} {fs'' : FileSystem} (h : MakesDirs fs path fs')
    (h' : MakesDirs fs' path fs'') : MakesDirs fs path fs'' := by
  refine ⟨h.extend.trans h'.extend, fun location hne => ?_⟩
  by_cases heq : fs'.nodes location = fs.nodes location
  · obtain ⟨before, hbefore, hlocation⟩ := h'.onWay location (heq ▸ hne)
    exact ⟨before, hbefore, by rw [hlocation, locate_congr h.extend.cwd]⟩
  · exact h.onWay location heq

/-- The way goes on. -/
theorem further {absolute : Bool} {before components : List Component}
    (h : MakesDirs fs ⟨absolute, before⟩ fs') (hpre : before <+: components) :
    MakesDirs fs ⟨absolute, components⟩ fs' := by
  refine ⟨h.extend, fun location hne => ?_⟩
  obtain ⟨before', hbefore', hlocation⟩ := h.onWay location hne
  exact ⟨before', hbefore'.trans hpre, hlocation⟩

end MakesDirs

/-- `mkdir` makes one directory, where its path leads. -/
theorem makesDirs_of_mkdir {path : Path} (h : fs.mkdir path = .ok fs') :
    MakesDirs fs path fs' ∧ fs'.LeadsToDir path := by
  obtain ⟨location, hresolve, hcreate⟩ := except_bind_eq_ok.1 h
  obtain ⟨hnew, -, hchanged⟩ := changed_of_createAt hcreate
  have hextends : Extends fs fs' := by
    refine ⟨hchanged.cwd, hchanged.umask, fun other => ?_⟩
    by_cases heq : other = location
    · subst heq
      exact .inr ⟨hnew, hchanged.nodes_self⟩
    · exact .inl (hchanged.nodes_of_ne heq)
  -- The only entry that has changed is the last one on the way.
  have honWay : ∀ other, fs'.nodes other ≠ fs.nodes other →
      ∃ before, before <+: path.components ∧ other = fs.locate ⟨path.absolute, before⟩ := by
    intro other hne
    have heq : other = location := by
      by_contra hother
      exact hne (hchanged.nodes_of_ne hother)
    exact ⟨path.components, List.prefix_refl _, heq.trans (locate_of_resolve hresolve)⟩
  have hwalk := (resolve_eq_ok_iff.1 hresolve).2
  exact ⟨⟨hextends, honWay⟩, location, hextends.keepsDirs.walk hwalk, _, hchanged.nodes_self⟩

/-- `create_dir_all` makes directories on the way, whether or not it succeeds. When it succeeds, the
path leads to a directory. -/
theorem createDirAllRev_spec (absolute : Bool) (components : List Component) (fs : FileSystem) :
    MakesDirs fs ⟨absolute, components.reverse⟩ (createDirAllRev absolute components fs).2 ∧
      ((createDirAllRev absolute components fs).1 = .ok () →
        (createDirAllRev absolute components fs).2.LeadsToDir
          ⟨absolute, components.reverse⟩) := by
  -- The induction is on what is left of the path, whose last component comes first.
  induction components generalizing fs with
  | nil => exact ⟨.refl fs _, fun _ => fs.leadsToDir_nil absolute⟩
  | cons component rest ih =>
    rw [createDirAllRev]
    split
    · next fs' hmkdir =>
      obtain ⟨hmakes, hdir⟩ := makesDirs_of_mkdir hmkdir
      exact ⟨hmakes, fun _ => hdir⟩
    · -- The parent is missing: it is made first, and then `mkdir` is tried again.
      have hpre : rest.reverse <+: (component :: rest).reverse := by
        rw [List.reverse_cons]
        exact List.prefix_append _ _
      have hmakes := (ih fs).1.further hpre
      split
      · next e fs' hrest =>
        rw [hrest] at hmakes
        exact ⟨hmakes, fun h => nomatch h⟩
      · next fs' hrest =>
        rw [hrest] at hmakes
        split
        · next fs'' hmkdir =>
          obtain ⟨hmakes', hdir⟩ := makesDirs_of_mkdir hmkdir
          exact ⟨hmakes.trans hmakes', fun _ => hdir⟩
        · split_ifs with hdir
          · exact ⟨hmakes, fun _ => (isDir_iff.1 hdir).2⟩
          · exact ⟨hmakes, fun h => nomatch h⟩
    · -- Another error is ignored when the path is a directory already.
      split_ifs with hdir
      · exact ⟨.refl fs _, fun _ => (isDir_iff.1 hdir).2⟩
      · exact ⟨.refl fs _, fun h => nomatch h⟩

/-- `create_dir_all` makes directories on the way, whether or not it succeeds. -/
theorem makesDirs_createDirAll (fs : FileSystem) (path : Path) :
    MakesDirs fs path (fs.createDirAll path).2 := by
  have hmakes := (createDirAllRev_spec path.absolute path.components.reverse fs).1
  rw [List.reverse_reverse] at hmakes
  exact hmakes

/-- `create_dir_all` makes directories, whether or not it succeeds. -/
theorem extends_createDirAll (fs : FileSystem) (path : Path) :
    Extends fs (fs.createDirAll path).2 := (makesDirs_createDirAll fs path).extend

/-- After `create_dir_all`, the path leads to a directory. -/
theorem leadsToDir_of_createDirAll {path : Path} (h : (fs.createDirAll path).1 = .ok ()) :
    (fs.createDirAll path).2.LeadsToDir path := by
  have hdir := (createDirAllRev_spec path.absolute path.components.reverse fs).2 h
  rw [List.reverse_reverse] at hdir
  exact hdir

/-! ## What stood in the way of directories that were made -/

/-- A path that leads somewhere once directories were made led there before, or to nothing: a file
on the way would still be there. -/
theorem Extends.walk_before (h : Extends fs fs') {absolute : Bool} {components : List Component}
    {target : Location} (hwalk : fs'.walk ⟨absolute, components⟩ = .ok target) :
    fs.walk ⟨absolute, components⟩ = .ok target ∨
      fs.walk ⟨absolute, components⟩ = .error .notFound := by
  induction components using List.reverseRecOn generalizing target with
  | nil =>
    rw [← hwalk]
    simp [walk, origin, h.cwd]
  | append_singleton components component ih =>
    obtain ⟨location, hlocation, hdir', rfl⟩ := walk_concat_eq_ok_iff.1 hwalk
    rw [walk_concat]
    rcases ih hlocation with hbefore | hbefore
    · rw [hbefore]
      change fs.enter location component = _ ∨ fs.enter location component = _
      unfold enter
      split
      · exact .inr rfl
      · -- A file in the middle of the way would be there afterwards, too.
        next content mode hfile =>
        obtain ⟨mode', hmode'⟩ := hdir'
        exact nomatch (h.nodes_of_some hfile).symm.trans hmode'
      · exact .inl rfl
    · rw [hbefore]
      exact .inr rfl

/-- A path that leads to a directory once directories were made was one before, or nothing was
there. -/
theorem Extends.metadata_before (h : Extends fs fs') {path : Path} (hdir : fs'.LeadsToDir path) :
    fs.metadata path = .error .notFound ∨ ∃ mode, fs.metadata path = .ok (.dir mode) := by
  obtain ⟨location, hwalk, mode', hmode'⟩ := hdir
  have hresolve : fs.resolve path = .ok location ∨ fs.resolve path = .error .notFound := by
    unfold resolve
    split_ifs
    · exact .inr rfl
    · exact h.walk_before hwalk
  unfold metadata
  rcases hresolve with hresolve | hresolve
  · rw [hresolve]
    rcases h.nodes location with heq | ⟨hnone, -⟩
    · rw [heq] at hmode'
      exact .inr ⟨mode', by simp [bind, Except.bind, hmode']⟩
    · exact .inl (by simp [bind, Except.bind, hnone])
  · rw [hresolve]
    exact .inl rfl

/-- The paths on the way to a directory lead to directories. -/
theorem LeadsToDir.before {absolute : Bool} {components before : List Component}
    (h : fs.LeadsToDir ⟨absolute, components⟩) (hpre : before <+: components) :
    fs.LeadsToDir ⟨absolute, before⟩ := by
  obtain ⟨after, rfl⟩ := hpre
  induction after using List.reverseRecOn with
  | nil => rwa [List.append_nil] at h
  | append_singleton after component ih =>
    rw [← List.append_assoc] at h
    exact ih h.of_concat

/-- The mode of a directory can be changed by any path to it. -/
theorem setPermissions_ok {path : Path} (hne : path ≠ .empty) (hdir : fs.LeadsToDir path)
    (mode : ℕ) :
    ∃ fs', fs.setPermissions path mode = .ok fs' ∧
      fs.Changed (fs.locate path) (some (.dir mode)) fs' := by
  obtain ⟨location, hwalk, mode', hmode'⟩ := hdir
  obtain rfl := locate_of_walk hwalk
  obtain ⟨fs', hchmod, hchanged⟩ := chmodAt_ok hmode' mode
  refine ⟨fs', ?_, hchanged⟩
  unfold setPermissions
  rw [resolve_eq_ok_iff.2 ⟨hne, hwalk⟩]
  exact hchmod

/-! ## The bytes of files -/

/-- The bytes of the file at a location, if there is one. -/
def fileAt (fs : FileSystem) (location : Location) : Option (List UInt8) :=
  match fs.nodes location with
  | some (.file content _) => some content
  | _ => none

/-- The bytes of a file. -/
theorem fileAt_of_file {content : List UInt8} {mode : ℕ}
    (h : fs.nodes location = some (.file content mode)) : fs.fileAt location = some content := by
  simp [fileAt, h]

/-- The bytes depend on the entry alone. -/
theorem fileAt_congr (h : fs'.nodes location = fs.nodes location) :
    fs'.fileAt location = fs.fileAt location := by
  simp only [fileAt, h]

/-- No file has changed. -/
structure KeepsFiles (fs fs' : FileSystem) : Prop where
  cwd : fs'.cwd = fs.cwd
  files : ∀ location, fs'.fileAt location = fs.fileAt location

namespace KeepsFiles

/-- Nothing has happened. -/
protected theorem refl (fs : FileSystem) : KeepsFiles fs fs := ⟨rfl, fun _ => rfl⟩

/-- One change after the other. -/
protected theorem trans {fs'' : FileSystem} (h : KeepsFiles fs fs') (h' : KeepsFiles fs' fs'') :
    KeepsFiles fs fs'' :=
  ⟨h'.cwd.trans h.cwd, fun location => (h'.files location).trans (h.files location)⟩

end KeepsFiles

/-- Making directories changes no file. -/
theorem Extends.keepsFiles (h : Extends fs fs') : KeepsFiles fs fs' := by
  refine ⟨h.cwd, fun location => ?_⟩
  rcases h.nodes location with heq | ⟨hnone, hnew⟩
  · exact fileAt_congr heq
  · simp [fileAt, hnone, hnew]

/-- The entries are what they were, but for their modes. -/
structure SameButModes (fs fs' : FileSystem) : Prop where
  cwd : fs'.cwd = fs.cwd
  nodes : ∀ location,
    (fs'.nodes location).map (Node.chmod 0) = (fs.nodes location).map (Node.chmod 0)

namespace SameButModes

/-- Nothing has happened. -/
protected theorem refl (fs : FileSystem) : SameButModes fs fs := ⟨rfl, fun _ => rfl⟩

/-- One mode after the other. -/
protected theorem trans {fs'' : FileSystem} (h : SameButModes fs fs')
    (h' : SameButModes fs' fs'') : SameButModes fs fs'' :=
  ⟨h'.cwd.trans h.cwd, fun location => (h'.nodes location).trans (h.nodes location)⟩

/-- The other way round. -/
protected theorem symm (h : SameButModes fs fs') : SameButModes fs' fs :=
  ⟨h.cwd.symm, fun location => (h.nodes location).symm⟩

/-- There is nothing where there was nothing. -/
theorem nodes_eq_none (h : SameButModes fs fs') (hnone : fs.nodes location = none) :
    fs'.nodes location = none := by
  have hnode := h.nodes location
  rw [hnone, Option.map_none, Option.map_eq_none_iff] at hnode
  exact hnode

/-- A directory is one still. -/
theorem keepsDirs (h : SameButModes fs fs') : KeepsDirs fs fs' := by
  refine ⟨h.cwd, fun location hdir => ?_⟩
  obtain ⟨mode, hmode⟩ := hdir
  have hnode := h.nodes location
  rw [hmode, Option.map_some, Option.map_eq_some_iff] at hnode
  obtain ⟨node, hsome, hsame⟩ := hnode
  cases node with
  | dir mode' => exact ⟨mode', hsome⟩
  | file content mode' => cases hsame

/-- No file has changed. -/
theorem keepsFiles (h : SameButModes fs fs') : KeepsFiles fs fs' := by
  refine ⟨h.cwd, fun location => ?_⟩
  have hbytes (fs : FileSystem) : fs.fileAt location =
      match (fs.nodes location).map (Node.chmod 0) with
      | some (.file content _) => some content
      | _ => none := by
    unfold fileAt
    rcases fs.nodes location with _ | ⟨mode⟩ | ⟨content, mode⟩ <;> rfl
  rw [hbytes fs', hbytes fs, h.nodes]

end SameButModes

/-- `set_permissions` changes a mode. -/
theorem sameButModes_of_setPermissions {path : Path} {mode : ℕ}
    (h : fs.setPermissions path mode = .ok fs') : SameButModes fs fs' := by
  obtain ⟨target, -, hchmod⟩ := except_bind_eq_ok.1 h
  obtain ⟨node, hnode, hchanged⟩ := changed_of_chmodAt hchmod
  refine ⟨hchanged.cwd, fun location => ?_⟩
  by_cases heq : location = target
  · subst heq
    cases node <;> simp [hnode, hchanged.nodes_self, Node.chmod]
  · rw [hchanged.nodes_of_ne heq]

/-- A file that is created is new, and it is where its path leads. -/
theorem createNew_eq_ok {path : Path} {mode : ℕ} {file : Location}
    (h : fs.createNew path mode = .ok (file, fs')) :
    fs.resolve path = .ok file ∧ fs.nodes file = none ∧
      fs.Changed file (some (.file [] (fs.masked mode))) fs' := by
  obtain ⟨location, hresolve, hopen⟩ := except_bind_eq_ok.1 h
  obtain ⟨fs₁, hcreate, hreturn⟩ := except_bind_eq_ok.1 hopen
  cases hreturn
  obtain ⟨hnew, -, hchanged⟩ := changed_of_createAt hcreate
  exact ⟨hresolve, hnew, hchanged⟩

/-- What is read is the content of the file that the path leads to. -/
theorem read_eq_ok_iff {path : Path} {content : List UInt8} :
    fs.read path = .ok content ↔
      ∃ location mode, fs.resolve path = .ok location ∧
        fs.nodes location = some (.file content mode) := by
  have hread : fs.read path = .ok content ↔
      ∃ mode, fs.metadata path = .ok (.file content mode) := by
    unfold read
    cases fs.metadata path with
    | error e => simp [bind, Except.bind]
    | ok node => cases node <;> simp [bind, Except.bind]
  rw [hread]
  simp only [metadata_eq_ok_iff]
  exact exists_comm

/-- The mode that a file has when it was opened to be written. -/
def openMode (fs : FileSystem) (location : Location) : ℕ :=
  match fs.nodes location with
  | some (.file _ mode) => mode
  | _ => fs.masked 0o666

/-- A file that is opened is empty, and it is where its path leads. -/
theorem create_eq_ok {path : Path} {file : Location} (h : fs.create path = .ok (file, fs')) :
    fs.resolve path = .ok file ∧ ¬DirAt fs.nodes file ∧
      fs.Changed file (some (.file [] (fs.openMode file))) fs' := by
  obtain ⟨location, hresolve, hopen⟩ := except_bind_eq_ok.1 h
  cases hnode : fs.nodes location with
  | none =>
    -- A new file gets the mode that the umask leaves.
    rw [hnode] at hopen
    obtain ⟨fs₁, hcreate, hreturn⟩ := except_bind_eq_ok.1 hopen
    cases hreturn
    obtain ⟨-, -, hchanged⟩ := changed_of_createAt hcreate
    refine ⟨hresolve, not_dirAt_of_none hnode, ?_⟩
    rw [openMode, hnode]
    exact hchanged
  | some node =>
    rw [hnode] at hopen
    cases node with
    | dir mode => cases hopen
    | file content mode =>
      -- A file that is there keeps its own.
      obtain ⟨fs₁, hreplace, hreturn⟩ := except_bind_eq_ok.1 hopen
      cases hreturn
      obtain ⟨hdir, hchanged⟩ := changed_of_replaceAt hreplace
      refine ⟨hresolve, hdir, ?_⟩
      rw [openMode, hnode]
      exact hchanged

/-- A path that leads to what is no directory leads into one. -/
theorem dirAt_dropLast_of_not_dirAt {path : Path} (h : fs.resolve path = .ok location)
    (hdir : ¬DirAt fs.nodes location) : DirAt fs.nodes location.dropLast := by
  obtain ⟨hne, hwalk⟩ := resolve_eq_ok_iff.1 h
  obtain ⟨absolute, components⟩ := path
  rcases List.eq_nil_or_concat' components with rfl | ⟨before, component, rfl⟩
  · -- Only the root has no components.
    obtain ⟨location', hwalk', hdir'⟩ := fs.leadsToDir_nil absolute
    rw [hwalk] at hwalk'
    cases hwalk'
    exact absurd hdir' hdir
  · obtain ⟨parent, -, hparent, rfl⟩ := walk_concat_eq_ok_iff.1 hwalk
    cases component with
    | curDir => exact absurd hparent hdir
    | normal name =>
      rw [Location.enter, List.dropLast_concat]
      exact hparent
    -- With `..` at its end, the path leads to a directory.
    | parentDir =>
      obtain ⟨mode, hmode⟩ := hparent
      have hexists : fs.nodes parent ≠ none := by simp [hmode]
      rcases fs.dirAt_dropLast hexists with rfl | houter
      · exact absurd fs.root_dir hdir
      · exact absurd houter hdir

/-- A file can be created where there is nothing. -/
theorem createNew_ok {path : Path} (mode : ℕ) (hresolve : fs.resolve path = .ok location)
    (hnew : fs.nodes location = none) :
    ∃ fs', fs.createNew path mode = .ok (location, fs') := by
  obtain ⟨fs', hcreate, -⟩ := createAt_ok (.file [] (fs.masked mode)) hnew
    (dirAt_dropLast_of_not_dirAt hresolve (not_dirAt_of_none hnew))
  refine ⟨fs', ?_⟩
  unfold createNew
  rw [hresolve]
  simp only [bind, Except.bind, hcreate]
  rfl

/-! ## When directories can be made -/

/-- A path that leads to a directory has the location that it spells. -/
theorem LeadsToDir.dirAt_locate {path : Path} (h : fs.LeadsToDir path) :
    DirAt fs.nodes (fs.locate path) := by
  obtain ⟨location, hwalk, hdir⟩ := h
  obtain rfl := locate_of_walk hwalk
  exact hdir

/-- Behind a directory, a path leads to the location that it spells. -/
theorem LeadsToDir.walk_concat {absolute : Bool} {components : List Component}
    (h : fs.LeadsToDir ⟨absolute, components⟩) (component : Component) :
    fs.walk ⟨absolute, components ++ [component]⟩ =
      .ok (fs.locate ⟨absolute, components ++ [component]⟩) := by
  obtain ⟨location, hwalk, hdir⟩ := h
  have hconcat : fs.walk ⟨absolute, components ++ [component]⟩ =
      .ok (location.enter component) := walk_concat_eq_ok_iff.2 ⟨location, hwalk, hdir, rfl⟩
  rw [hconcat, locate_of_walk hconcat]

/-- Nothing on the way to a path is a file. -/
def Clear (fs : FileSystem) (path : Path) : Prop :=
  ∀ before, before <+: path.components → fs.fileAt (fs.locate ⟨path.absolute, before⟩) = none

/-- A path that is clear leads to where it spells, or to nothing. -/
theorem Clear.walk {absolute : Bool} {components : List Component}
    (h : fs.Clear ⟨absolute, components⟩) :
    fs.LeadsToDir ⟨absolute, components⟩ ∨
      ∀ component, fs.walk ⟨absolute, components ++ [component]⟩ = .error .notFound := by
  induction components using List.reverseRecOn with
  | nil => exact .inl (fs.leadsToDir_nil absolute)
  | append_singleton components component ih =>
    have hbefore : fs.Clear ⟨absolute, components⟩ := fun before hpre =>
      h before (hpre.trans (List.prefix_append _ _))
    rcases ih hbefore with hleads | hmissing
    · have hconcat := hleads.walk_concat component
      have hfile := h _ (List.prefix_refl _)
      cases hnode : fs.nodes (fs.locate ⟨absolute, components ++ [component]⟩) with
      -- There is nothing here, so nothing can be entered from here on.
      | none =>
        refine .inr fun next => ?_
        rw [walk_concat, hconcat]
        change fs.enter _ next = _
        rw [enter, hnode]
      | some node =>
        cases node with
        | dir mode => exact .inl ⟨_, hconcat, mode, hnode⟩
        | file content mode => simp [fileAt, hnode] at hfile
    · refine .inr fun next => ?_
      rw [walk_concat, hmissing component]
      rfl

/-- Behind a directory, `mkdir` makes another one unless there is a file. -/
theorem mkdir_or_isDir {absolute : Bool} {components : List Component} {component : Component}
    (hleads : fs.LeadsToDir ⟨absolute, components⟩)
    (hfile : fs.fileAt (fs.locate ⟨absolute, components ++ [component]⟩) = none) :
    (∃ fs', fs.mkdir ⟨absolute, components ++ [component]⟩ = .ok fs') ∨
      fs.mkdir ⟨absolute, components ++ [component]⟩ = .error .alreadyExists ∧
        fs.isDir ⟨absolute, components ++ [component]⟩ = true := by
  have hne : (⟨absolute, components ++ [component]⟩ : Path) ≠ .empty := by simp [Path.empty]
  have hconcat := hleads.walk_concat component
  have hresolve := resolve_eq_ok_iff.2 ⟨hne, hconcat⟩
  unfold mkdir
  rw [hresolve]
  cases hnode : fs.nodes (fs.locate ⟨absolute, components ++ [component]⟩) with
  | none =>
    obtain ⟨fs', hcreate, -⟩ := createAt_ok (.dir (fs.masked 0o777)) hnode
      (dirAt_dropLast_of_not_dirAt hresolve (not_dirAt_of_none hnode))
    exact .inl ⟨fs', hcreate⟩
  | some node =>
    cases node with
    | dir mode =>
      refine .inr ⟨?_, isDir_iff.2 ⟨hne, _, hconcat, mode, hnode⟩⟩
      change fs.createAt _ _ = _
      rw [createAt, dif_neg (by simp [hnode])]
    | file content mode => simp [fileAt, hnode] at hfile

/-- Directories that were made leave a path clear. -/
theorem Clear.mono {path : Path} (h : fs.Clear path) (hextends : Extends fs fs') :
    fs'.Clear path := by
  intro before hpre
  rw [locate_congr hextends.cwd, hextends.keepsFiles.files]
  exact h before hpre

/-- `create_dir_all` succeeds on a path that is clear. -/
theorem createDirAllRev_ok (absolute : Bool) (components : List Component)
    (h : fs.Clear ⟨absolute, components.reverse⟩) :
    (createDirAllRev absolute components fs).1 = .ok () := by
  induction components with
  | nil => rfl
  | cons component rest ih =>
    rw [List.reverse_cons] at h
    have hrest : fs.Clear ⟨absolute, rest.reverse⟩ := fun before hpre =>
      h before (hpre.trans (List.prefix_append _ _))
    rw [createDirAllRev, List.reverse_cons]
    rcases hrest.walk with hleads | hmissing
    · rcases mkdir_or_isDir hleads (h _ (List.prefix_refl _)) with ⟨fs', hmkdir⟩ | ⟨hmkdir, hdir⟩
      · rw [hmkdir]
      · simp only [hmkdir, hdir, if_true]
    · -- The directories before the last one are made first.
      have hmkdir : fs.mkdir ⟨absolute, rest.reverse ++ [component]⟩ = .error .notFound := by
        unfold mkdir resolve
        rw [if_neg (by simp [Path.empty]), hmissing component]
        rfl
      obtain ⟨hmakes, hleads⟩ := createDirAllRev_spec absolute rest fs
      rcases hmade : createDirAllRev absolute rest fs with ⟨outcome, fs₁⟩
      have hok := ih hrest
      rw [hmade] at hok hmakes hleads
      obtain rfl : outcome = .ok () := hok
      simp only [hmkdir]
      -- The directories that were made are no files, so the path is clear still.
      have hclear := h.mono hmakes.extend
      rcases mkdir_or_isDir (hleads rfl) (hclear _ (List.prefix_refl _)) with
        ⟨fs', hmkdir'⟩ | ⟨hmkdir', hdir⟩
      · rw [hmkdir']
      · simp only [hmkdir', hdir, if_true]

/-- `create_dir_all` succeeds exactly when nothing on the way is a file. -/
theorem createDirAll_ok_iff {path : Path} : (fs.createDirAll path).1 = .ok () ↔ fs.Clear path := by
  constructor
  · intro hok before hpre
    have hextends := extends_createDirAll fs path
    -- All on the way are directories then, and no file has become one.
    have hleads := (leadsToDir_of_createDirAll hok).before hpre
    obtain ⟨mode, hmode⟩ := hleads.dirAt_locate
    rw [locate_congr hextends.cwd] at hmode
    rw [← hextends.keepsFiles.files]
    simp [fileAt, hmode]
  · intro hclear
    refine createDirAllRev_ok path.absolute path.components.reverse ?_
    rw [List.reverse_reverse]
    exact hclear

end FileSystem

end PlayitAgent
