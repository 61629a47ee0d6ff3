import PlayitAgent.Runtime.SecretFile

/-!
# The directories of the secret file

`ensure_secret_parent` walks from the directory of the secret file towards the root until there is a
directory, has `create_dir_all` make the ones that are missing, and closes them to others. The walk
goes over the components of the path. It takes what it passes for what will be made, and that fails
in two ways: the empty path at the end of a relative path is never found, and cannot be closed, and
behind a missing directory `..` leads back to one that exists.
-/

namespace PlayitAgent

namespace SecretFile

open FileSystem Fallible

variable {fs fs' : FileSystem}

/-! ## The walk -/

/-- The paths of an outer directory and of those on the way to it. -/
def IsAncestor (parent ancestor : Path) : Prop :=
  ancestor.absolute = parent.absolute ∧ ancestor.components <+: parent.components ∧
    ancestor ≠ .empty

/-- Where every path on the way is a directory or is not found. -/
def Found (fs : FileSystem) (absolute : Bool) (components : List Component) : Prop :=
  ∀ before, before <+: components →
    fs.metadata ⟨absolute, before⟩ = .error .notFound ∨
      ∃ mode, fs.metadata ⟨absolute, before⟩ = .ok (.dir mode)

/-- What the walk has collected: the paths on the way that are not found, and the empty path if no
path on the way was found. -/
structure Collected (fs : FileSystem) (absolute : Bool) (components : List Component)
    (directories : List Path) : Prop where
  missing : ∀ directory ∈ directories, directory.absolute = absolute ∧
    directory.components <+: components ∧ fs.metadata directory = .error .notFound
  complete : ∀ before, before <+: components → ⟨absolute, before⟩ ≠ Path.empty →
    fs.metadata ⟨absolute, before⟩ = .error .notFound → ⟨absolute, before⟩ ∈ directories
  empty : Path.empty ∈ directories ↔ absolute = false ∧
    ∀ before, before <+: components → fs.metadata ⟨absolute, before⟩ = .error .notFound

/-- Nothing is collected at a directory: the paths on the way to it are directories, too. -/
theorem collected_nil {absolute : Bool} {components : List Component} {mode : ℕ}
    (hdir : fs.metadata ⟨absolute, components⟩ = .ok (.dir mode)) :
    Collected fs absolute components [] := by
  refine ⟨fun directory h => absurd h List.not_mem_nil, ?_, ?_⟩
  · intro before hbefore hne hmissing
    -- A path on the way to a directory is one, so it is not missing.
    obtain ⟨-, hleads⟩ := metadata_dir_iff.1 ⟨mode, hdir⟩
    obtain ⟨mode', hmode'⟩ := metadata_dir_iff.2 ⟨hne, hleads.before hbefore⟩
    exact nomatch hmissing.symm.trans hmode'
  · simp only [List.not_mem_nil, false_iff, not_and]
    intro _ hall
    exact nomatch (hall components (List.prefix_refl _)).symm.trans hdir

/-- One more path that is not found. -/
theorem Collected.cons {absolute : Bool} {components : List Component} {component : Component}
    {directories : List Path} (h : Collected fs absolute components directories)
    (hmissing : fs.metadata ⟨absolute, components ++ [component]⟩ = .error .notFound) :
    Collected fs absolute (components ++ [component])
      (⟨absolute, components ++ [component]⟩ :: directories) := by
  have hne : (⟨absolute, components ++ [component]⟩ : Path) ≠ .empty := by simp [Path.empty]
  refine ⟨?_, ?_, ?_⟩
  · intro directory hdirectory
    rcases List.mem_cons.1 hdirectory with rfl | hdirectory
    · exact ⟨rfl, List.prefix_refl _, hmissing⟩
    · obtain ⟨habsolute, hpre, hfound⟩ := h.missing directory hdirectory
      exact ⟨habsolute, hpre.trans (List.prefix_append _ _), hfound⟩
  · intro before hbefore hbne hbmissing
    rcases List.prefix_concat_iff.1 hbefore with rfl | hbefore
    · exact List.mem_cons_self
    · exact List.mem_cons_of_mem _ (h.complete before hbefore hbne hbmissing)
  · rw [List.mem_cons, or_iff_right hne.symm, h.empty]
    refine and_congr_right fun _ => ⟨fun hall before hbefore => ?_, fun hall before hbefore => ?_⟩
    · rcases List.prefix_concat_iff.1 hbefore with rfl | hbefore
      · exact hmissing
      · exact hall before hbefore
    · exact hall before (hbefore.trans (List.prefix_append _ _))

/-- A path that is not found. -/
theorem inspectDirectory_missing {path : Path} (n : ℕ)
    (h : fs.metadata path = .error .notFound) : inspectDirectory none fs path n = .ok false := by
  simp [inspectDirectory, h]

/-- A path that is found to be a directory. -/
theorem inspectDirectory_dir {path : Path} {mode : ℕ} (n : ℕ)
    (h : fs.metadata path = .ok (.dir mode)) : inspectDirectory none fs path n = .ok true := by
  simp [inspectDirectory, h]

/-- The walk succeeds where every path on the way is a directory or is not found. -/
theorem missingDirectories_ok (absolute : Bool) (components : List Component) (n : ℕ)
    (hfound : Found fs absolute components.reverse) :
    ∃ directories, missingDirectories none fs absolute components n = .ok directories ∧
      Collected fs absolute components.reverse directories := by
  -- The induction is on the components that are left, of which the last one comes first.
  induction components generalizing n with
  | nil =>
    rw [missingDirectories]
    rcases hfound [] (List.prefix_refl _) with hmissing | ⟨mode, hdir⟩
    · -- A path without components that is not found is the empty one.
      rw [inspectDirectory_missing n hmissing]
      refine ⟨_, rfl, ?_, ?_, ?_⟩
      · intro directory h
        obtain rfl := List.mem_singleton.1 h
        exact ⟨rfl, List.prefix_refl _, hmissing⟩
      · intro before hbefore _ _
        rw [List.prefix_nil.1 hbefore]
        exact List.mem_singleton.2 rfl
      · simp only [List.mem_singleton, Path.empty, Path.mk.injEq, List.reverse_nil,
          List.prefix_nil, forall_eq, hmissing, and_true]
        exact eq_comm
    · rw [inspectDirectory_dir n hdir]
      exact ⟨[], rfl, collected_nil hdir⟩
  | cons component rest ih =>
    rw [missingDirectories]
    rw [List.reverse_cons] at hfound ⊢
    rcases hfound _ (List.prefix_refl _) with hmissing | ⟨mode, hdir⟩
    · obtain ⟨directories, hrest, hcollected⟩ := ih (n + 1) fun before hbefore =>
        hfound before (hbefore.trans (List.prefix_append _ _))
      rw [inspectDirectory_missing n hmissing, hrest]
      exact ⟨_, rfl, hcollected.cons hmissing⟩
    · rw [inspectDirectory_dir n hdir]
      exact ⟨[], rfl, collected_nil hdir⟩

/-! ## Closing the directories -/

/-- Without a fault, a directory is closed when its mode can be changed. -/
theorem exec_secureDirectories_cons {directory : Path} {rest : List Path} {n : ℕ}
    (h : fs.setPermissions directory 0o700 = .ok fs') :
    (secureDirectories none (directory :: rest) n).exec fs =
      (secureDirectories none rest (n + 1)).exec fs' := by
  have hcommand (message : String) : (command none (.secureDirectory n) message
      (·.setPermissions directory 0o700)).exec fs = (.ok (), fs') := exec_command_ok h
  rw [secureDirectories, exec_bind, hcommand]

/-- Directories that were closed to others, and nothing else. -/
structure Closed (fs : FileSystem) (locations : List Location) (fs' : FileSystem) : Prop where
  cwd : fs'.cwd = fs.cwd
  inside : ∀ location ∈ locations, fs'.nodes location = some (.dir 0o700)
  outside : ∀ location, location ∉ locations → fs'.nodes location = fs.nodes location

/-- Every path to a directory can be closed. -/
theorem secureDirectories_ok (directories : List Path) (n : ℕ)
    (h : ∀ directory ∈ directories, directory ≠ .empty ∧ fs.LeadsToDir directory) :
    ∃ fs', (secureDirectories none directories n).exec fs = (.ok (), fs') ∧
      Closed fs (directories.map fs.locate) fs' := by
  induction directories generalizing n fs with
  | nil => exact ⟨fs, rfl, rfl, fun l hl => absurd hl List.not_mem_nil, fun _ _ => rfl⟩
  | cons directory rest ih =>
    obtain ⟨hne, hleads⟩ := h directory List.mem_cons_self
    obtain ⟨fs₁, hset, hchanged⟩ := setPermissions_ok hne hleads 0o700
    -- The other paths still lead to directories when this one is closed.
    have hkeeps : KeepsDirs fs fs₁ := hchanged.keepsDirs fun _ => ⟨_, rfl⟩
    obtain ⟨fs', hexec, hclosed⟩ := @ih fs₁ (n + 1) fun d hd =>
      ⟨(h d (List.mem_cons_of_mem _ hd)).1, (h d (List.mem_cons_of_mem _ hd)).2.mono hkeeps⟩
    rw [locate_congr hchanged.cwd] at hclosed
    refine ⟨fs', ?_, hclosed.cwd.trans hchanged.cwd, ?_, ?_⟩
    · rw [exec_secureDirectories_cons hset]
      exact hexec
    · intro location hlocation
      by_cases hrest : location ∈ rest.map fs.locate
      · exact hclosed.inside location hrest
      · -- The first directory, which the rest leaves alone.
        obtain rfl : location = fs.locate directory := by
          rcases List.mem_cons.1 hlocation with heq | hmem
          · exact heq
          · exact absurd hmem hrest
        rw [hclosed.outside _ hrest, hchanged.nodes_self]
    · intro location hlocation
      rw [List.map_cons, List.mem_cons, not_or] at hlocation
      rw [hclosed.outside location hlocation.2, hchanged.nodes_of_ne hlocation.1]

/-- The empty path cannot be closed. -/
theorem secureDirectories_error (directories : List Path) (n : ℕ) (h : .empty ∈ directories) :
    ∃ error fs', (secureDirectories none directories n).exec fs = (.error error, fs') := by
  induction directories generalizing n fs with
  | nil => exact absurd h List.not_mem_nil
  | cons directory rest ih =>
    cases hset : fs.setPermissions directory 0o700 with
    | error error =>
      have hcommand (message : String) : (command none (.secureDirectory n) message
          (·.setPermissions directory 0o700)).exec fs =
            (.error (writeError message error.text), fs) := exec_command_error hset
      rw [secureDirectories, exec_bind, hcommand]
      exact ⟨_, _, rfl⟩
    | ok fs₁ =>
      rw [exec_secureDirectories_cons hset]
      -- `set_permissions` does not find the empty path.
      rcases List.mem_cons.1 h with rfl | hrest
      · cases hset
      · exact ih (n + 1) hrest

/-- Closed directories are directories. -/
theorem Closed.keepsDirs {locations : List Location} (h : Closed fs locations fs') :
    KeepsDirs fs fs' := by
  refine ⟨h.cwd, fun location hdir => ?_⟩
  by_cases hmem : location ∈ locations
  · exact ⟨_, h.inside location hmem⟩
  · obtain ⟨mode, hmode⟩ := hdir
    exact ⟨mode, by rw [h.outside location hmem, hmode]⟩

/-! ## What `ensure_secret_parent` does -/

/-- Where `create_dir_all` succeeds, every path on the way was a directory or was not found. -/
theorem found_of_createDirAll {parent : Path} (h : (fs.createDirAll parent).1 = .ok ()) :
    Found fs parent.absolute parent.components := by
  intro before hbefore
  have hleads := leadsToDir_of_createDirAll h
  exact (extends_createDirAll fs parent).metadata_before (hleads.before hbefore)

/-- The walk does not get to the empty path when the path is absolute, or when its first component
is a directory. -/
theorem Collected.empty_not_mem_iff {parent : Path} {directories : List Path}
    (h : Collected fs parent.absolute parent.components directories)
    (hfound : Found fs parent.absolute parent.components) (hne : parent ≠ .empty) :
    .empty ∉ directories ↔
      parent.absolute = true ∨ fs.isDir ⟨false, parent.components.take 1⟩ = true := by
  rw [h.empty, not_and_or, Bool.not_eq_false]
  refine or_congr_right' fun hrelative => ?_
  obtain ⟨absolute, components⟩ := parent
  obtain rfl : absolute = false := by simpa using hrelative
  obtain ⟨component, rest, rfl⟩ : ∃ component rest, components = component :: rest := by
    cases components with
    | nil => exact absurd rfl hne
    | cons component rest => exact ⟨component, rest, rfl⟩
  constructor
  · intro hall
    simp only [not_forall] at hall
    obtain ⟨before, hbefore, hnot⟩ := hall
    obtain ⟨mode, hdir⟩ := (hfound before hbefore).resolve_left hnot
    obtain ⟨hbne, hleads⟩ := metadata_dir_iff.1 ⟨mode, hdir⟩
    -- The first component is on the way to the path that was found.
    have hfirst : [component] <+: before := by
      cases before with
      | nil => exact absurd rfl hbne
      | cons first before =>
        obtain ⟨rfl, -⟩ := List.cons_prefix_cons.1 hbefore
        exact List.cons_prefix_cons.2 ⟨rfl, List.nil_prefix⟩
    exact isDir_iff.2 ⟨by simp [Path.empty], hleads.before hfirst⟩
  · intro hdir hall
    obtain ⟨mode, hmode⟩ := metadata_dir_iff.2 (isDir_iff.1 hdir)
    have hmissing := hall _ (List.take_prefix 1 _)
    rw [hmode] at hmissing
    cases hmissing

/-- The directory of a path is not the empty path. -/
theorem secretParent_ne_empty {path parent : Path} (h : secretParent path = some parent) :
    parent ≠ .empty := by
  have hfilter := (Option.filter_eq_some_iff.1 h).2
  exact of_decide_eq_true hfilter

/-- Where `create_dir_all` succeeds, the directories that were collected are closed afterwards,
among them the empty path unless the path is absolute or its first component is a directory. -/
theorem exec_ensureSecretParent {path parent : Path} (hparent : secretParent path = some parent)
    (h : (fs.createDirAll parent).1 = .ok ()) :
    ∃ directories, Collected fs parent.absolute parent.components directories ∧
      (.empty ∉ directories ↔
        parent.absolute = true ∨ fs.isDir ⟨false, parent.components.take 1⟩ = true) ∧
      (ensureSecretParent none path).exec fs =
        (secureDirectories none directories 0).exec (fs.createDirAll parent).2 := by
  have hfound := found_of_createDirAll h
  obtain ⟨directories, hwalk, hcollected⟩ :=
    missingDirectories_ok parent.absolute parent.components.reverse 0
      (List.reverse_reverse parent.components ▸ hfound)
  rw [List.reverse_reverse] at hcollected
  have hempty := hcollected.empty_not_mem_iff hfound (secretParent_ne_empty hparent)
  refine ⟨directories, hcollected, hempty, ?_⟩
  have hcreate : createDirectories none parent fs = (.ok (), (fs.createDirAll parent).2) := by
    rw [← h]
    rfl
  unfold ensureSecretParent
  simp only [hparent]
  rw [exec_bind, Fallible.call, exec_of, hwalk]
  simp only [Except.map]
  rw [exec_bind, exec_of, hcreate]

/-- `create_dir_all` changes no file, wherever it fails. -/
theorem keepsFiles_of_createDirectories {fault : Option Fault} {parent : Path}
    {outcome : Except FsError Unit} (h : createDirectories fault parent fs = (outcome, fs')) :
    KeepsFiles fs fs' := by
  unfold createDirectories at h
  split at h
  · next n text =>
    cases h
    exact (makesDirs_createDirAllUntil fs n text parent).extend.keepsFiles
  · have hmade := (extends_createDirAll fs parent).keepsFiles
    rw [h] at hmade
    exact hmade

/-- `create_dir_all` makes all directories when it succeeds. -/
theorem createDirectories_eq_ok {fault : Option Fault} {parent : Path}
    (h : createDirectories fault parent fs = (.ok (), fs')) :
    fs.createDirAll parent = (.ok (), fs') := by
  unfold createDirectories at h
  split at h
  · cases h
  · exact h

/-- The file system once the directories of a path were made. -/
def withParent (path : Path) (fs : FileSystem) : FileSystem :=
  match secretParent path with
  | none => fs
  | some parent => (fs.createDirAll parent).2

/-- Making the directories changes no file. -/
theorem withParent_keepsFiles (path : Path) (fs : FileSystem) :
    KeepsFiles fs (withParent path fs) := by
  unfold withParent
  split
  · exact .refl fs
  · exact (extends_createDirAll fs _).keepsFiles

/-- Closing directories changes modes, wherever it ends. -/
theorem wp_secureDirectories (fault : Option Fault) (directories : List Path) (n : ℕ) :
    (secureDirectories fault directories n).wp (fun _ s => SameButModes fs s)
      (fun _ s => SameButModes fs s) fs := by
  induction directories generalizing n fs with
  | nil =>
    rw [secureDirectories, wp_pure]
    exact SameButModes.refl fs
  | cons directory rest ih =>
    rw [secureDirectories, wp_bind]
    refine wp_command (fun e _ => .refl fs) fun fs₁ _ hset => ?_
    have hsame := sameButModes_of_setPermissions hset
    exact wp_mono (@ih fs₁ (n + 1)) (fun _ _ h => hsame.trans h) fun _ _ h => hsame.trans h

/-- When `ensure_secret_parent` succeeds, the directories were made, and only modes have changed
since. When it fails, no file has changed. -/
theorem wp_ensureSecretParent (fault : Option Fault) (path : Path) (fs : FileSystem) :
    (ensureSecretParent fault path).wp
      (fun _ s => (∀ parent, secretParent path = some parent →
        (fs.createDirAll parent).1 = .ok ()) ∧ SameButModes (withParent path fs) s)
      (fun _ s => KeepsFiles fs s) fs := by
  unfold ensureSecretParent withParent
  cases hparent : secretParent path with
  | none =>
    simp only [wp_pure]
    exact ⟨fun parent h => (by cases h), SameButModes.refl fs⟩
  | some parent =>
    have hmade := (extends_createDirAll fs parent).keepsFiles
    simp only
    rw [wp_bind, Fallible.wp_call]
    cases missingDirectories fault fs parent.absolute parent.components.reverse 0 with
    | error e => exact KeepsFiles.refl fs
    | ok directories =>
      simp only [Except.map]
      rw [wp_bind]
      cases hcreate : createDirectories fault parent fs with
      | mk outcome fs₁ =>
      cases outcome with
      | error e =>
        rw [wp_iff_of_error (by rw [exec_of, hcreate])]
        exact keepsFiles_of_createDirectories hcreate
      | ok _ =>
        rw [wp_iff_of_ok (by rw [exec_of, hcreate])]
        have hall := createDirectories_eq_ok hcreate
        rw [hall] at hmade ⊢
        refine wp_mono (wp_secureDirectories fault directories 0) (fun _ s h => ⟨?_, h⟩)
          fun _ s h => hmade.trans h.keepsFiles
        rintro _ ⟨⟩
        rw [hall]

/-- What `ensure_secret_parent` is for: it succeeds, every directory on the way that was missing is
there and closed to others, and the modes of the directories that were there are what they were. -/
def ParentsSecured (path : Path) (fs : FileSystem) : Prop :=
  ((ensureSecretParent none path).exec fs).1 = .ok () ∧
    (∀ parent, secretParent path = some parent → ∀ ancestor, IsAncestor parent ancestor →
      fs.metadata ancestor = .error .notFound →
      ((ensureSecretParent none path).exec fs).2.metadata ancestor = .ok (.dir 0o700)) ∧
    ∀ location mode, fs.nodes location = some (.dir mode) →
      ((ensureSecretParent none path).exec fs).2.nodes location = some (.dir mode)

/-- When it does: an absolute path, or one whose first component is a directory that exists; and no
missing directory is spelled, with `..`, like one that exists with another mode. -/
def OnlyMissingBelow (path : Path) (fs : FileSystem) : Prop :=
  ∀ parent, secretParent path = some parent →
    (parent.absolute = true ∨ fs.isDir ⟨false, parent.components.take 1⟩ = true) ∧
    ∀ ancestor, IsAncestor parent ancestor → fs.metadata ancestor = .error .notFound →
      ∀ mode, fs.nodes (fs.locate ancestor) = some (.dir mode) → mode = 0o700

/-- The directories of a path can be made, and the walk over it does not end at the empty path. -/
def ParentMakeable (path : Path) (fs : FileSystem) : Prop :=
  ∀ parent, secretParent path = some parent →
    (fs.createDirAll parent).1 = .ok () ∧
      (parent.absolute = true ∨ fs.isDir ⟨false, parent.components.take 1⟩ = true)

/-- Where `create_dir_all` succeeds, the directories that were collected can be closed unless the
empty path is among them. -/
theorem Collected.closed {parent : Path} {directories : List Path}
    (h : Collected fs parent.absolute parent.components directories)
    (hempty : .empty ∉ directories) (hmade : (fs.createDirAll parent).1 = .ok ()) :
    ∃ fs', (secureDirectories none directories 0).exec (fs.createDirAll parent).2 = (.ok (), fs') ∧
      Closed (fs.createDirAll parent).2 (directories.map fs.locate) fs' := by
  have hleads : ∀ directory ∈ directories,
      directory ≠ .empty ∧ (fs.createDirAll parent).2.LeadsToDir directory := by
    rintro ⟨absolute, before⟩ hdirectory
    obtain ⟨habsolute, hbefore, -⟩ := h.missing _ hdirectory
    obtain rfl : absolute = parent.absolute := habsolute
    exact ⟨fun heq => hempty (heq ▸ hdirectory),
      (leadsToDir_of_createDirAll hmade).before hbefore⟩
  obtain ⟨fs', hok, hclosed⟩ := secureDirectories_ok directories 0 hleads
  rw [locate_congr (extends_createDirAll fs parent).cwd] at hclosed
  exact ⟨fs', hok, hclosed⟩

/-- `ensure_secret_parent` succeeds exactly when the directories can be made. -/
theorem ensureSecretParent_ok_iff {path : Path} :
    ((ensureSecretParent none path).exec fs).1 = .ok () ↔ ParentMakeable path fs := by
  unfold ParentMakeable
  cases hparent : secretParent path with
  | none =>
    unfold ensureSecretParent
    rw [hparent]
    exact iff_of_true rfl fun parent h => by cases h
  | some parent =>
    simp only [Option.some.injEq, forall_eq']
    constructor
    · intro hok
      have hmade : (fs.createDirAll parent).1 = .ok () := by
        have hexec : (ensureSecretParent none path).exec fs =
            (.ok (), ((ensureSecretParent none path).exec fs).2) := by rw [← hok]
        exact ((wp_iff_of_ok hexec).1 (wp_ensureSecretParent none path fs)).1 parent hparent
      obtain ⟨directories, -, hempty, hexec⟩ := exec_ensureSecretParent hparent hmade
      refine ⟨hmade, hempty.1 fun hmem => ?_⟩
      -- With the empty path among them, closing the directories fails.
      obtain ⟨error, fs', herror⟩ :=
        @secureDirectories_error (fs.createDirAll parent).2 directories 0 hmem
      rw [hexec, herror] at hok
      cases hok
    · intro ⟨hmade, hfirst⟩
      obtain ⟨directories, hcollected, hempty, hexec⟩ := exec_ensureSecretParent hparent hmade
      obtain ⟨fs', hok, -⟩ := hcollected.closed (hempty.2 hfirst) hmade
      rw [hexec, hok]

/-- A fault behind the walk does not touch it. -/
theorem missingDirectories_of_not_failsAt {fault : Option Fault} (absolute : Bool)
    (h : ∀ n, ¬FailsAt fault (.inspect n)) (components : List Component) (n : ℕ) :
    missingDirectories fault fs absolute components n =
      missingDirectories none fs absolute components n := by
  have hinspect (path : Path) (n : ℕ) :
      inspectDirectory fault fs path n = inspectDirectory none fs path n := by
    unfold inspectDirectory
    rw [failing_of_not_failsAt (h n), failing_none]
  induction components generalizing n with
  | nil => simp only [missingDirectories, hinspect]
  | cons component rest ih => simp only [missingDirectories, hinspect, ih]

/-- A fault elsewhere does not touch the closing. -/
theorem secureDirectories_of_not_failsAt {fault : Option Fault}
    (h : ∀ n, ¬FailsAt fault (.secureDirectory n)) (directories : List Path) (n : ℕ) :
    secureDirectories fault directories n = secureDirectories none directories n := by
  induction directories generalizing n with
  | nil => rfl
  | cons directory rest ih =>
    simp only [secureDirectories, ih, command, call, failing_of_not_failsAt (h n), failing_none]

/-- A fault at the last call does not touch `ensure_secret_parent`. -/
theorem ensureSecretParent_of_failsAt {fault : Option Fault} (path : Path)
    (h : FailsAt fault .finalPermissions) :
    ensureSecretParent fault path = ensureSecretParent none path := by
  have hinspect : ∀ n, ¬FailsAt fault (.inspect n) := fun n hn => nomatch h.unique hn
  have hsecure : ∀ n, ¬FailsAt fault (.secureDirectory n) := fun n hn => nomatch h.unique hn
  obtain ⟨⟨point, text⟩, rfl, rfl⟩ := Option.map_eq_some_iff.1 h
  -- The fault is neither in the walk nor in `create_dir_all` nor in the last loop.
  unfold ensureSecretParent
  simp only [missingDirectories_of_not_failsAt _ hinspect,
    secureDirectories_of_not_failsAt hsecure]
  rfl

/-- Where the directories that were collected are closed, the modes are as they should be exactly
when no path that is missing is spelled like a directory with another mode. -/
theorem Closed.secured_iff {parent : Path} {directories : List Path}
    (hcollected : Collected fs parent.absolute parent.components directories)
    (hempty : .empty ∉ directories) (hmade : (fs.createDirAll parent).1 = .ok ())
    (hclosed : Closed (fs.createDirAll parent).2 (directories.map fs.locate) fs') :
    ((∀ ancestor, IsAncestor parent ancestor → fs.metadata ancestor = .error .notFound →
        fs'.metadata ancestor = .ok (.dir 0o700)) ∧
      ∀ location mode, fs.nodes location = some (.dir mode) →
        fs'.nodes location = some (.dir mode)) ↔
      ∀ ancestor, IsAncestor parent ancestor → fs.metadata ancestor = .error .notFound →
        ∀ mode, fs.nodes (fs.locate ancestor) = some (.dir mode) → mode = 0o700 := by
  have hextends := extends_createDirAll fs parent
  have hcwd : fs'.cwd = fs.cwd := hclosed.cwd.trans hextends.cwd
  -- A missing directory is made and closed.
  have hsecured : ∀ ancestor, IsAncestor parent ancestor →
      fs.metadata ancestor = .error .notFound →
      fs'.resolve ancestor = .ok (fs.locate ancestor) ∧
        fs'.nodes (fs.locate ancestor) = some (.dir 0o700) := by
    rintro ⟨absolute, before⟩ ⟨habsolute, hbefore, hne⟩ hmissing
    obtain rfl : absolute = parent.absolute := habsolute
    have hleads : fs'.LeadsToDir ⟨parent.absolute, before⟩ :=
      ((leadsToDir_of_createDirAll hmade).before hbefore).mono hclosed.keepsDirs
    obtain ⟨location, hwalk, -⟩ := hleads
    have hlocation := locate_of_walk hwalk
    rw [locate_congr hcwd] at hlocation
    subst hlocation
    refine ⟨resolve_eq_ok_iff.2 ⟨hne, hwalk⟩, hclosed.inside _ ?_⟩
    exact List.mem_map_of_mem (hcollected.complete before hbefore hne hmissing)
  constructor
  · -- A missing path that is spelled like a directory closes that one, whose mode has to be the
    -- same.
    rintro ⟨hmissing, hkept⟩ ancestor hancestor hnotFound mode hmode
    obtain ⟨-, hnode⟩ := hsecured ancestor hancestor hnotFound
    have hsame := (hkept _ mode hmode).symm.trans hnode
    simpa using hsame
  · intro hspelled
    refine ⟨fun ancestor hancestor hnotFound => ?_, fun location mode hmode => ?_⟩
    · obtain ⟨hresolve, hnode⟩ := hsecured ancestor hancestor hnotFound
      exact metadata_eq_ok_iff.2 ⟨_, hresolve, hnode⟩
    · by_cases hmem : location ∈ directories.map fs.locate
      · obtain ⟨directory, hdirectory, rfl⟩ := List.mem_map.1 hmem
        obtain ⟨habsolute, hbefore, hnotFound⟩ := hcollected.missing directory hdirectory
        have hne : directory ≠ .empty := fun h => hempty (h ▸ hdirectory)
        rw [hspelled directory ⟨habsolute, hbefore, hne⟩ hnotFound mode hmode]
        exact hclosed.inside _ hmem
      · rw [hclosed.outside _ hmem, hextends.nodes_of_some hmode]

/-- Wherever the missing directories can be made, `ensure_secret_parent` does what it is for exactly
when the walk over the path passes only what is missing. -/
theorem parents_secured_iff {path : Path} (hmade : ∀ parent, secretParent path = some parent →
    (fs.createDirAll parent).1 = .ok ()) :
    ParentsSecured path fs ↔ OnlyMissingBelow path fs := by
  unfold ParentsSecured OnlyMissingBelow
  cases hparent : secretParent path with
  | none =>
    have hexec : (ensureSecretParent none path).exec fs = (.ok (), fs) := by
      unfold ensureSecretParent
      rw [hparent]
      rfl
    simp [hexec]
  | some parent =>
    have hmade := hmade parent hparent
    obtain ⟨directories, hcollected, hempty, hexec⟩ := exec_ensureSecretParent hparent hmade
    simp only [hexec, Option.some.injEq, forall_eq']
    -- Either the last loop fails at the empty path, or it closes what was collected.
    by_cases hmem : .empty ∈ directories
    · obtain ⟨error, fs', herror⟩ :=
        @secureDirectories_error (fs.createDirAll parent).2 directories 0 hmem
      simp only [herror, reduceCtorEq, false_and, false_iff, not_and]
      intro hfirst
      exact absurd hmem (hempty.2 hfirst)
    · obtain ⟨fs', hok, hclosed⟩ := hcollected.closed hmem hmade
      simp only [hok, true_and, hclosed.secured_iff hcollected hmem hmade, hempty.1 hmem]

/-- A file in a directory of the root that is missing. -/
theorem parents_secured_below_root :
    let path : Path := ⟨true, [.normal (.unicode "etc"), .normal (.unicode "secret.toml")]⟩
    ((bare 0o755 0o022).createDirAll ⟨true, [.normal (.unicode "etc")]⟩).1 = .ok () ∧
      ParentsSecured path (bare 0o755 0o022) := by
  have hmade : ((bare 0o755 0o022).createDirAll ⟨true, [.normal (.unicode "etc")]⟩).1 = .ok () := by
    decide
  refine ⟨hmade, (parents_secured_iff fun parent hparent => ?_).2 fun parent hparent => ?_⟩
  · cases hparent
    exact hmade
  · cases hparent
    refine ⟨.inl rfl, ?_⟩
    rintro ⟨absolute, before⟩ ⟨habsolute, hbefore, -⟩ hmissing mode hmode
    obtain rfl : absolute = true := habsolute
    rcases List.prefix_concat_iff.1 (show before <+: [] ++ [_] from hbefore) with rfl | hnil
    · exact nomatch hmode
    · obtain rfl := List.prefix_nil.1 hnil
      exact nomatch hmissing

/-- A file in a directory of the working directory that is missing: the directory is made, and then
the empty path cannot be closed. -/
theorem relative_parent_not_secured :
    let path : Path := ⟨false, [.normal (.unicode "playit"), .normal (.unicode "secret.toml")]⟩
    ((bare 0o755 0o022).createDirAll ⟨false, [.normal (.unicode "playit")]⟩).1 = .ok () ∧
      ¬ParentsSecured path (bare 0o755 0o022) := by
  refine ⟨by decide, fun h => ?_⟩
  exact absurd h.1 (by decide)

end SecretFile

end PlayitAgent
