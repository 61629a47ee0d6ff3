import PlayitAgent.Lib.Fallible
import PlayitAgent.Lib.Fault

/-!
# Migrating the secret of version 0.17

`migrate_v17_secret_from_profile` of `playitd-windows-setup/src/secret_migration.rs`. The installer
copies the configuration of a user to the place where the service looks for it, unless there is one
already. Others may create the new file at the same time: before each call of the system they act on
the file system, by making directories and, where there is nothing, the new file. The world has two
notes about the run besides the file system: in which one the new file was to be created, and
whether someone else has created it.

The file is created before it is written. When the write fails, a part of the configuration stays at
the new path, and the next run takes it for a configuration.
-/

namespace PlayitAgent

namespace SecretMigration

open FileSystem Fallible

/-! ## The world -/

/-- The calls of the system, in their order. -/
inductive Step where
  | newExists
  | oldExists
  | createDirAll
  | newExistsAgain
  | readOld
  | createNew
  | writeAll
  deriving DecidableEq

/-- The calls that can fail. `create_dir_all` does so behind some components, and `write_all` behind
some bytes. -/
inductive FaultPoint where
  | newExists
  | oldExists
  | createDirAll (n : ℕ)
  | newExistsAgain
  | readOld
  | createNew
  | write (n : ℕ)
  deriving DecidableEq

/-- The call that fails. -/
abbrev Fault := PlayitAgent.Fault FaultPoint

/-- What others may do: make directories, and the new file where there is nothing. -/
structure Grown (newPath : Path) (fs s : FileSystem) : Prop where
  cwd : s.cwd = fs.cwd
  umask : s.umask = fs.umask
  nodes : ∀ location, s.nodes location = fs.nodes location ∨ fs.nodes location = none ∧
    (s.nodes location = some (.dir (fs.masked 0o777)) ∨
      location = fs.locate newPath ∧ ∃ content mode, s.nodes location = some (.file content mode))

/-- Those who may create the new file at the same time. -/
structure Creator (newPath : Path) where
  act : Step → FileSystem → FileSystem
  grows : ∀ step fs, Grown newPath fs (act step fs)

/-- Nobody does. -/
def idle (newPath : Path) : Creator newPath where
  act _ fs := fs
  grows _ _ := ⟨rfl, rfl, fun _ => .inl rfl⟩

/-- The file system, with what is noted of the run. -/
structure World where
  fs : FileSystem
  /-- The file system in which the new file was to be created. -/
  tried : Option FileSystem
  /-- Someone else has created the new file. -/
  foreign : Bool

/-- A run begins. -/
def World.start (newPath : Path) (fs : FileSystem) : World :=
  ⟨fs, none, (fs.nodes (fs.locate newPath)).isSome⟩

/-- The file system changes. -/
def World.withFs (w : World) (fs : FileSystem) : World := { w with fs := fs }

/-- The new file is to be created now. -/
def World.noted (w : World) : World := { w with tried := some w.fs }

/-- The others act. -/
def World.disturbed {newPath : Path} (creator : Creator newPath) (step : Step) (w : World) :
    World :=
  let fs := creator.act step w.fs
  let location := w.fs.locate newPath
  ⟨fs, w.tried, w.foreign || (w.fs.nodes location).isNone && (fs.nodes location).isSome⟩

/-- The computations of the migration. -/
abbrev MigrateM := Fallible World String

section
variable {newPath : Path} (creator : Creator newPath) (fault : Option Fault)

/-- A call of the system. -/
def call {α : Type} (step : Step) (f : World → Except String α × World) : MigrateM α :=
  .of fun w => f (w.disturbed creator step)

/-- `Path::exists`, for which an error is an absence. -/
def doesExist (step : Step) (point : FaultPoint) (path : Path) : MigrateM Bool :=
  call creator step fun w => match failing fault point (w.fs.metadata path) with
    | .ok _ => (.ok true, w)
    | .error _ => (.ok false, w)

/-- `create_dir_all`, which may fail on the way. -/
def createDirectories (parent : Path) (fs : FileSystem) : Except FsError Unit × FileSystem :=
  match fault with
  | some ⟨.createDirAll n, text⟩ => fs.createDirAllUntil n text parent
  | _ => fs.createDirAll parent

/-- The directories of the new file. -/
def createParent : MigrateM Unit :=
  call creator .createDirAll fun w => match newPath.parent with
    | none => (.ok (), w)
    | some parent =>
      match createDirectories fault parent w.fs with
      | (.ok (), fs) => (.ok (), w.withFs fs)
      | (.error error, fs) =>
        (.error ("Failed to create playit service config directory at " ++ parent.display ++
          ": " ++ error.text), w.withFs fs)

/-- `fs::read` of the legacy file. -/
def readOld (oldPath : Path) : MigrateM (List UInt8) :=
  call creator .readOld fun w => match failing fault .readOld (w.fs.read oldPath) with
    | .ok content => (.ok content, w)
    | .error error =>
      (.error ("Failed to read legacy playit config at " ++ oldPath.display ++ ": " ++
        error.text), w)

/-- `OpenOptions::create_new` for the new file: nothing is returned when it exists. -/
def createNewFile : MigrateM (Option Location) :=
  call creator .createNew fun w =>
    match failing fault .createNew (w.fs.createNew newPath 0o666) with
    | .ok (file, fs) => (.ok (some file), w.noted.withFs fs)
    | .error .alreadyExists => (.ok none, w.noted)
    | .error error =>
      (.error ("Failed to create migrated playit config at " ++ newPath.display ++ ": " ++
        error.text), w.noted)

/-- `write_all` on the new file, which has nothing to do where there are no bytes. -/
def writeNewFile (file : Location) (content : List UInt8) : MigrateM Unit :=
  call creator .writeAll fun w =>
    let written := w.withFs (w.fs.writeAt file content)
    match fault with
    | some ⟨.write n, text⟩ =>
      if n < content.length then
        (.error ("Failed to write migrated playit config to " ++ newPath.display ++ ": " ++ text),
          w.withFs (w.fs.writeAt file (content.take n)))
      else (.ok (), written)
    | _ => (.ok (), written)

/-- `MigrationStatus`. -/
inductive MigrationStatus where
  | alreadyConfigured
  | missingLegacy
  | copied
  deriving DecidableEq

/-- `v17_secret_path_from_profile`. -/
def v17SecretPathFromProfile (profileDir : Path) : Path :=
  (((profileDir.join (.unicode "AppData")).join (.unicode "Local")).join
    (.unicode "playit_gg")).join (.unicode "playit.toml")

/-- `migrate_v17_secret_from_profile`. -/
def migrateV17SecretFromProfile (profileDir : Path) : MigrateM MigrationStatus := do
  if ← doesExist creator fault .newExists .newExists newPath then return .alreadyConfigured
  let oldPath := v17SecretPathFromProfile profileDir
  if !(← doesExist creator fault .oldExists .oldExists oldPath) then return .missingLegacy
  createParent creator fault
  if ← doesExist creator fault .newExistsAgain .newExistsAgain newPath then
    return .alreadyConfigured
  let content ← readOld creator fault oldPath
  match ← createNewFile creator fault with
  | none => return .alreadyConfigured
  | some file =>
    writeNewFile creator fault file content
    return .copied

end

/-! ## What others leave alone -/

variable {newPath : Path} {fs s s' : FileSystem} {w : World}

namespace Grown

/-- Nothing has happened. -/
protected theorem refl (newPath : Path) (fs : FileSystem) : Grown newPath fs fs :=
  ⟨rfl, rfl, fun _ => .inl rfl⟩

/-- What was there is there. -/
theorem nodes_of_some (h : Grown newPath fs s) {location : Location} {node : Node}
    (hnode : fs.nodes location = some node) : s.nodes location = some node := by
  rcases h.nodes location with heq | ⟨hnone, -⟩
  · rw [heq, hnode]
  · exact nomatch hnone.symm.trans hnode

/-- What was there is not gone. -/
theorem nodes_ne_none (h : Grown newPath fs s) {location : Location}
    (hne : fs.nodes location ≠ none) : s.nodes location ≠ none := by
  obtain ⟨node, hnode⟩ := Option.ne_none_iff_exists'.1 hne
  rw [h.nodes_of_some hnode]
  exact Option.some_ne_none node

/-- One change after the other. -/
protected theorem trans (h : Grown newPath fs s) (h' : Grown newPath s s') :
    Grown newPath fs s' := by
  refine ⟨h'.cwd.trans h.cwd, h'.umask.trans h.umask, fun location => ?_⟩
  have hmasked : s.masked 0o777 = fs.masked 0o777 := by simp only [masked, h.umask]
  have hlocate : s.locate newPath = fs.locate newPath := by rw [locate_congr h.cwd]
  rcases h.nodes location with heq | ⟨hnone, hnew⟩
  · rcases h'.nodes location with heq' | ⟨hnone', hnew'⟩
    · exact .inl (heq'.trans heq)
    · rw [hmasked, hlocate] at hnew'
      exact .inr ⟨heq ▸ hnone', hnew'⟩
  · refine .inr ⟨hnone, ?_⟩
    rcases hnew with hdir | ⟨hlocation, content, mode, hfile⟩
    · exact .inl (h'.nodes_of_some hdir)
    · exact .inr ⟨hlocation, content, mode, h'.nodes_of_some hfile⟩

/-- Directories stay directories. -/
theorem keepsDirs (h : Grown newPath fs s) : KeepsDirs fs s := by
  refine ⟨h.cwd, fun location hdir => ?_⟩
  obtain ⟨mode, hmode⟩ := hdir
  exact ⟨mode, h.nodes_of_some hmode⟩

/-- What was found is found. -/
theorem metadata (h : Grown newPath fs s) {path : Path} {node : Node}
    (hnode : fs.metadata path = .ok node) : s.metadata path = .ok node := by
  obtain ⟨location, hresolve, hsome⟩ := metadata_eq_ok_iff.1 hnode
  exact metadata_eq_ok_iff.2 ⟨location, h.keepsDirs.resolve hresolve, h.nodes_of_some hsome⟩

/-- What was read is read. -/
theorem read (h : Grown newPath fs s) {path : Path} {content : List UInt8}
    (hread : fs.read path = .ok content) : s.read path = .ok content := by
  obtain ⟨location, mode, hresolve, hfile⟩ := read_eq_ok_iff.1 hread
  exact read_eq_ok_iff.2 ⟨location, mode, h.keepsDirs.resolve hresolve, h.nodes_of_some hfile⟩

/-- A file that was found is the one that is read later. -/
theorem read_before (h : Grown newPath fs s) {path : Path} {node : Node} {content : List UInt8}
    (hnode : fs.metadata path = .ok node) (hread : s.read path = .ok content) :
    fs.read path = .ok content := by
  obtain ⟨location, hresolve, hsome⟩ := metadata_eq_ok_iff.1 hnode
  obtain ⟨location', mode, hresolve', hfile⟩ := read_eq_ok_iff.1 hread
  obtain rfl := Except.ok.inj ((h.keepsDirs.resolve hresolve).symm.trans hresolve')
  obtain rfl := Option.some.inj ((h.nodes_of_some hsome).symm.trans hfile)
  exact read_eq_ok_iff.2 ⟨location, mode, hresolve, hsome⟩

/-- A file elsewhere was there before. -/
theorem nodes_of_file (h : Grown newPath fs s) {location : Location} {content : List UInt8}
    {mode : ℕ} (hne : location ≠ fs.locate newPath)
    (hfile : s.nodes location = some (.file content mode)) :
    fs.nodes location = some (.file content mode) := by
  rcases h.nodes location with heq | ⟨-, hdir | ⟨hlocation, -⟩⟩
  · rw [← heq, hfile]
  · exact nomatch hdir.symm.trans hfile
  · exact absurd hlocation hne

end Grown

/-- Making directories is among what others may do. -/
theorem grown_of_extends (newPath : Path) (h : Extends fs s) : Grown newPath fs s := by
  refine ⟨h.cwd, h.umask, fun location => ?_⟩
  rcases h.nodes location with heq | ⟨hnone, hnew⟩
  · exact .inl heq
  · exact .inr ⟨hnone, .inl hnew⟩

/-- The new path is spelled like a directory on the way to it, which `..` makes possible. -/
def OnWay (newPath : Path) (fs : FileSystem) : Prop :=
  ∃ parent, newPath.parent = some parent ∧ ∃ before, before <+: parent.components ∧
    fs.locate newPath = fs.locate ⟨parent.absolute, before⟩

/-- The run has not created the new file. Unless someone else has, only directories were made, and
none at the new path that is not on the way to it. -/
structure Quiet (newPath : Path) (fs : FileSystem) (w : World) : Prop where
  grown : Grown newPath fs w.fs
  created : w.foreign = true → w.fs.nodes (fs.locate newPath) ≠ none
  absent : w.foreign = false → fs.nodes (fs.locate newPath) = none
  extend : w.foreign = false → Extends fs w.fs
  free : w.foreign = false → w.fs.nodes (fs.locate newPath) = none ∨ OnWay newPath fs

/-- The beginning of a run. -/
theorem quiet_start (newPath : Path) (fs : FileSystem) : Quiet newPath fs (.start newPath fs) := by
  have habsent : (World.start newPath fs).foreign = false →
      fs.nodes (fs.locate newPath) = none := by
    intro h
    simpa [World.start] using h
  have hcreated : (World.start newPath fs).foreign = true →
      fs.nodes (fs.locate newPath) ≠ none := by
    intro h hnone
    simp [World.start, hnone] at h
  exact ⟨.refl newPath fs, hcreated, habsent, fun _ => .refl fs, fun h => .inl (habsent h)⟩

/-- What the others do in a call. -/
theorem Quiet.disturbed (h : Quiet newPath fs w) (creator : Creator newPath) (step : Step) :
    Quiet newPath fs (w.disturbed creator step) := by
  have hgrown := creator.grows step w.fs
  have hlocate : w.fs.locate newPath = fs.locate newPath := by rw [locate_congr h.grown.cwd]
  -- If nobody has created the new file, nobody had before, and nothing has changed there.
  have hnobody : (w.disturbed creator step).foreign = false → w.foreign = false ∧
      (creator.act step w.fs).nodes (fs.locate newPath) = w.fs.nodes (fs.locate newPath) := by
    intro hforeign
    simp only [World.disturbed, hlocate, Bool.or_eq_false_iff, Bool.and_eq_false_iff] at hforeign
    refine ⟨hforeign.1, ?_⟩
    rcases hgrown.nodes (fs.locate newPath) with heq | ⟨hnone, -⟩
    · exact heq
    · have hsome := hforeign.2.resolve_left (by simp [hnone])
      rw [hnone]
      simpa using hsome
  refine ⟨h.grown.trans hgrown, fun hf => ?_, fun hf => h.absent (hnobody hf).1, fun hf => ?_,
    fun hf => ?_⟩
  · simp only [World.disturbed, hlocate, Bool.or_eq_true, Bool.and_eq_true] at hf
    rcases hf with hforeign | ⟨-, hsome⟩
    · exact hgrown.nodes_ne_none (h.created hforeign)
    · exact Option.isSome_iff_ne_none.1 hsome
  · obtain ⟨hforeign, hsame⟩ := hnobody hf
    refine (h.extend hforeign).trans ⟨hgrown.cwd, hgrown.umask, fun location => ?_⟩
    rcases hgrown.nodes location with heq | ⟨hnone, hdir | ⟨hlocation, -⟩⟩
    · exact .inl heq
    · exact .inr ⟨hnone, hdir⟩
    · rw [hlocation, hlocate]
      exact .inl hsame
  · obtain ⟨hforeign, hsame⟩ := hnobody hf
    change (creator.act step w.fs).nodes (fs.locate newPath) = none ∨ _
    rw [hsame]
    exact h.free hforeign

/-- The directories of the new file are made. -/
theorem Quiet.makesDirs (h : Quiet newPath fs w) {parent : Path}
    (hparent : newPath.parent = some parent) (hmakes : MakesDirs w.fs parent s) :
    Quiet newPath fs (w.withFs s) := by
  have hgrown := grown_of_extends newPath hmakes.extend
  refine ⟨h.grown.trans hgrown, fun hf => hgrown.nodes_ne_none (h.created hf), h.absent,
    fun hf => (h.extend hf).trans hmakes.extend, fun hf => ?_⟩
  by_cases hsame : s.nodes (fs.locate newPath) = w.fs.nodes (fs.locate newPath)
  · change s.nodes (fs.locate newPath) = none ∨ _
    rw [hsame]
    exact h.free hf
  · obtain ⟨before, hbefore, hlocation⟩ := hmakes.onWay _ hsame
    rw [locate_congr h.grown.cwd] at hlocation
    exact .inr ⟨parent, hparent, before, hbefore, hlocation⟩

/-! ## What the calls do -/

section
variable {creator : Creator newPath} {fault : Option Fault} {α : Type}

/-- What is to be shown of a look whether there is something. -/
theorem wp_doesExist {step : Step} {point : FaultPoint} {path : Path}
    {Q : Bool → World → Prop} {E : String → World → Prop}
    (htrue : ∀ node, (creator.act step w.fs).metadata path = .ok node →
      Q true (w.disturbed creator step))
    (hfalse : (FailsAt fault point ∨ ∃ error,
        (creator.act step w.fs).metadata path = .error error) →
      Q false (w.disturbed creator step)) :
    (doesExist creator fault step point path).wp Q E w := by
  unfold doesExist call wp
  rcases failing_cases fault point ((w.disturbed creator step).fs.metadata path) with
    ⟨error, herror, hfails⟩ | ⟨node, hok, -, hnode⟩
  · simp only [exec_of, herror]
    exact hfalse hfails
  · simp only [exec_of, hok]
    exact htrue node hnode

/-- `create_dir_all` makes directories, and succeeds unless it fails because of the fault or by
itself. -/
theorem createDirectories_spec {parent : Path} {outcome : Except FsError Unit}
    (h : createDirectories fault parent fs = (outcome, s)) :
    MakesDirs fs parent s ∧ (outcome = .ok () ∧ fs.createDirAll parent = (.ok (), s) ∨
      outcome ≠ .ok () ∧ ((∃ n, FailsAt fault (.createDirAll n)) ∨
        (fs.createDirAll parent).1 ≠ .ok ())) := by
  unfold createDirectories at h
  split at h
  · next n text =>
    have hmakes := makesDirs_createDirAllUntil fs n text parent
    rw [h] at hmakes
    refine ⟨hmakes, .inr ⟨?_, .inl ⟨n, rfl⟩⟩⟩
    rintro rfl
    cases h
  · have hmakes := makesDirs_createDirAll fs parent
    rw [h] at hmakes
    refine ⟨hmakes, ?_⟩
    by_cases hok : outcome = .ok ()
    · exact .inl ⟨hok, hok ▸ h⟩
    · exact .inr ⟨hok, .inr (by rw [h]; exact hok)⟩

/-- What is to be shown of making the directories. -/
theorem wp_createParent {Q : Unit → World → Prop} {E : String → World → Prop}
    (hE : ∀ e parent s, newPath.parent = some parent →
      MakesDirs (creator.act .createDirAll w.fs) parent s →
      ((∃ n, FailsAt fault (.createDirAll n)) ∨
        ((creator.act .createDirAll w.fs).createDirAll parent).1 ≠ .ok ()) →
      E e ((w.disturbed creator .createDirAll).withFs s))
    (hQ : (∀ parent, newPath.parent = some parent →
        ((creator.act .createDirAll w.fs).createDirAll parent).1 = .ok ()) →
      Q () ((w.disturbed creator .createDirAll).withFs
        ((creator.act .createDirAll w.fs).withParent newPath))) :
    (createParent creator fault).wp Q E w := by
  unfold createParent call wp
  unfold FileSystem.withParent at hQ
  cases hparent : newPath.parent with
  | none =>
    rw [hparent] at hQ
    exact hQ fun parent h => nomatch h
  | some parent =>
    rw [hparent] at hQ
    rcases hmade : createDirectories fault parent (w.disturbed creator .createDirAll).fs with
      ⟨outcome, s⟩
    obtain ⟨hmakes, ⟨rfl, hall⟩ | ⟨hfailed, hwhy⟩⟩ := createDirectories_spec hmade
    · simp only [exec_of, hmade]
      change (creator.act .createDirAll w.fs).createDirAll parent = (.ok (), s) at hall
      simp only [hall] at hQ
      refine hQ ?_
      rintro _ ⟨⟩
      rw [hall]
    · cases outcome with
      | ok _ => exact absurd rfl hfailed
      | error error =>
        simp only [exec_of, hmade]
        exact hE _ parent s hparent hmakes hwhy

/-- What is to be shown of reading the legacy file. -/
theorem wp_readOld {oldPath : Path} {Q : List UInt8 → World → Prop} {E : String → World → Prop}
    (hE : ∀ e, (FailsAt fault .readOld ∨ ∃ error,
        (creator.act .readOld w.fs).read oldPath = .error error) →
      E e (w.disturbed creator .readOld))
    (hQ : ∀ content, (creator.act .readOld w.fs).read oldPath = .ok content →
      Q content (w.disturbed creator .readOld)) : (readOld creator fault oldPath).wp Q E w := by
  unfold readOld call wp
  rcases failing_cases fault .readOld ((w.disturbed creator .readOld).fs.read oldPath) with
    ⟨error, herror, hfails⟩ | ⟨content, hok, -, hread⟩
  · simp only [exec_of, herror]
    exact hE _ hfails
  · simp only [exec_of, hok]
    exact hQ content hread

/-- What is to be shown of creating the new file. Where it is not created, what is noted is the file
system that it was to be created in. -/
theorem wp_createNewFile {Q : Option Location → World → Prop} {E : String → World → Prop}
    (hE : (FailsAt fault .createNew ∨ ∃ error,
        (creator.act .createNew w.fs).createNew newPath 0o666 = .error error) →
      Q none (w.disturbed creator .createNew).noted ∧
        ∀ e, E e (w.disturbed creator .createNew).noted)
    (hQ : ∀ file s, (creator.act .createNew w.fs).createNew newPath 0o666 = .ok (file, s) →
      Q (some file) ((w.disturbed creator .createNew).noted.withFs s)) :
    (createNewFile creator fault).wp Q E w := by
  unfold createNewFile call wp
  rcases failing_cases fault .createNew
      ((w.disturbed creator .createNew).fs.createNew newPath 0o666) with
    ⟨error, herror, hfails⟩ | ⟨⟨file, s⟩, hok, -, hcreate⟩
  · cases error with
    | alreadyExists =>
      simp only [exec_of, herror]
      exact (hE hfails).1
    | _ =>
      simp only [exec_of, herror]
      exact (hE hfails).2 _
  · simp only [exec_of, hok]
    exact hQ file s hcreate

/-- What is to be shown of writing the new file. -/
theorem wp_writeNewFile {file : Location} {content : List UInt8} {Q : Unit → World → Prop}
    {E : String → World → Prop}
    (hE : ∀ e n, FailsAt fault (.write n) → n < content.length →
      E e ((w.disturbed creator .writeAll).withFs
        ((creator.act .writeAll w.fs).writeAt file (content.take n))))
    (hQ : (∀ n < content.length, ¬FailsAt fault (.write n)) →
      Q () ((w.disturbed creator .writeAll).withFs
        ((creator.act .writeAll w.fs).writeAt file content))) :
    (writeNewFile creator fault file content).wp Q E w := by
  unfold writeNewFile call wp
  by_cases hfails : ∃ n < content.length, FailsAt fault (.write n)
  · obtain ⟨n, hn, hwrite⟩ := hfails
    obtain ⟨⟨point, text⟩, rfl, rfl⟩ := Option.map_eq_some_iff.1 hwrite
    simp only [exec_of, if_pos hn]
    exact hE _ n rfl hn
  · simp only [not_exists, not_and] at hfails
    rcases fault with _ | ⟨point, text⟩
    · exact hQ hfails
    · cases point with
      | write n =>
        simp only [exec_of, if_neg fun hn => hfails n hn rfl]
        exact hQ hfails
      | _ => exact hQ hfails

end

/-! ## What a run does -/

section
variable {creator : Creator newPath} {fault : Option Fault} {profileDir : Path}

/-- The file system in which the legacy file is looked for. -/
def beforeOld (creator : Creator newPath) (fs : FileSystem) : FileSystem :=
  creator.act .oldExists (creator.act .newExists fs)

/-- The file system in which the new file is to be created. -/
def beforeCreate (creator : Creator newPath) (fs : FileSystem) : FileSystem :=
  let made := (creator.act .createDirAll (beforeOld creator fs)).withParent newPath
  creator.act .createNew (creator.act .readOld (creator.act .newExistsAgain made))

/-- The run gets to the write: the legacy file is there, the directories of the new file can be
made, and by then nobody has created the new file. -/
structure ReachesWrite (creator : Creator newPath) (profileDir : Path) (fs : FileSystem)
    (content : List UInt8) : Prop where
  legacy : (beforeOld creator fs).read (v17SecretPathFromProfile profileDir) = .ok content
  parent : ∀ parent, newPath.parent = some parent →
    ((creator.act .createDirAll (beforeOld creator fs)).createDirAll parent).1 = .ok ()
  free : ∃ file s, (beforeCreate creator fs).createNew newPath 0o666 = .ok (file, s)

/-- Making the directories of a path is among what others may do. -/
theorem grown_withParent (newPath : Path) (fs : FileSystem) :
    Grown newPath fs (fs.withParent newPath) := by
  unfold FileSystem.withParent
  split
  · exact .refl newPath fs
  · exact grown_of_extends newPath (extends_createDirAll fs _)

/-- The directories are made, and the others act, before the new file is to be created. -/
theorem grown_beforeCreate (creator : Creator newPath) (fs : FileSystem) :
    Grown newPath (beforeOld creator fs) (beforeCreate creator fs) := by
  refine (creator.grows .createDirAll _).trans ((grown_withParent newPath _).trans ?_)
  exact (creator.grows .newExistsAgain _).trans
    ((creator.grows .readOld _).trans (creator.grows .createNew _))

/-- Where there is something at the new path, it is there when the new file is to be created. -/
theorem ReachesWrite.not_exists {content : List UInt8}
    (h : ReachesWrite creator profileDir fs content)
    (hgrown : Grown newPath s (beforeCreate creator fs)) {node : Node}
    (hnode : s.metadata newPath = .ok node) : False := by
  obtain ⟨file, s', hcreate⟩ := h.free
  obtain ⟨hresolve, hnew, -⟩ := createNew_eq_ok hcreate
  obtain ⟨location, hresolve', hsome⟩ := metadata_eq_ok_iff.1 (hgrown.metadata hnode)
  obtain rfl := Except.ok.inj (hresolve.symm.trans hresolve')
  exact nomatch hnew.symm.trans hsome

/-- A run that ended before the write: the fault is at an earlier call, or the write was not to be
reached; the run has not created the new file, and has changed nothing since it was to. -/
structure Ended (creator : Creator newPath) (fault : Option Fault) (profileDir : Path)
    (fs : FileSystem) (w : World) : Prop where
  quiet : Quiet newPath fs w
  tried : ∀ before, w.tried = some before → w.fs = before
  why : (∃ point, FailsAt fault point ∧ ∀ n, point ≠ .write n) ∨
    ∀ content, ¬ReachesWrite creator profileDir fs content

/-- A run that ends before the new file was to be created. -/
theorem Quiet.ended (h : Quiet newPath fs w) (htried : w.tried = none)
    (hwhy : (∃ point, FailsAt fault point ∧ ∀ n, point ≠ .write n) ∨
      ∀ content, ¬ReachesWrite creator profileDir fs content) :
    Ended creator fault profileDir fs w := by
  refine ⟨h, fun before hbefore => ?_, hwhy⟩
  rw [htried] at hbefore
  cases hbefore

/-- A run that ends where the new file was to be created. -/
theorem Quiet.ended_noted (h : Quiet newPath fs w)
    (hwhy : (∃ point, FailsAt fault point ∧ ∀ n, point ≠ .write n) ∨
      ∀ content, ¬ReachesWrite creator profileDir fs content) :
    Ended creator fault profileDir fs w.noted :=
  ⟨⟨h.grown, h.created, h.absent, h.extend, h.free⟩, fun _ htried => Option.some.inj htried, hwhy⟩

/-- A run that has created the new file, with this content now. -/
structure Wrote (newPath : Path) (fs : FileSystem) (content : List UInt8) (w : World) : Prop where
  read : w.fs.read newPath = .ok content
  file : w.fs.fileAt (fs.locate newPath) = some content
  tried : ∃ before, w.tried = some before ∧ before.nodes (fs.locate newPath) = none
  foreign : w.foreign = false

/-- The new file is written, whatever others do to other files. -/
theorem wrote_of_createNew {file : Location} (hquiet : Quiet newPath fs w)
    (hcreate : w.fs.createNew newPath 0o666 = .ok (file, s)) (hgrown : Grown newPath s s')
    (content : List UInt8) : Wrote newPath fs content
      ⟨s'.writeAt file content, some w.fs, w.foreign ||
        (s.nodes (s.locate newPath)).isNone && (s'.nodes (s.locate newPath)).isSome⟩ := by
  obtain ⟨hresolve, hnew, hchanged⟩ := createNew_eq_ok hcreate
  have hlocate := locate_congr hquiet.grown.cwd
  obtain rfl : file = fs.locate newPath := by
    rw [← hlocate]
    exact locate_of_resolve hresolve
  have hforeign : w.foreign = false := by
    by_contra hf
    exact hquiet.created (by simpa using hf) hnew
  have hkeeps : KeepsDirs w.fs s := hchanged.keepsDirs_of_not_dirAt (not_dirAt_of_none hnew)
  have hfile := hgrown.nodes_of_some hchanged.nodes_self
  have hwritten := writeAt_changed hfile content
  have hkeeps' : KeepsDirs s' (s'.writeAt (fs.locate newPath) content) :=
    hwritten.keepsDirs_of_not_dirAt (not_dirAt_of_file hfile)
  have hresolve' := hkeeps'.resolve (hgrown.keepsDirs.resolve (hkeeps.resolve hresolve))
  refine ⟨read_eq_ok_iff.2 ⟨_, _, hresolve', hwritten.nodes_self⟩,
    fileAt_of_file hwritten.nodes_self, ⟨w.fs, rfl, hnew⟩, ?_⟩
  have hsame : s.locate newPath = fs.locate newPath := by
    rw [locate_congr hchanged.cwd, hlocate]
  simp [hforeign, hsame, hchanged.nodes_self]

/-- The directories of the new file are made, if it has any. -/
theorem Quiet.withParent (h : Quiet newPath fs w) :
    Quiet newPath fs (w.withFs (w.fs.withParent newPath)) := by
  unfold FileSystem.withParent
  split
  · exact h
  · next parent hparent => exact h.makesDirs hparent (makesDirs_createDirAll w.fs parent)

/-- What `migrate_v17_secret_from_profile` does: it ends before the write, or it writes the content
of the legacy file, or it fails on the way and leaves a part of it. -/
theorem wp_migrateV17SecretFromProfile (creator : Creator newPath) (fault : Option Fault)
    (profileDir : Path) (fs : FileSystem) :
    (migrateV17SecretFromProfile creator fault profileDir).wp
      (fun status w => status ≠ .copied ∧ Ended creator fault profileDir fs w ∨
        status = .copied ∧ ∃ content, ReachesWrite creator profileDir fs content ∧
          (∀ n < content.length, ¬FailsAt fault (.write n)) ∧ Wrote newPath fs content w)
      (fun _ w => Ended creator fault profileDir fs w ∨
        ∃ content n, ReachesWrite creator profileDir fs content ∧ n < content.length ∧
          FailsAt fault (.write n) ∧ Wrote newPath fs (content.take n) w)
      (.start newPath fs) := by
  unfold migrateV17SecretFromProfile
  have hquiet₁ := (quiet_start newPath fs).disturbed creator .newExists
  rw [wp_bind]
  refine wp_doesExist (fun node hnode => ?_) fun _ => ?_
  · rw [if_pos rfl, wp_pure]
    refine .inl ⟨by simp, hquiet₁.ended rfl (.inr fun content hreaches => ?_)⟩
    exact hreaches.not_exists ((creator.grows .oldExists _).trans (grown_beforeCreate creator fs))
      hnode
  have hquiet₂ := hquiet₁.disturbed creator .oldExists
  simp only [Bool.false_eq_true, if_false]
  rw [wp_bind]
  refine wp_doesExist (fun node hold => ?_) fun hfails => ?_
  swap
  · simp only [Bool.not_false, if_true, wp_pure]
    refine .inl ⟨by simp, hquiet₂.ended rfl ?_⟩
    refine hfails.imp (fun hfault => ⟨_, hfault, by simp⟩) fun hmissing content hreaches => ?_
    obtain ⟨error, herror⟩ := hmissing
    obtain ⟨location, mode, hresolve, hfile⟩ := read_eq_ok_iff.1 hreaches.legacy
    have hok := metadata_eq_ok_iff.2 ⟨location, hresolve, hfile⟩
    cases herror.symm.trans hok
  simp only [Bool.not_true, Bool.false_eq_true, if_false]
  rw [wp_bind]
  -- There is a legacy file, and none at the new path.
  have hquiet₃ := hquiet₂.disturbed creator .createDirAll
  refine wp_createParent (fun e parent s hparent hmakes hwhy => ?_) fun hmade => ?_
  · refine .inl ((hquiet₃.makesDirs hparent hmakes).ended rfl ?_)
    rcases hwhy with ⟨n, hfault⟩ | hfailed
    · exact .inl ⟨_, hfault, by simp⟩
    · exact .inr fun content hreaches => hfailed (hreaches.parent parent hparent)
  have hquiet₄ := hquiet₃.withParent.disturbed creator .newExistsAgain
  rw [wp_bind]
  refine wp_doesExist (fun node hnode => ?_) fun _ => ?_
  · rw [if_pos rfl, wp_pure]
    refine .inl ⟨by simp, hquiet₄.ended rfl (.inr fun content hreaches => ?_)⟩
    exact hreaches.not_exists ((creator.grows .readOld _).trans (creator.grows .createNew _)) hnode
  simp only [Bool.false_eq_true, if_false]
  rw [wp_bind]
  have hquiet₅ := hquiet₄.disturbed creator .readOld
  -- What was the legacy file when it was looked for is what is read.
  have hgrown := (creator.grows .createDirAll (beforeOld creator fs)).trans
    ((grown_withParent newPath _).trans ((creator.grows .newExistsAgain _).trans
      (creator.grows .readOld _)))
  refine wp_readOld (fun e hfails => ?_) fun content hread => ?_
  · refine .inl (hquiet₅.ended rfl ?_)
    refine hfails.imp (fun hfault => ⟨_, hfault, by simp⟩) fun hunread content hreaches => ?_
    obtain ⟨error, herror⟩ := hunread
    have hok := hgrown.read hreaches.legacy
    cases herror.symm.trans hok
  have hlegacy := hgrown.read_before hold hread
  rw [wp_bind]
  have hquiet₆ := hquiet₅.disturbed creator .createNew
  refine wp_createNewFile (fun hfails => ?_) fun file s hcreate => ?_
  · have hwhy : (∃ point, FailsAt fault point ∧ ∀ n, point ≠ .write n) ∨
        ∀ content, ¬ReachesWrite creator profileDir fs content := by
      refine hfails.imp (fun hfault => ⟨_, hfault, by simp⟩) fun htaken content hreaches => ?_
      obtain ⟨error, herror⟩ := htaken
      obtain ⟨file, s, hok⟩ := hreaches.free
      cases herror.symm.trans hok
    simp only [wp_pure]
    exact ⟨.inl ⟨by simp, hquiet₆.ended_noted hwhy⟩, fun e => .inl (hquiet₆.ended_noted hwhy)⟩
  have hreaches : ReachesWrite creator profileDir fs content := ⟨hlegacy, hmade, file, s, hcreate⟩
  simp only
  rw [wp_bind]
  -- The new file was created by this run, so no one else creates it meanwhile.
  have hwrote := wrote_of_createNew hquiet₆ hcreate (creator.grows .writeAll s)
  refine wp_writeNewFile (fun e n hfault hn => ?_) fun hwritten => ?_
  · exact .inr ⟨content, n, hreaches, hn, hfault, hwrote _⟩
  · rw [wp_pure]
    exact .inr ⟨rfl, content, hreaches, hwritten, hwrote _⟩

/-! ## Running it again -/

/-- Where the directories of the new file can be made, what is on the way to it is a directory
then. -/
theorem dirAt_withParent {parent : Path} (hparent : newPath.parent = some parent)
    (hok : (fs.createDirAll parent).1 = .ok ()) {before : List Component}
    (hbefore : before <+: parent.components) :
    DirAt (fs.withParent newPath).nodes (fs.locate ⟨parent.absolute, before⟩) := by
  have hleads := ((leadsToDir_of_createDirAll hok).before hbefore).dirAt_locate
  rw [locate_congr (extends_createDirAll fs parent).cwd] at hleads
  unfold FileSystem.withParent
  rw [hparent]
  exact hleads

/-- What changes when the directories of the new file are made is on the way to it. -/
theorem onWay_of_withParent {location : Location}
    (hne : (fs.withParent newPath).nodes location ≠ fs.nodes location) :
    ∃ parent, newPath.parent = some parent ∧ ∃ before, before <+: parent.components ∧
      location = fs.locate ⟨parent.absolute, before⟩ := by
  unfold FileSystem.withParent at hne
  split at hne
  · exact absurd rfl hne
  · next parent hparent =>
    exact ⟨parent, hparent, (makesDirs_createDirAll fs parent).onWay location hne⟩

/-- A run that nobody disturbs gets to the write when the legacy file is there, the directories of
the new file can be made, and then the new path leads to where there is nothing. -/
theorem reachesWrite_idle_iff {content : List UInt8} :
    ReachesWrite (idle newPath) profileDir fs content ↔
      fs.read (v17SecretPathFromProfile profileDir) = .ok content ∧
      (∀ parent, newPath.parent = some parent → (fs.createDirAll parent).1 = .ok ()) ∧
      (fs.withParent newPath).resolve newPath = .ok (fs.locate newPath) ∧
      (fs.withParent newPath).nodes (fs.locate newPath) = none := by
  have hlocate := locate_congr (grown_withParent newPath fs).cwd
  constructor
  · intro ⟨hlegacy, hparent, file, s, hcreate⟩
    obtain ⟨hresolve, hnew, -⟩ := createNew_eq_ok hcreate
    obtain rfl : file = fs.locate newPath := by
      rw [← hlocate]
      exact locate_of_resolve hresolve
    exact ⟨hlegacy, hparent, hresolve, hnew⟩
  · intro ⟨hlegacy, hparent, hresolve, hnew⟩
    obtain ⟨s, hcreate⟩ := createNew_ok 0o666 hresolve hnew
    exact ⟨hlegacy, hparent, _, s, hcreate⟩

/-- Such a run has a new path that is not on the way to itself. -/
theorem ReachesWrite.not_onWay {content : List UInt8}
    (h : ReachesWrite (idle newPath) profileDir fs content) : ¬OnWay newPath fs := by
  rintro ⟨parent, hparent, before, hbefore, hlocation⟩
  obtain ⟨-, hok, -, hnew⟩ := reachesWrite_idle_iff.1 h
  have hdir := dirAt_withParent hparent (hok parent hparent) hbefore
  rw [← hlocation] at hdir
  exact not_dirAt_of_none hnew hdir

/-- It gets to the write again where no more than directories were made, and none at the new
path. -/
theorem ReachesWrite.again {content : List UInt8}
    (h : ReachesWrite (idle newPath) profileDir fs content) (hextends : Extends fs s)
    (hfree : s.nodes (fs.locate newPath) = none) :
    ReachesWrite (idle newPath) profileDir s content := by
  obtain ⟨hlegacy, hok, hresolve, -⟩ := reachesWrite_idle_iff.1 h
  have hlocate := locate_congr hextends.cwd
  have hok' : ∀ parent, newPath.parent = some parent → (s.createDirAll parent).1 = .ok () := by
    intro parent hparent
    have hclear := createDirAll_ok_iff.1 (hok parent hparent)
    exact createDirAll_ok_iff.2 (hclear.mono hextends)
  -- What the first run makes is there or is made again.
  have hkeeps : KeepsDirs (fs.withParent newPath) (s.withParent newPath) := by
    have hgrown := (grown_of_extends newPath hextends).trans (grown_withParent newPath s)
    refine ⟨hgrown.cwd.trans (grown_withParent newPath fs).cwd.symm, fun location hdir => ?_⟩
    by_cases hsame : (fs.withParent newPath).nodes location = fs.nodes location
    · rw [DirAt, hsame] at hdir
      exact hgrown.keepsDirs.dirs location hdir
    · obtain ⟨parent, hparent, before, hbefore, rfl⟩ := onWay_of_withParent hsame
      rw [← hlocate]
      exact dirAt_withParent hparent (hok' parent hparent) hbefore
  have hnone : (s.withParent newPath).nodes (fs.locate newPath) = none := by
    by_cases hsame : (s.withParent newPath).nodes (fs.locate newPath) =
        s.nodes (fs.locate newPath)
    · rw [hsame, hfree]
    · obtain ⟨parent, hparent, before, hbefore, hlocation⟩ := onWay_of_withParent hsame
      rw [hlocate] at hlocation
      exact absurd ⟨parent, hparent, before, hbefore, hlocation⟩ h.not_onWay
  refine reachesWrite_idle_iff.2 ⟨(grown_of_extends newPath hextends).read hlegacy, hok', ?_, ?_⟩
  · rw [hlocate]
    exact hkeeps.resolve hresolve
  · rw [hlocate]
    exact hnone

/-- A run that nobody disturbs, and in which nothing fails, copies exactly when it gets to the
write. -/
theorem migrate_copies_iff :
    ((migrateV17SecretFromProfile (idle newPath) none profileDir).exec (.start newPath fs)).1 =
        .ok .copied ↔
      ∃ content, ReachesWrite (idle newPath) profileDir fs content := by
  have hrun := wp_migrateV17SecretFromProfile (idle newPath) none profileDir fs
  rcases hexec : (migrateV17SecretFromProfile (idle newPath) none profileDir).exec
    (.start newPath fs) with ⟨outcome, w⟩
  cases outcome with
  | error e =>
    rw [wp_iff_of_error hexec] at hrun
    rcases hrun with hended | ⟨content, n, -, -, hfault, -⟩
    · obtain ⟨point, hfault, -⟩ | hnot := hended.why
      · exact nomatch hfault
      · simpa using hnot
    · exact nomatch hfault
  | ok status =>
    rw [wp_iff_of_ok hexec] at hrun
    rcases hrun with ⟨hne, hended⟩ | ⟨rfl, content, hreaches, -⟩
    · obtain ⟨point, hfault, -⟩ | hnot := hended.why
      · exact nomatch hfault
      · simpa [hne] using hnot
    · exact ⟨fun _ => ⟨content, hreaches⟩, fun _ => rfl⟩

/-- What is copied are the bytes of the legacy file. -/
theorem ReachesWrite.legacy_file {content : List UInt8}
    (h : ReachesWrite creator profileDir fs content) :
    fs.fileAt (fs.locate (v17SecretPathFromProfile profileDir)) = some content := by
  have hgrown : Grown newPath fs (beforeOld creator fs) :=
    (creator.grows .newExists fs).trans (creator.grows .oldExists _)
  obtain ⟨location, mode, hresolve, hfile⟩ := read_eq_ok_iff.1 h.legacy
  have hlocation := locate_of_resolve hresolve
  rw [locate_congr hgrown.cwd] at hlocation
  subst hlocation
  refine fileAt_of_file (hgrown.nodes_of_file (fun heq => ?_) hfile)
  -- The legacy file is not the new file, which is not there.
  obtain ⟨file, s, hcreate⟩ := h.free
  obtain ⟨hresolve', hnew, -⟩ := createNew_eq_ok hcreate
  have hgrown' := grown_beforeCreate creator fs
  have hfile' := hgrown'.nodes_of_some hfile
  have hlocation' := locate_of_resolve hresolve'
  rw [locate_congr (hgrown.trans hgrown').cwd, ← heq] at hlocation'
  rw [hlocation'] at hnew
  exact nomatch hnew.symm.trans hfile'

/-- Where a run has ended before the write, what was at the new path is there still. -/
theorem Ended.kept (h : Ended creator fault profileDir fs w) :
    ∀ before, w.tried = some before → before.nodes (fs.locate newPath) ≠ none →
      w.fs.nodes (fs.locate newPath) = before.nodes (fs.locate newPath) := by
  intro before htried _
  rw [h.tried before htried]

/-- The write of such a run has not failed. -/
theorem Ended.not_failed (h : Ended creator fault profileDir fs w) :
    ¬∃ content n, ReachesWrite creator profileDir fs content ∧ n < content.length ∧
      FailsAt fault (.write n) := by
  rintro ⟨content, n, hreaches, -, hfault⟩
  rcases h.why with ⟨point, hfault', hpoint⟩ | hnot
  · exact hpoint n (hfault'.unique hfault)
  · exact hnot content hreaches

/-- If nobody else has created the new file, there is none, and another run without a fault gets to
the write if the first one would have without it: at most directories are new. -/
theorem Ended.repeats (h : Ended creator fault profileDir fs w) (hforeign : w.foreign = false) :
    w.fs.fileAt (fs.locate newPath) = none ∧
      ∀ content, ReachesWrite (idle newPath) profileDir fs content →
        ReachesWrite (idle newPath) profileDir w.fs content := by
  have hextends := h.quiet.extend hforeign
  refine ⟨?_, fun content hreaches => ?_⟩
  · rw [hextends.keepsFiles.files]
    simp [fileAt, h.quiet.absent hforeign]
  · have hfree := (h.quiet.free hforeign).resolve_right hreaches.not_onWay
    exact hreaches.again hextends hfree

/-- What is asked of the migration. What was at the new path when the new file was to be created is
still there. When it says that it has copied, the new path has the bytes of the legacy file. When it
fails, and nobody else has created the new file, there is none, and a run without the fault copies
if it had copied before. -/
def Repeatable (creator : Creator newPath) (fault : Option Fault) (profileDir : Path)
    (fs : FileSystem) : Prop :=
  let (outcome, w) :=
    (migrateV17SecretFromProfile creator fault profileDir).exec (.start newPath fs)
  let undisturbed (fs : FileSystem) :=
    ((migrateV17SecretFromProfile (idle newPath) none profileDir).exec (.start newPath fs)).1
  (∀ before, w.tried = some before → before.nodes (fs.locate newPath) ≠ none →
      w.fs.nodes (fs.locate newPath) = before.nodes (fs.locate newPath)) ∧
    (outcome = .ok .copied →
      ∃ content, fs.fileAt (fs.locate (v17SecretPathFromProfile profileDir)) = some content ∧
        w.fs.read newPath = .ok content) ∧
    ∀ error, outcome = .error error → w.foreign = false →
      w.fs.fileAt (fs.locate newPath) = none ∧
        (undisturbed fs = .ok .copied → undisturbed w.fs = .ok .copied)

/-- The migration can be repeated, from every file system, with every fault and whoever creates the
new file meanwhile, unless the write is what fails. -/
theorem migration_repeatable_iff (creator : Creator newPath) (fault : Option Fault)
    (profileDir : Path) (fs : FileSystem) :
    Repeatable creator fault profileDir fs ↔
      ¬∃ content n, ReachesWrite creator profileDir fs content ∧ n < content.length ∧
        FailsAt fault (.write n) := by
  have hrun := wp_migrateV17SecretFromProfile creator fault profileDir fs
  unfold Repeatable
  rcases hexec : (migrateV17SecretFromProfile creator fault profileDir).exec
    (.start newPath fs) with ⟨outcome, w⟩
  cases outcome with
  | ok status =>
    rw [wp_iff_of_ok hexec] at hrun
    rcases hrun with ⟨hne, h⟩ | ⟨rfl, content, hreaches, hwritten, hwrote⟩
    · refine ⟨fun _ => h.not_failed, fun _ => ⟨h.kept, fun heq => ?_,
        fun error heq => (nomatch heq)⟩⟩
      exact absurd (Except.ok.inj heq) hne
    · -- The content was written whole, where there was nothing.
      obtain ⟨before, htried, hnone⟩ := hwrote.tried
      refine ⟨fun _ => ?_, fun _ => ⟨?_, fun _ => ⟨content, hreaches.legacy_file, hwrote.read⟩,
        fun error heq => (nomatch heq)⟩⟩
      · rintro ⟨content', n, hreaches', hn, hfault⟩
        obtain rfl := Except.ok.inj (hreaches.legacy.symm.trans hreaches'.legacy)
        exact hwritten n hn hfault
      · intro before' htried' hne
        obtain rfl := Option.some.inj (htried.symm.trans htried')
        exact absurd hnone hne
  | error e =>
    rw [wp_iff_of_error hexec] at hrun
    rcases hrun with h | ⟨content, n, hreaches, hn, hfault, hwrote⟩
    · refine ⟨fun _ => h.not_failed, fun _ => ⟨h.kept, fun heq => (nomatch heq), ?_⟩⟩
      intro error _ hforeign
      obtain ⟨habsent, hrepeats⟩ := h.repeats hforeign
      refine ⟨habsent, fun hcopies => ?_⟩
      obtain ⟨content, hreaches⟩ := migrate_copies_iff.1 hcopies
      exact migrate_copies_iff.2 ⟨content, hrepeats content hreaches⟩
    · -- The write has failed, and a part of the secret is at the new path.
      refine ⟨fun hrepeatable => ?_, fun hnot => absurd ⟨content, n, hreaches, hn, hfault⟩ hnot⟩
      have hnone := (hrepeatable.2.2 e rfl hwrote.foreign).1
      rw [hwrote.file] at hnone
      cases hnone

/-- A file system with the legacy file of the profile `/user`, and nothing else. -/
def legacyOnly : FileSystem :=
  let root := bare 0o755 0o022
  let oldPath := v17SecretPathFromProfile ⟨true, [.normal (.unicode "user")]⟩
  match (root.withParent oldPath).create oldPath with
  | .ok (file, fs) => fs.writeAt file [0x61, 0x62]
  | .error _ => root

/-- The disk is full when the configuration is to be written: an empty file is left, and the next
run takes it for a configuration. -/
theorem failed_migration_configures :
    let newPath : Path := ⟨true, [.normal (.unicode "data"), .normal (.unicode "playit.toml")]⟩
    let profileDir : Path := ⟨true, [.normal (.unicode "user")]⟩
    let fault : Fault := ⟨.write 0, "There is not enough space on the disk. (os error 112)"⟩
    let run := (migrateV17SecretFromProfile (idle newPath) (some fault) profileDir).exec
      (.start newPath legacyOnly)
    let again := (migrateV17SecretFromProfile (idle newPath) none profileDir).exec
      (.start newPath run.2.fs)
    run.1.isOk = false ∧ run.2.fs.read newPath = .ok [] ∧ again.1 = .ok .alreadyConfigured ∧
      ¬Repeatable (idle newPath) (some fault) profileDir legacyOnly := by
  refine ⟨by decide, by decide, by decide, fun h => ?_⟩
  have hnone := (h.2.2 _ rfl (by decide)).1
  exact absurd hnone (by decide)

end

end SecretMigration

end PlayitAgent
