import PlayitAgent.Runtime.SecretParent

/-!
# Replacing the secret file

`secure_write_secret_file_blocking` makes a temporary file beside the secret file, fills it, and has
it take the place of the secret file. Up to that point a failure leaves everything as it was, since
the temporary file is removed; behind it only the mode is changed. A failure of that last call is
returned as an error, and leaves the new secret in place.
-/

namespace PlayitAgent

namespace SecretFile

open FileSystem Fallible

variable {fs s s' : FileSystem} {path tmp : Path} {content : List UInt8}

/-! ## The temporary file -/

/-- The temporary file is there, with some content, and nothing else has changed. -/
structure TmpState (fs : FileSystem) (tmp : Path) (content : List UInt8) (s : FileSystem) :
    Prop where
  cwd : s.cwd = fs.cwd
  fresh : fs.nodes (fs.locate tmp) = none
  resolves : s.resolve tmp = .ok (fs.locate tmp)
  file : ∃ mode, s.nodes (fs.locate tmp) = some (.file content mode)
  others : ∀ location, location ≠ fs.locate tmp → s.nodes location = fs.nodes location

/-- A temporary file that was just created. -/
theorem tmpState_of_createNew {mode : ℕ} {file : Location}
    (h : fs.createNew tmp mode = .ok (file, s)) :
    file = fs.locate tmp ∧ TmpState fs tmp [] s := by
  obtain ⟨hresolve, hnew, hchanged⟩ := createNew_eq_ok h
  obtain rfl := locate_of_resolve hresolve
  -- A new file is no directory, so what leads to it leads there still.
  have hkeeps : KeepsDirs fs s :=
    hchanged.keepsDirs_of_not_dirAt (not_dirAt_of_none hnew)
  exact ⟨rfl, hchanged.cwd, hnew, hkeeps.resolve hresolve, ⟨_, hchanged.nodes_self⟩,
    fun _ hne => hchanged.nodes_of_ne hne⟩

namespace TmpState

/-- Directories are what they were. -/
theorem dirAt_iff (h : TmpState fs tmp content s) (location : Location) :
    DirAt s.nodes location ↔ DirAt fs.nodes location := by
  by_cases heq : location = fs.locate tmp
  · obtain ⟨mode, hfile⟩ := h.file
    subst heq
    simp [DirAt, hfile, h.fresh]
  · simp only [DirAt, h.others location heq]

/-- Paths lead where they led. -/
theorem resolve_iff (h : TmpState fs tmp content s) {target : Location} :
    s.resolve path = .ok target ↔ fs.resolve path = .ok target := by
  have hkeeps : KeepsDirs fs s := ⟨h.cwd, fun l hl => (h.dirAt_iff l).2 hl⟩
  have hkeeps' : KeepsDirs s fs := ⟨h.cwd.symm, fun l hl => (h.dirAt_iff l).1 hl⟩
  exact ⟨hkeeps'.resolve, hkeeps.resolve⟩

/-- One more change of the temporary file. -/
theorem changed (h : TmpState fs tmp content s) {content' : List UInt8} {mode : ℕ}
    (hchanged : s.Changed (fs.locate tmp) (some (.file content' mode)) s') :
    TmpState fs tmp content' s' := by
  obtain ⟨mode', hfile⟩ := h.file
  have hkeeps : KeepsDirs s s' :=
    hchanged.keepsDirs_of_not_dirAt (not_dirAt_of_file hfile)
  refine ⟨hchanged.cwd.trans h.cwd, h.fresh, hkeeps.resolve h.resolves,
    ⟨mode, hchanged.nodes_self⟩, fun location hne => ?_⟩
  rw [hchanged.nodes_of_ne hne, h.others location hne]

/-- The content of the temporary file is written. -/
theorem write (h : TmpState fs tmp content s) (content' : List UInt8) :
    TmpState fs tmp content' (s.writeAt (fs.locate tmp) content') := by
  obtain ⟨mode, hfile⟩ := h.file
  exact h.changed (writeAt_changed hfile content')

/-- The mode of the temporary file can be changed. -/
theorem setPermissions (h : TmpState fs tmp content s) (mode : ℕ) :
    ∃ s', s.setPermissions tmp mode = .ok s' ∧ TmpState fs tmp content s' := by
  obtain ⟨mode', hfile⟩ := h.file
  obtain ⟨s', hchmod, hchanged⟩ := chmodAt_ok hfile mode
  refine ⟨s', ?_, h.changed hchanged⟩
  unfold FileSystem.setPermissions
  rw [h.resolves]
  exact hchmod

/-- The temporary file is removed, and everything is what it was. -/
theorem removeTmp (h : TmpState fs tmp content s) :
    (removeTmp tmp s).cwd = fs.cwd ∧ (SecretFile.removeTmp tmp s).nodes = fs.nodes := by
  obtain ⟨mode, hfile⟩ := h.file
  obtain ⟨s', hremove, hchanged⟩ := removeAt_ok hfile
  have hremoveFile : s.removeFile tmp = .ok s' := by
    unfold removeFile
    rw [h.resolves]
    exact hremove
  unfold SecretFile.removeTmp
  rw [hremoveFile]
  refine ⟨hchanged.cwd.trans h.cwd, funext fun location => ?_⟩
  by_cases heq : location = fs.locate tmp
  · rw [heq, hchanged.nodes_self, h.fresh]
  · rw [hchanged.nodes_of_ne heq, h.others location heq]

end TmpState

/-! ## The secret file -/

/-- The temporary file can be made, and can take the place of what is at the path. -/
structure Replaceable (fs : FileSystem) (path tmp : Path) : Prop where
  tmp : ∃ location, fs.resolve tmp = .ok location ∧ fs.nodes location = none
  path : ∃ location, fs.resolve path = .ok location ∧ ¬DirAt fs.nodes location

/-- The temporary file has taken the place of what was at the path. -/
structure Replaced (fs : FileSystem) (path tmp : Path) (content : List UInt8) (s : FileSystem) :
    Prop where
  cwd : s.cwd = fs.cwd
  resolves : s.resolve path = .ok (fs.locate path)
  file : ∃ mode, s.nodes (fs.locate path) = some (.file content mode)
  others : ∀ location, location ≠ fs.locate path → location ≠ fs.locate tmp →
    s.nodes location = fs.nodes location
  tmp : s.nodes (fs.locate tmp) = none

/-- What `rename` does to the temporary file. -/
theorem TmpState.rename_eq (h : TmpState fs tmp content s) {mode : ℕ}
    (hfile : s.nodes (fs.locate tmp) = some (.file content mode))
    (hresolve : s.resolve path = .ok (fs.locate path)) (hne : fs.locate path ≠ fs.locate tmp) :
    s.rename tmp path =
      (s.replaceAt (fs.locate path) content mode >>= fun s₁ => s₁.removeAt (fs.locate tmp)) := by
  unfold rename
  rw [h.resolves, hresolve]
  simp only [bind, Except.bind, hfile, if_neg hne.symm]

/-- The temporary file has taken its place: what it was renamed to, and that it is gone. -/
theorem TmpState.replaced (h : TmpState fs tmp content s) {mode : ℕ} {s₁ : FileSystem}
    (hresolve : s.resolve path = .ok (fs.locate path)) (hne : fs.locate path ≠ fs.locate tmp)
    (hdir : ¬DirAt s.nodes (fs.locate path))
    (hreplace : s.Changed (fs.locate path) (some (.file content mode)) s₁)
    (hremove : s₁.Changed (fs.locate tmp) none s') : Replaced fs path tmp content s' := by
  obtain ⟨mode', hfile⟩ := h.file
  have hfile₁ : s₁.nodes (fs.locate tmp) = some (.file content mode') := by
    rw [hreplace.nodes_of_ne hne.symm, hfile]
  -- Neither the file that is replaced nor the temporary file is a directory.
  have hkeeps : KeepsDirs s s₁ := hreplace.keepsDirs_of_not_dirAt hdir
  have hkeeps' : KeepsDirs s₁ s' :=
    hremove.keepsDirs_of_not_dirAt (not_dirAt_of_file hfile₁)
  refine ⟨hremove.cwd.trans (hreplace.cwd.trans h.cwd), hkeeps'.resolve (hkeeps.resolve hresolve),
    ⟨mode, ?_⟩, fun location hpath htmp => ?_, hremove.nodes_self⟩
  · rw [hremove.nodes_of_ne hne, hreplace.nodes_self]
  · rw [hremove.nodes_of_ne htmp, hreplace.nodes_of_ne hpath, h.others location htmp]

/-- The temporary file takes the place of what is at the path, unless that is a directory or
nowhere. -/
theorem TmpState.rename_ok (h : TmpState fs tmp content s) {location : Location}
    (hresolve : fs.resolve path = .ok location) (hdir : ¬DirAt fs.nodes location)
    (hne : fs.locate path ≠ fs.locate tmp) :
    ∃ s', s.rename tmp path = .ok s' ∧ Replaced fs path tmp content s' := by
  obtain rfl := locate_of_resolve hresolve
  obtain ⟨mode, hfile⟩ := h.file
  have hresolve' := h.resolve_iff.2 hresolve
  have hdir' : ¬DirAt s.nodes (fs.locate path) := fun hd => hdir ((h.dirAt_iff _).1 hd)
  have hparent := (h.dirAt_iff _).2 (dirAt_dropLast_of_not_dirAt hresolve hdir)
  obtain ⟨s₁, hreplace, hchanged⟩ := replaceAt_ok content mode hdir' hparent
  have hfile₁ : s₁.nodes (fs.locate tmp) = some (.file content mode) := by
    rw [hchanged.nodes_of_ne hne.symm, hfile]
  obtain ⟨s', hremove, hchanged'⟩ := removeAt_ok hfile₁
  refine ⟨s', ?_, h.replaced hresolve' hne hdir' hchanged hchanged'⟩
  rw [h.rename_eq hfile hresolve' hne, hreplace]
  exact hremove

/-- When it does, it can. -/
theorem TmpState.of_rename (h : TmpState fs tmp content s) (hrename : s.rename tmp path = .ok s')
    (hne : fs.locate path ≠ fs.locate tmp) :
    (∃ location, fs.resolve path = .ok location ∧ ¬DirAt fs.nodes location) ∧
      Replaced fs path tmp content s' := by
  obtain ⟨mode, hfile⟩ := h.file
  obtain ⟨location, hresolve'⟩ : ∃ location, s.resolve path = .ok location := by
    obtain ⟨origin, -, htarget⟩ := except_bind_eq_ok.1 hrename
    obtain ⟨location, hlocation, -⟩ := except_bind_eq_ok.1 htarget
    exact ⟨location, hlocation⟩
  have hresolve := h.resolve_iff.1 hresolve'
  obtain rfl := locate_of_resolve hresolve
  rw [h.rename_eq hfile hresolve' hne] at hrename
  obtain ⟨s₁, hreplace, hremove⟩ := except_bind_eq_ok.1 hrename
  obtain ⟨hdir', hchanged⟩ := changed_of_replaceAt hreplace
  obtain ⟨-, hchanged'⟩ := changed_of_removeAt hremove
  exact ⟨⟨_, hresolve, fun hd => hdir' ((h.dirAt_iff _).2 hd)⟩,
    h.replaced hresolve' hne hdir' hchanged hchanged'⟩

/-- The secret file is there, and its mode can be changed. -/
theorem Replaced.setPermissions (h : Replaced fs path tmp content s) (mode : ℕ) :
    ∃ s', s.setPermissions path mode = .ok s' ∧ Replaced fs path tmp content s' := by
  obtain ⟨mode', hfile⟩ := h.file
  obtain ⟨s', hchmod, hchanged⟩ := chmodAt_ok hfile mode
  have hkeeps : KeepsDirs s s' :=
    hchanged.keepsDirs_of_not_dirAt (not_dirAt_of_file hfile)
  -- The temporary file is gone, and the secret file is there.
  have hne : fs.locate tmp ≠ fs.locate path := by
    intro heq
    rw [← heq, h.tmp] at hfile
    cases hfile
  refine ⟨s', ?_, hchanged.cwd.trans h.cwd, hkeeps.resolve h.resolves, ⟨mode, hchanged.nodes_self⟩,
    fun location hpath htmp => ?_, ?_⟩
  · unfold FileSystem.setPermissions
    rw [h.resolves]
    exact hchmod
  · rw [hchanged.nodes_of_ne hpath, h.others location hpath htmp]
  · rw [hchanged.nodes_of_ne hne, h.tmp]

/-- Before the temporary file has taken its place, a failure leaves it as the only change. -/
def Unreplaced (fs : FileSystem) (tmp : Path) (s : FileSystem) : Prop :=
  s = fs ∨ ∃ content, TmpState fs tmp content s

/-- What the closure leaves when it fails: the new secret, exactly when all that fails is the last
call. -/
def FailedReplacement (fault : Option Fault) (fs : FileSystem) (path tmp : Path)
    (content : List UInt8) (s : FileSystem) : Prop :=
  (FailsAt fault .finalPermissions ∧ Replaceable fs path tmp →
      Replaced fs path tmp content s) ∧
    (¬(FailsAt fault .finalPermissions ∧ Replaceable fs path tmp) → Unreplaced fs tmp s)

/-- The closure fails before the last call: another call fails because of the fault, or by itself,
and then the replacement is not possible. -/
theorem failedReplacement_of_unreplaced {fault : Option Fault} (point : FaultPoint)
    (hpoint : point ≠ .finalPermissions)
    (h : FailsAt fault point ∨ ¬Replaceable fs path tmp) (hs : Unreplaced fs tmp s) :
    FailedReplacement fault fs path tmp content s := by
  refine ⟨fun ⟨hfinal, hreplaceable⟩ => ?_, fun _ => hs⟩
  rcases h with h | h
  · exact absurd (h.unique hfinal) hpoint
  · exact absurd hreplaceable h

/-- What the closure does, from the write on. -/
theorem wp_fill (fault : Option Fault) {content' : List UInt8}
    (h : TmpState fs tmp content' s) (hne : fs.locate path ≠ fs.locate tmp)
    (htmp : ∃ location, fs.resolve tmp = .ok location ∧ fs.nodes location = none)
    (message₁ message₂ message₃ message₄ : String) :
    Fallible.wp (do
      writeAll fault message₁ (fs.locate tmp) content
      command fault .sync message₂ .ok
      command fault .replace message₃ (·.rename tmp path)
      command fault .finalPermissions message₄ (·.setPermissions path 0o600))
      (fun _ s' => Replaced fs path tmp content s' ∧ ¬FailsAt fault .finalPermissions)
      (fun _ s' => FailedReplacement fault fs path tmp content s') s := by
  rw [wp_bind]
  refine wp_writeAll (fun e n hfails => ?_) ?_
  · exact failedReplacement_of_unreplaced (.write n) (by simp) (.inl hfails) (.inr ⟨_, h.write _⟩)
  have hfilled := h.write content
  rw [wp_bind]
  refine wp_command (fun e hfails => ?_) fun s₁ _ hsync => ?_
  · have hfault := hfails.resolve_right fun ⟨error, herror⟩ => nomatch herror
    exact failedReplacement_of_unreplaced .sync (by simp) (.inl hfault) (.inr ⟨_, hfilled⟩)
  obtain rfl := Except.ok.inj hsync
  rw [wp_bind]
  refine wp_command (fun e hfails => ?_) fun s₂ _ hrename => ?_
  · -- A rename that fails by itself finds a directory at the path, or nothing before it.
    refine failedReplacement_of_unreplaced .replace (by simp) ?_ (.inr ⟨_, hfilled⟩)
    refine hfails.imp_right fun ⟨error, herror⟩ ⟨_, location, hresolve, hdir⟩ => ?_
    obtain ⟨s', hok, -⟩ := hfilled.rename_ok hresolve hdir hne
    exact nomatch herror.symm.trans hok
  -- From here on the new secret is in its place, and only the last call can fail.
  obtain ⟨hpath, hreplaced⟩ := hfilled.of_rename hrename hne
  obtain ⟨s₃, hset, hreplaced'⟩ := hreplaced.setPermissions 0o600
  refine wp_command (fun e hfails => ?_) fun s₄ hnot hset' => ?_
  · have hfinal := hfails.resolve_right fun ⟨error, herror⟩ => nomatch herror.symm.trans hset
    exact ⟨fun _ => hreplaced, fun hnot => absurd ⟨hfinal, htmp, hpath⟩ hnot⟩
  · obtain rfl := Except.ok.inj (hset.symm.trans hset')
    exact ⟨hreplaced', hnot⟩

/-- What the closure does: it replaces the secret file, or it fails. -/
theorem wp_replaceSecretFile (platform : Platform) (fault : Option Fault) {parent : Path}
    {name : OsName} (hne : fs.locate path ≠ fs.locate (parent.join name)) :
    (replaceSecretFile platform fault path (parent.join name) content).wp
      (fun _ s => Replaced fs path (parent.join name) content s ∧
        ¬FailsAt fault .finalPermissions)
      (fun _ s => FailedReplacement fault fs path (parent.join name) content s) fs := by
  unfold replaceSecretFile
  rw [wp_bind]
  refine wp_call (fun e hfails => ?_) fun file s₁ _ hcreate => ?_
  · -- A file that cannot be created by itself is there already, or its directory is not.
    refine failedReplacement_of_unreplaced .createTmp (by simp) ?_ (.inl rfl)
    refine hfails.imp_right fun ⟨error, herror⟩ ⟨⟨location, hresolve, hnew⟩, _⟩ => ?_
    obtain ⟨s', hok⟩ := createNew_ok 0o600 hresolve hnew
    exact nomatch herror.symm.trans hok
  obtain ⟨hresolve, hnew, -⟩ := createNew_eq_ok hcreate
  obtain ⟨rfl, htmp⟩ := tmpState_of_createNew hcreate
  have hfree : ∃ location, fs.resolve (parent.join name) = .ok location ∧
      fs.nodes location = none := ⟨_, hresolve, hnew⟩
  -- The two closures differ in how the temporary file is protected.
  cases platform with
  | unix => exact wp_fill fault htmp hne hfree _ _ _ _
  | windows =>
    obtain ⟨s₂, hprotect, htmp'⟩ := htmp.setPermissions 0o600
    simp only [if_true]
    rw [wp_bind]
    refine wp_command (fun e hfails => ?_) fun s₃ _ hprotect' => ?_
    · have hfault := hfails.resolve_right fun ⟨error, herror⟩ =>
        nomatch herror.symm.trans hprotect
      exact failedReplacement_of_unreplaced .protectTmp (by simp) (.inl hfault) (.inr ⟨_, htmp⟩)
    · obtain rfl := Except.ok.inj (hprotect.symm.trans hprotect')
      exact wp_fill fault htmp' hne hfree _ _ _ _

/-! ## Where the temporary file is -/

/-- The location that a path with one more component spells. -/
theorem locate_concat (fs : FileSystem) (absolute : Bool) (before : List Component)
    (component : Component) :
    fs.locate ⟨absolute, before ++ [component]⟩ =
      (fs.locate ⟨absolute, before⟩).enter component := by
  unfold locate
  rw [List.foldl_append]
  rfl

/-- The temporary file is in the directory that the path is in. -/
theorem locate_tmpParent (fs : FileSystem) (absolute : Bool) (before : List Component)
    (component : Component) :
    fs.locate (tmpParent ⟨absolute, before ++ [component]⟩) = fs.locate ⟨absolute, before⟩ := by
  have hparent : (⟨absolute, before ++ [component]⟩ : Path).parent = some ⟨absolute, before⟩ := by
    simp [Path.parent]
  unfold tmpParent secretParent
  rw [hparent, Option.filter_some]
  split_ifs with hne
  · rfl
  · obtain ⟨rfl, rfl⟩ : absolute = false ∧ before = [] := by simpa [Path.empty] using hne
    rfl

/-- The temporary file has another name than the secret file. -/
theorem tmpName_ne {name : OsName} (id : TmpId) (h : path.fileName = some name) :
    name ≠ .unicode (tmpName path id) := by
  cases name with
  | other bytes shown => simp
  | unicode text =>
    intro heq
    -- The name of the temporary file has that of the secret file in it, and a dot before that.
    have hlength := congrArg String.length (OsName.unicode.inj heq)
    simp only [tmpName, h, Option.bind_some, OsName.toStr, Option.getD_some,
      String.length_append] at hlength
    have hdot : ".".length = 1 := rfl
    omega

/-- The temporary file is not the secret file. -/
theorem locate_ne_tmpPath (fs : FileSystem) (path : Path) (id : TmpId) :
    fs.locate path ≠ fs.locate (tmpPath path id) := by
  obtain ⟨absolute, components⟩ := path
  unfold tmpPath Path.join
  rw [locate_concat, Location.enter]
  rcases List.eq_nil_or_concat' components with rfl | ⟨before, component, rfl⟩
  · -- A path without components is a directory on the way to the temporary file.
    intro heq
    have hlength := congrArg List.length heq
    cases absolute with
    | false =>
      change fs.cwd.length = (fs.cwd ++ [_]).length at hlength
      simp at hlength
    | true =>
      change ([] : Location).length = (fs.cwd ++ [_]).length at hlength
      simp at hlength
  · rw [locate_concat]
    change _ ≠ fs.locate (tmpParent ⟨absolute, before ++ [component]⟩) ++ _
    -- Both are in one directory, and have different names there.
    rw [locate_tmpParent]
    intro heq
    cases component with
    | curDir => simpa [Location.enter] using congrArg List.length heq
    | parentDir =>
      have hlength := congrArg List.length heq
      simp only [Location.enter, List.length_dropLast, List.length_append,
        List.length_singleton] at hlength
      omega
    | normal name =>
      have hname : name = .unicode (tmpName ⟨absolute, before ++ [.normal name]⟩ id) := by
        simpa [Location.enter] using heq
      exact tmpName_ne id (by simp [Path.fileName]) hname

/-! ## Cleaning up -/

/-- Nothing is left of the call: no other file has changed, and if there is a file with the name of
the temporary file, it was there before. -/
structure CleanedUp (fs : FileSystem) (tmp : Path) (s : FileSystem) : Prop where
  cwd : s.cwd = fs.cwd
  others : ∀ location, location ≠ fs.locate tmp → s.fileAt location = fs.fileAt location
  tmp : ∀ content, s.fileAt (fs.locate tmp) = some content →
    fs.fileAt (fs.locate tmp) = some content

/-- Where nothing has happened yet, the clean-up may remove a file that was there. -/
theorem cleanedUp_removeTmp (fs : FileSystem) (tmp : Path) :
    CleanedUp fs tmp (removeTmp tmp fs) := by
  unfold removeTmp removeFile
  cases hresolve : fs.resolve tmp with
  | error e => exact ⟨rfl, fun _ _ => rfl, fun _ h => h⟩
  | ok location =>
    obtain rfl := locate_of_resolve hresolve
    simp only [bind, Except.bind]
    cases hremove : fs.removeAt (fs.locate tmp) with
    | error e => exact ⟨rfl, fun _ _ => rfl, fun _ h => h⟩
    -- A file with the name of the temporary file stood there before.
    | ok fs' =>
      obtain ⟨-, hchanged⟩ := changed_of_removeAt hremove
      refine ⟨hchanged.cwd, fun location hne => fileAt_congr (hchanged.nodes_of_ne hne), ?_⟩
      intro content hcontent
      simp [fileAt, hchanged.nodes_self] at hcontent

/-- Where the temporary file is gone, the clean-up does nothing. -/
theorem removeTmp_of_absent (h : s.nodes (s.locate tmp) = none) : removeTmp tmp s = s := by
  unfold removeTmp removeFile
  cases hresolve : s.resolve tmp with
  | error e => rfl
  | ok location =>
    obtain rfl := locate_of_resolve hresolve
    simp only [bind, Except.bind]
    cases hremove : s.removeAt (s.locate tmp) with
    | error e => rfl
    | ok s' =>
      obtain ⟨⟨content, mode, hfile⟩, -⟩ := changed_of_removeAt hremove
      exact nomatch h.symm.trans hfile

/-- A failure before the replacement is cleaned up. -/
theorem Unreplaced.cleanedUp (h : Unreplaced fs tmp s) : CleanedUp fs tmp (removeTmp tmp s) := by
  rcases h with rfl | ⟨content, htmp⟩
  · exact cleanedUp_removeTmp s tmp
  · obtain ⟨hcwd, hnodes⟩ := htmp.removeTmp
    have hfiles (location : Location) :
        (removeTmp tmp s).fileAt location = fs.fileAt location :=
      fileAt_congr (congrFun hnodes location)
    refine ⟨hcwd, fun location _ => hfiles location, fun content' hcontent => ?_⟩
    rw [← hfiles]
    exact hcontent

/-- Behind the replacement there is nothing to clean up. -/
theorem Replaced.removeTmp (h : Replaced fs path tmp content s) :
    Replaced fs path tmp content (removeTmp tmp s) := by
  have habsent : s.nodes (s.locate tmp) = none := by
    have hlocate : s.locate tmp = fs.locate tmp := by simp [locate, origin, h.cwd]
    rw [hlocate, h.tmp]
  rw [removeTmp_of_absent habsent]
  exact h

/-- What `secure_write_secret_file_blocking` does. -/
theorem wp_secureWriteSecretFile (fs : FileSystem) (platform : Platform) (fault : Option Fault)
    (path : Path) (id : TmpId) (content : List UInt8) :
    (secureWriteSecretFile platform fault path id content).wp
      (fun _ s => Replaced fs path (tmpPath path id) content s ∧
        ¬FailsAt fault .finalPermissions)
      (fun _ s =>
        (FailsAt fault .finalPermissions ∧ Replaceable fs path (tmpPath path id) →
          Replaced fs path (tmpPath path id) content s) ∧
        (¬(FailsAt fault .finalPermissions ∧ Replaceable fs path (tmpPath path id)) →
          CleanedUp fs (tmpPath path id) s)) fs := by
  unfold secureWriteSecretFile
  rw [wp_onError]
  have hne := locate_ne_tmpPath fs path id
  refine wp_mono (wp_replaceSecretFile platform fault hne) (fun _ _ h => h) fun e s h => ?_
  exact ⟨fun hlast => (h.1 hlast).removeTmp, fun hlast => (h.2 hlast).cleanedUp⟩

/-! ## Persisting a secret -/

/-- Whether the replacement is possible does not depend on modes. -/
theorem Replaceable.of_sameButModes (h : Replaceable fs path tmp) (hsame : SameButModes fs s) :
    Replaceable s path tmp := by
  obtain ⟨⟨location, hresolve, hnone⟩, target, htarget, hdir⟩ := h
  refine ⟨⟨location, hsame.keepsDirs.resolve hresolve, hsame.nodes_eq_none hnone⟩, target,
    hsame.keepsDirs.resolve htarget, fun hd => hdir ?_⟩
  exact hsame.symm.keepsDirs.dirs target hd

/-- No file has changed, and none is new. -/
structure Unchanged (fs : FileSystem) (path : Path) (s : FileSystem) : Prop where
  file : s.fileAt (fs.locate path) = fs.fileAt (fs.locate path)
  files : ∀ location content, s.fileAt location = some content → fs.fileAt location = some content

/-- The path holds the content, and no other file has changed or is new. -/
structure Persisted (fs : FileSystem) (path : Path) (content : List UInt8) (s : FileSystem) :
    Prop where
  file : s.fileAt (fs.locate path) = some content
  read : s.read path = .ok content
  others : ∀ location content', location ≠ fs.locate path →
    s.fileAt location = some content' → fs.fileAt location = some content'

/-- What was cleaned up is what was there. -/
theorem CleanedUp.unchanged (h : CleanedUp fs tmp s) (hne : fs.locate path ≠ fs.locate tmp) :
    Unchanged fs path s := by
  refine ⟨h.others _ hne, fun location content hcontent => ?_⟩
  by_cases heq : location = fs.locate tmp
  · subst heq
    exact h.tmp content hcontent
  · rw [← h.others location heq]
    exact hcontent

/-- What took its place is what the path holds. -/
theorem Replaced.persisted (h : Replaced fs path tmp content s) : Persisted fs path content s := by
  obtain ⟨mode, hfile⟩ := h.file
  have hmetadata : s.metadata path = .ok (.file content mode) :=
    metadata_eq_ok_iff.2 ⟨_, h.resolves, hfile⟩
  refine ⟨fileAt_of_file hfile, ?_, fun location content' hne hcontent => ?_⟩
  · unfold FileSystem.read
    rw [hmetadata]
    rfl
  · by_cases heq : location = fs.locate tmp
    · simp [fileAt, heq, h.tmp] at hcontent
    · rw [← fileAt_congr (h.others location hne heq)]
      exact hcontent

/-- The files of before may be those of an earlier state. -/
theorem Unchanged.of_keepsFiles (hkeeps : KeepsFiles fs s) (h : Unchanged s path s') :
    Unchanged fs path s' := by
  have hlocate := locate_congr hkeeps.cwd
  refine ⟨?_, fun location content hcontent => ?_⟩
  · rw [← hkeeps.files, ← hlocate]
    exact h.file
  · rw [← hkeeps.files]
    exact h.files location content hcontent

/-- The same for what the path holds. -/
theorem Persisted.of_keepsFiles (hkeeps : KeepsFiles fs s) (h : Persisted s path content s') :
    Persisted fs path content s' := by
  have hlocate := locate_congr hkeeps.cwd
  refine ⟨?_, h.read, fun location content' hne hcontent => ?_⟩
  · rw [← hlocate]
    exact h.file
  · rw [← hkeeps.files]
    exact h.others location content' (hlocate ▸ hne) hcontent

/-- Nothing that is not a file matters. -/
theorem unchanged_of_keepsFiles (h : KeepsFiles fs s) (path : Path) : Unchanged fs path s :=
  ⟨h.files _, fun location content hcontent => by rw [← h.files, hcontent]⟩

/-- The call gets as far as putting a text in the place of the secret file: the secret is valid,
the directories of the path can be made, and once they are there the temporary file can take the
place of what is at the path. -/
structure Reaches (toml : Toml) (path : Path) (id : TmpId) (secret : String) (fs : FileSystem)
    (text : String) : Prop where
  valid : validateSecret (trim secret) = .ok (trim secret)
  parent : ParentMakeable path fs
  replaceable : Replaceable (withParent path fs) path (tmpPath path id)
  content : secretContent toml path (trim secret) = .ok text

/-- A secret that is valid is returned as it is. -/
theorem validateSecret_eq_ok {secret valid : String} (h : validateSecret secret = .ok valid) :
    valid = secret ∧ secret ≠ "" ∧ decodesHex secret = true := by
  unfold validateSecret at h
  split_ifs at h with hempty hhex
  cases h
  exact ⟨rfl, hempty, hhex⟩

/-- Where the fault is at the last call, `ensure_secret_parent` does what it does without one. -/
theorem parentMakeable_iff {fault : Option Fault} (h : FailsAt fault .finalPermissions) :
    ((ensureSecretParent fault path).exec fs).1 = .ok () ↔ ParentMakeable path fs := by
  rw [ensureSecretParent_of_failsAt path h, ensureSecretParent_ok_iff]

/-- What `persist_secret_file` does: the new content is there when it succeeds, and when it fails
exactly if it got that far and the fault is at the last call. -/
theorem wp_persistSecretFile (toml : Toml) (platform : Platform) (fault : Option Fault)
    (path : Path) (id : TmpId) (secret : String) (fs : FileSystem) :
    (persistSecretFile toml platform fault path id secret).wp
      (fun result s => result = trim secret ∧ validateSecret (trim secret) = .ok (trim secret) ∧
        ¬FailsAt fault .finalPermissions ∧
        ∃ text, secretContent toml path (trim secret) = .ok text ∧
          Persisted fs path (utf8 text) s)
      (fun _ s =>
        (∀ text, FailsAt fault .finalPermissions → Reaches toml path id secret fs text →
          Persisted fs path (utf8 text) s) ∧
        ((FailsAt fault .finalPermissions → ∀ text, ¬Reaches toml path id secret fs text) →
          Unchanged fs path s)) fs := by
  unfold persistSecretFile
  cases hvalid : validateSecret (trim secret) with
  | error e =>
    simp only [wp_bind, wp_throw]
    refine ⟨fun text _ hreaches => ?_, fun _ => unchanged_of_keepsFiles (.refl fs) path⟩
    rw [hreaches.valid] at hvalid
    cases hvalid
  | ok valid =>
    obtain ⟨rfl, -⟩ := validateSecret_eq_ok hvalid
    simp only [pure_bind]
    have hensure := wp_ensureSecretParent fault path fs
    rw [wp_bind]
    -- The directories are made, and no file has changed so far.
    rcases hexec : (ensureSecretParent fault path).exec fs with ⟨outcome, s₁⟩
    cases outcome with
    | error e =>
      rw [wp_iff_of_error hexec] at hensure ⊢
      refine ⟨fun text hfinal hreaches => ?_, fun _ => unchanged_of_keepsFiles hensure path⟩
      have hok := (parentMakeable_iff hfinal).2 hreaches.parent
      rw [hexec] at hok
      cases hok
    | ok _ =>
      rw [wp_iff_of_ok hexec] at hensure ⊢
      obtain ⟨-, hsame⟩ := hensure
      have hkeeps : KeepsFiles fs s₁ := (withParent_keepsFiles path fs).trans hsame.keepsFiles
      cases hcontent : secretContent toml path (trim secret) with
      | error e =>
        simp only [wp_bind, wp_throw]
        refine ⟨fun text _ hreaches => ?_, fun _ => unchanged_of_keepsFiles hkeeps path⟩
        rw [hreaches.content] at hcontent
        cases hcontent
      | ok text =>
        simp only
        rw [wp_bind]
        refine wp_mono (wp_secureWriteSecretFile s₁ platform fault path id (utf8 text))
          (fun _ s h => ?_) fun _ s h => ?_
        · rw [wp_pure]
          exact ⟨rfl, trivial, h.2, text, rfl, h.1.persisted.of_keepsFiles hkeeps⟩
        · obtain ⟨hreplaced, hcleaned⟩ := h
          refine ⟨fun text' hfinal hreaches => ?_, fun hnot => ?_⟩
          · -- The fault is at the last call, and the secret has been replaced.
            obtain rfl : text = text' := Except.ok.inj (hcontent.symm.trans hreaches.content)
            have hreplaceable := hreaches.replaceable.of_sameButModes hsame
            exact (hreplaced ⟨hfinal, hreplaceable⟩).persisted.of_keepsFiles hkeeps
          · refine .of_keepsFiles hkeeps ((hcleaned fun hlast => ?_).unchanged
              (locate_ne_tmpPath s₁ path id))
            obtain ⟨hfinal, hreplaceable⟩ := hlast
            have hparent : ParentMakeable path fs := by
              rw [← parentMakeable_iff hfinal, hexec]
            exact hnot hfinal text ⟨hvalid, hparent, hreplaceable.of_sameButModes hsame.symm,
              hcontent⟩

/-- A secret that is not valid is refused before anything is done. -/
theorem exec_persistSecretFile_invalid (toml : Toml) (platform : Platform) (fault : Option Fault)
    (path : Path) (id : TmpId) {secret error : String} (fs : FileSystem)
    (h : validateSecret (trim secret) = .error error) :
    (persistSecretFile toml platform fault path id secret).exec fs =
      (.error (.secret ⟨.invalidSecret, error, false, none⟩), fs) := by
  unfold persistSecretFile
  rw [h]
  rfl

/-- The system that provisions secrets has the outcome of the write as a parameter. For the outcome
of a call there is one, and what it says of the secret file is so. -/
theorem persistSecretFile_refines (toml : Toml) (platform : Platform) (fault : Option Fault)
    (path : Path) (id : TmpId) (secret : String) (fs : FileSystem) :
    ∃ outcome : WriteOutcome,
      ((persistSecretFile toml platform fault path id secret).exec fs).1 =
        (PlayitAgent.persistSecretFile secret outcome).1 ∧
      ((PlayitAgent.persistSecretFile secret outcome).2 = true →
        ∃ text, secretContent toml path (trim secret) = .ok text ∧ Persisted fs path (utf8 text)
          ((persistSecretFile toml platform fault path id secret).exec fs).2) ∧
      ((PlayitAgent.persistSecretFile secret outcome).2 = false →
        Unchanged fs path ((persistSecretFile toml platform fault path id secret).exec fs).2) := by
  have hpersist := wp_persistSecretFile toml platform fault path id secret fs
  unfold PlayitAgent.persistSecretFile
  cases hvalid : validateSecret (trim secret) with
  | error error =>
    rw [exec_persistSecretFile_invalid toml platform fault path id fs hvalid]
    exact ⟨.written, rfl, fun h => (nomatch h), fun _ => unchanged_of_keepsFiles (.refl fs) path⟩
  | ok valid =>
    obtain ⟨rfl, -⟩ := validateSecret_eq_ok hvalid
    rcases hexec : (persistSecretFile toml platform fault path id secret).exec fs with ⟨result, s⟩
    cases result with
    | ok result =>
      rw [wp_iff_of_ok hexec] at hpersist
      obtain ⟨rfl, -, -, hpersisted⟩ := hpersist
      exact ⟨.written, rfl, fun _ => hpersisted, fun h => nomatch h⟩
    | error e =>
      rw [wp_iff_of_error hexec] at hpersist
      obtain ⟨hpersisted, hunchanged⟩ := hpersist
      by_cases hreached : FailsAt fault .finalPermissions ∧
          ∃ text, Reaches toml path id secret fs text
      · obtain ⟨hfinal, text, hreaches⟩ := hreached
        refine ⟨.failed e true, rfl, fun _ => ⟨text, hreaches.content, ?_⟩, fun h => nomatch h⟩
        exact hpersisted text hfinal hreaches
      · refine ⟨.failed e false, rfl, fun h => (nomatch h), fun _ => hunchanged ?_⟩
        exact fun hfinal text hreaches => hreached ⟨hfinal, text, hreaches⟩

/-- What is asked of a call of `persist_secret_file`. When it succeeds, the path holds the new
content. When it fails, the file at the path is what it was, and every file that is there was there
before, so that no temporary file remains. -/
def AtomicallyPersists (toml : Toml) (platform : Platform) (fault : Option Fault) (path : Path)
    (id : TmpId) (secret : String) (fs : FileSystem) : Prop :=
  (persistSecretFile toml platform fault path id secret).wp
    (fun _ s => ∃ text, secretContent toml path (trim secret) = .ok text ∧
      s.read path = .ok (utf8 text))
    (fun _ s => Unchanged fs path s) fs

/-- `persist_secret_file` is atomic on both systems and for every fault, unless the fault is at the
last call and other bytes than those of before have taken their place. -/
theorem atomically_persists_iff (toml : Toml) (platform : Platform) (fault : Option Fault)
    (path : Path) (id : TmpId) (secret : String) (fs : FileSystem) :
    AtomicallyPersists toml platform fault path id secret fs ↔
      ¬(FailsAt fault .finalPermissions ∧ ∃ text, Reaches toml path id secret fs text ∧
        fs.fileAt (fs.locate path) ≠ some (utf8 text)) := by
  have hpersist := wp_persistSecretFile toml platform fault path id secret fs
  unfold AtomicallyPersists
  rcases hexec : (persistSecretFile toml platform fault path id secret).exec fs with ⟨outcome, s⟩
  cases outcome with
  | ok result =>
    rw [wp_iff_of_ok hexec] at hpersist ⊢
    obtain ⟨-, -, hnotFinal, text, hcontent, hafter⟩ := hpersist
    exact ⟨fun _ ⟨hfinal, _⟩ => hnotFinal hfinal, fun _ => ⟨text, hcontent, hafter.read⟩⟩
  | error e =>
    rw [wp_iff_of_error hexec] at hpersist ⊢
    obtain ⟨hpersisted, hunchanged⟩ := hpersist
    constructor
    · -- The bytes at the path are the new ones, and they are not those of before.
      rintro h ⟨hfinal, text, hreaches, hother⟩
      exact hother (h.file.symm.trans (hpersisted text hfinal hreaches).file)
    · intro h
      by_cases hreached : FailsAt fault .finalPermissions ∧
          ∃ text, Reaches toml path id secret fs text
      · obtain ⟨hfinal, text, hreaches⟩ := hreached
        -- The secret was replaced by the same bytes.
        have hbytes : fs.fileAt (fs.locate path) = some (utf8 text) := by
          by_contra hother
          exact h ⟨hfinal, text, hreaches, hother⟩
        have hafter := hpersisted text hfinal hreaches
        refine ⟨hafter.file.trans hbytes.symm, fun location content hcontent => ?_⟩
        by_cases heq : location = fs.locate path
        · rw [heq, hafter.file] at hcontent
          rw [heq, hbytes, hcontent]
        · exact hafter.others location content heq hcontent
      · exact hunchanged fun hfinal text hreaches => hreached ⟨hfinal, text, hreaches⟩

/-- The plain secret file of a root that is empty: the new secret is there although the call has
failed. -/
theorem failed_persist_replaces :
    let path : Path := ⟨true, [.normal (.unicode "secret")]⟩
    let fault : Fault := ⟨.finalPermissions, "Operation not permitted (os error 1)"⟩
    let outcome := (persistSecretFile ⟨.ok, .ok⟩ .unix (some fault) path ⟨1, [0]⟩ "00").exec
      (bare 0o755 0o022)
    outcome.1.isOk = false ∧ outcome.2.fileAt [.unicode "secret"] = some [0x30, 0x30] ∧
      (bare 0o755 0o022).fileAt [.unicode "secret"] = none ∧
      ¬AtomicallyPersists ⟨.ok, .ok⟩ .unix (some fault) path ⟨1, [0]⟩ "00" (bare 0o755 0o022) := by
  intro path fault outcome
  have hfailed : outcome.1.isOk = false := by decide
  refine ⟨hfailed, by decide, by decide, fun h => ?_⟩
  obtain ⟨e, hunchanged⟩ := exists_error_of_wp h hfailed
  exact absurd hunchanged.file (by decide)

end SecretFile

end PlayitAgent
