import PlayitAgent.Lib.Fallible
import PlayitAgent.Lib.Fault
import PlayitAgent.Lib.Text

/-!
# The account session on disk

`FileSessionStore` of `api_client/src/session.rs`. `save` makes the directories of the file, opens
the file as `fs::write` does, which empties it or makes it with the mode that the umask allows,
writes the session to it, and takes the mode from all but the owner. A call that fails ends `save`,
and leaves what a crash at the same place leaves. The state is the file system with all the states
before it, so that what is said of a run is said of every state on the way.

`serde_json::from_slice` is a parameter.
-/

namespace PlayitAgent

namespace FileSessionStore

open FileSystem Fallible

/-! ## Sessions -/

/-- `PersistedSession`. -/
structure PersistedSession where
  version : UInt32
  api_base : String
  session_key : String
  account_id : UInt64
  saved_at_unix : UInt64
  deriving DecidableEq

/-- What is between the quotes of a JSON string. -/
def jsonText (text : String) : String := String.join (text.toList.map jsonChar)

namespace PersistedSession

variable (session : PersistedSession)

/-- What `to_string_pretty` writes before the session key. -/
def head : String :=
  "\x7b\n  \"version\": " ++ toString session.version.toNat ++
    ",\n  \"api_base\": \"" ++ jsonText session.api_base ++ "\",\n  \"session_key\": \""

/-- What `to_string_pretty` writes behind the session key. -/
def tail : String :=
  "\",\n  \"account_id\": " ++ toString session.account_id.toNat ++
    ",\n  \"saved_at_unix\": " ++ toString session.saved_at_unix.toNat ++ "\n\x7d"

/-- `serde_json::to_string_pretty`, as the bytes that are written. -/
def body : List UInt8 :=
  utf8 session.head ++ utf8 (jsonText session.session_key) ++ utf8 session.tail

/-- The text of a session begins with a brace. -/
theorem body_eq_cons : ∃ rest, session.body = 0x7b :: rest := by
  unfold body head
  simp only [String.append_assoc]
  rw [utf8_append]
  exact ⟨_, rfl⟩

/-- There are bytes behind those before the key. -/
theorem length_head_lt : (utf8 session.head).length < session.body.length := by
  have htail : 0 < (utf8 session.tail).length := by
    unfold tail
    simp only [String.append_assoc]
    rw [utf8_append, List.length_append]
    exact Nat.add_pos_left (by decide) _
  unfold body
  simp only [List.length_append]
  omega

end PersistedSession

/-- `SessionStoreError`. -/
inductive SessionStoreError where
  | unavailable (text : String)
  deriving DecidableEq

/-- `io_unavailable`. -/
def ioUnavailable (error : FsError) : SessionStoreError := .unavailable error.text

/-- `u8::is_ascii_whitespace`. -/
def isAsciiWhitespace (byte : UInt8) : Bool := byte ∈ [0x20, 0x09, 0x0a, 0x0c, 0x0d]

/-- `FileSessionStore::load`. -/
def load (fromSlice : List UInt8 → Except String PersistedSession) (path : Path)
    (fs : FileSystem) : Except SessionStoreError (Option PersistedSession) :=
  match fs.read path with
  | .error .notFound => .ok none
  | .error error => .error (ioUnavailable error)
  | .ok body =>
    if body.all isAsciiWhitespace then .ok none
    else match fromSlice body with
      | .ok session => .ok (some session)
      | .error error => .error (.unavailable error)

/-! ## Saving -/

/-- Where `save` may stop: on the way through the directories, before the file is opened, behind so
many bytes, and before the mode is changed. -/
inductive StopPoint where
  | createDirAll (n : ℕ)
  | openFile
  | write (n : ℕ)
  | restrict
  deriving DecidableEq

/-- Where a run stops. -/
abbrev Stop := Fault StopPoint

/-- The file system, with the states before it. -/
structure Timeline where
  now : FileSystem
  past : List FileSystem

namespace Timeline

/-- The states from the first one on, the last one first. -/
def states (t : Timeline) : List FileSystem := t.now :: t.past

/-- Another state. -/
def push (t : Timeline) (fs : FileSystem) : Timeline := ⟨fs, t.states⟩

/-- A run begins. -/
def start (fs : FileSystem) : Timeline := ⟨fs, []⟩

end Timeline

/-- The computations of `FileSessionStore`. -/
abbrev SaveM := Fallible Timeline SessionStoreError

/-- A call of the system. -/
def call {α : Type} (stop : Option Stop) (point : StopPoint)
    (f : FileSystem → Except FsError (α × FileSystem)) : SaveM α :=
  .of fun t => match failing stop point (f t.now) with
    | .ok (a, fs) => (.ok a, t.push fs)
    | .error error => (.error (ioUnavailable error), t)

/-- `create_dir_all`, which may stop on the way. -/
def createDirectories (stop : Option Stop) (parent : Path) : SaveM Unit :=
  .of fun t =>
    let made := match stop with
      | some ⟨.createDirAll n, text⟩ => t.now.createDirAllUntil n text parent
      | _ => t.now.createDirAll parent
    match made with
    | (.ok (), fs) => (.ok (), t.push fs)
    | (.error error, fs) => (.error (ioUnavailable error), t.push fs)

/-- `write_all` on the file that is open, behind what was written. -/
def writeAll (stop : Option Stop) (file : Location) :
    List UInt8 → List UInt8 → SaveM Unit
  -- One byte at a time, so that the run can stop behind any of them.
  | _, [] => pure ()
  | written, byte :: rest => do
    call stop (.write written.length) fun fs => .ok ((), fs.writeAt file (written ++ [byte]))
    writeAll stop file (written ++ [byte]) rest

/-- `restrict_to_owner`. -/
def restrictToOwner (stop : Option Stop) (path : Path) : SaveM Unit :=
  call stop .restrict fun fs => (fs.setPermissions path 0o600).map fun fs' => ((), fs')

/-- The directories of the file, if its path has a parent. -/
def createParent (stop : Option Stop) (path : Path) : SaveM Unit :=
  match path.parent with
  | some parent => createDirectories stop parent
  | none => pure ()

/-- `FileSessionStore::save`. -/
def save (stop : Option Stop) (path : Path) (session : PersistedSession) : SaveM Unit := do
  createParent stop path
  let file ← call stop .openFile (·.create path)
  writeAll stop file [] session.body
  restrictToOwner stop path

/-! ## What a run of `save` leaves -/

section
variable {stop : Option Stop} {path : Path} {fs s s' : FileSystem} {t : Timeline}
  {content : List UInt8} {mode : ℕ}

/-- What is to be shown of a call: what holds if it stops or fails by itself, and what holds if it
succeeds. -/
theorem wp_call {α : Type} {point : StopPoint} {f : FileSystem → Except FsError (α × FileSystem)}
    {Q : α → Timeline → Prop} {E : SessionStoreError → Timeline → Prop}
    (hE : ∀ e, (FailsAt stop point ∨ ∃ error, f t.now = .error error) → E e t)
    (hQ : ∀ a fs', ¬FailsAt stop point → f t.now = .ok (a, fs') → Q a (t.push fs')) :
    (call stop point f).wp Q E t := by
  unfold call
  rcases failing_cases stop point (f t.now) with ⟨error, herror, hfails⟩ | ⟨⟨a, fs'⟩, hok, hnot, hf⟩
  · rw [wp_iff_of_error (by rw [exec_of, herror])]
    exact hE _ hfails
  · rw [wp_iff_of_ok (by rw [exec_of, hok])]
    exact hQ _ _ hnot hf

/-- The file is at its place with some content, and every other file was there before. -/
structure Holds (fs : FileSystem) (path : Path) (content : List UInt8) (mode : ℕ)
    (s : FileSystem) : Prop where
  resolves : s.resolve path = .ok (fs.locate path)
  file : s.nodes (fs.locate path) = some (.file content mode)
  others : ∀ location content' mode', location ≠ fs.locate path →
    s.nodes location = some (.file content' mode') →
    fs.nodes location = some (.file content' mode')

/-- Another content or mode of the file. -/
theorem Holds.changed (h : Holds fs path content mode s) {content' : List UInt8} {mode' : ℕ}
    (hchanged : s.Changed (fs.locate path) (some (.file content' mode')) s') :
    Holds fs path content' mode' s' := by
  have hkeeps : KeepsDirs s s' :=
    hchanged.keepsDirs_of_not_dirAt (not_dirAt_of_file h.file)
  refine ⟨hkeeps.resolve h.resolves, hchanged.nodes_self, fun location _ _ hne hnode => ?_⟩
  rw [hchanged.nodes_of_ne hne] at hnode
  exact h.others location _ _ hne hnode

/-- What is read is the content. -/
theorem Holds.read (h : Holds fs path content mode s) : s.read path = .ok content :=
  read_eq_ok_iff.2 ⟨_, mode, h.resolves, h.file⟩

/-- A file that was opened. -/
theorem holds_of_create {file : Location} (hextends : Extends fs s)
    (h : s.create path = .ok (file, s')) :
    file = fs.locate path ∧ Holds fs path [] (fs.openMode (fs.locate path)) s' := by
  obtain ⟨hresolve, hdir, hchanged⟩ := create_eq_ok h
  have hlocate := locate_congr hextends.cwd
  obtain rfl : file = fs.locate path := by
    rw [← hlocate]
    exact locate_of_resolve hresolve
  have hkeeps : KeepsDirs s s' := hchanged.keepsDirs_of_not_dirAt hdir
  have hmode : s.openMode (fs.locate path) = fs.openMode (fs.locate path) := by
    unfold openMode
    rcases hextends.nodes (fs.locate path) with heq | ⟨-, hnew⟩
    · rw [heq, masked, masked, hextends.umask]
    · exact absurd ⟨_, hnew⟩ hdir
  rw [hmode] at hchanged
  refine ⟨rfl, hkeeps.resolve hresolve, hchanged.nodes_self, fun location _ _ hne hnode => ?_⟩
  rw [hchanged.nodes_of_ne hne] at hnode
  exact hextends.nodes_of_file hnode

/-- So many bytes were written, and the states before have no more of them. -/
structure Written (fs : FileSystem) (path : Path) (body : List UInt8) (n : ℕ) (t : Timeline) :
    Prop where
  now : Holds fs path (body.take n) (fs.openMode (fs.locate path)) t.now
  past : ∀ s ∈ t.past, Extends fs s ∨
    ∃ k ≤ n, Holds fs path (body.take k) (fs.openMode (fs.locate path)) s

/-- The states of a run that has written so many bytes. -/
theorem Written.states {body : List UInt8} {n : ℕ} (h : Written fs path body n t) :
    ∀ s ∈ t.states, Extends fs s ∨
      ∃ k ≤ n, Holds fs path (body.take k) (fs.openMode (fs.locate path)) s := by
  intro s hs
  rcases List.mem_cons.1 hs with rfl | hs
  · exact .inr ⟨n, le_rfl, h.now⟩
  · exact h.past s hs

/-- One more byte. -/
theorem Written.push {body written : List UInt8} {byte : UInt8} {rest : List UInt8}
    (hbody : body = written ++ byte :: rest) (h : Written fs path body written.length t) :
    Written fs path body (written ++ [byte]).length
      (t.push (t.now.writeAt (fs.locate path) (written ++ [byte]))) := by
  have htake : body.take (written ++ [byte]).length = written ++ [byte] := by
    have happend : body = (written ++ [byte]) ++ rest := by simp [hbody]
    rw [happend, List.take_left]
  refine ⟨?_, fun s hs => ?_⟩
  · rw [htake]
    exact h.now.changed (writeAt_changed h.now.file (written ++ [byte]))
  · rcases h.states s hs with hextends | ⟨k, hk, hholds⟩
    · exact .inl hextends
    · refine .inr ⟨k, ?_, hholds⟩
      rw [List.length_append]
      omega

/-- The loop, from any byte on: it stops behind the byte that it is to stop at, or writes all. -/
theorem wp_writeAll {body : List UInt8} (rest written : List UInt8) (hbody : body = written ++ rest)
    (h : Written fs path body written.length t) :
    (writeAll stop (fs.locate path) written rest).wp
      (fun _ t' => Written fs path body body.length t' ∧
        ∀ n, written.length ≤ n → n < body.length → ¬FailsAt stop (.write n))
      (fun _ t' => ∃ n < body.length, FailsAt stop (.write n) ∧ Written fs path body n t') t := by
  -- The induction is on the bytes that are left, with those that were written beside it.
  induction rest generalizing written t with
  | nil =>
    rw [List.append_nil] at hbody
    subst hbody
    rw [writeAll, wp_pure]
    exact ⟨h, fun n hge hlt => absurd hge (by omega)⟩
  | cons byte rest ih =>
    have hlt : written.length < body.length := by
      rw [hbody]
      simp
    rw [writeAll, wp_bind]
    refine wp_call (fun e hfails => ?_) fun _ fs' hnot hok => ?_
    · have hstop := hfails.resolve_right fun ⟨error, herror⟩ => nomatch herror
      exact ⟨written.length, hlt, hstop, h⟩
    · cases hok
      have hbody' : body = (written ++ [byte]) ++ rest := by
        rw [hbody, List.append_assoc, List.singleton_append]
      refine wp_mono (ih (written ++ [byte]) hbody' (h.push hbody)) (fun _ t' h' => ?_)
        fun _ _ h' => h'
      refine ⟨h'.1, fun n hge hltn => ?_⟩
      rcases Nat.eq_or_lt_of_le hge with rfl | hgt
      · exact hnot
      · refine h'.2 n ?_ hltn
        rw [List.length_append, List.length_singleton]
        omega

/-- The run gets as far as opening the file. -/
structure Opens (stop : Option Stop) (path : Path) (fs : FileSystem) : Prop where
  parent : ∀ parent, path.parent = some parent →
    (∀ n, ¬FailsAt stop (.createDirAll n)) ∧ (fs.createDirAll parent).1 = .ok ()
  openFile : ¬FailsAt stop .openFile
  create : ∃ file fs', (fs.withParent path).create path = .ok (file, fs')

/-- The bytes that are written of so many, once the file is open. -/
def written (stop : Option Stop) (length : ℕ) : ℕ :=
  match stop with
  | some ⟨.write n, _⟩ => min n length
  | _ => length

/-- What a run leaves that has opened the file: one of its states has the file with the bytes that
were written, none has more of them, and in the last one they are what is read. -/
structure Saved (fs : FileSystem) (path : Path) (body : List UInt8) (n : ℕ) (t : Timeline) :
    Prop where
  reached : ∃ s ∈ t.states, Holds fs path (body.take n) (fs.openMode (fs.locate path)) s
  states : ∀ s ∈ t.states, Extends fs s ∨
    (∃ k ≤ n, Holds fs path (body.take k) (fs.openMode (fs.locate path)) s) ∨
      Holds fs path (body.take n) 0o600 s
  read : t.now.read path = .ok (body.take n)

/-- A run that stops with so many bytes. -/
theorem Written.saved {body : List UInt8} {n : ℕ} (h : Written fs path body n t) :
    Saved fs path body n t :=
  ⟨⟨t.now, List.mem_cons_self, h.now⟩, fun s hs => (h.states s hs).imp_right .inl, h.now.read⟩

/-- The directories are made, or the run stops on the way. -/
theorem wp_createParent (stop : Option Stop) (path : Path) (fs : FileSystem) :
    (createParent stop path).wp
      (fun _ t => (∀ parent, path.parent = some parent →
          (∀ n, ¬FailsAt stop (.createDirAll n)) ∧ (fs.createDirAll parent).1 = .ok ()) ∧
        t.now = fs.withParent path ∧ ∀ s ∈ t.states, Extends fs s)
      (fun _ t => ¬Opens stop path fs ∧ ∀ s ∈ t.states, Extends fs s) (.start fs) := by
  have hstart : ∀ s ∈ (Timeline.start fs).states, Extends fs s := by
    intro s hs
    obtain rfl := List.mem_singleton.1 hs
    exact .refl s
  have hpush {fs' : FileSystem} (h : Extends fs fs') :
      ∀ s ∈ ((Timeline.start fs).push fs').states, Extends fs s := by
    intro s hs
    rcases List.mem_cons.1 hs with rfl | hs
    · exact h
    · exact hstart s hs
  unfold createParent FileSystem.withParent
  cases hparent : path.parent with
  | none =>
    simp only [wp_pure]
    exact ⟨fun parent h => (by cases h), rfl, hstart⟩
  | some parent =>
    simp only [Option.some.injEq, forall_eq']
    have hextends := extends_createDirAll fs parent
    by_cases hstops : ∃ n, FailsAt stop (.createDirAll n)
    · -- The run stops in `create_dir_all`, with some of the directories made.
      obtain ⟨n, hn⟩ := hstops
      obtain ⟨⟨point, text⟩, rfl, rfl⟩ := Option.map_eq_some_iff.1 hn
      have hexec : (createDirectories (some ⟨.createDirAll n, text⟩) parent).exec (.start fs) =
          (.error _, (Timeline.start fs).push (fs.createDirAllUntil n text parent).2) := rfl
      rw [wp_iff_of_error hexec]
      refine ⟨fun hopens => (hopens.parent parent hparent).1 n rfl, hpush ?_⟩
      exact (makesDirs_createDirAllUntil fs n text parent).extend
    · rw [not_exists] at hstops
      have hexec : (createDirectories stop parent).exec (.start fs) =
          match fs.createDirAll parent with
          | (.ok (), fs') => (.ok (), (Timeline.start fs).push fs')
          | (.error error, fs') =>
            (.error (ioUnavailable error), (Timeline.start fs).push fs') := by
        unfold createDirectories
        rw [exec_of]
        split
        · next n text => exact absurd rfl (hstops n)
        · rfl
      rcases hcreate : fs.createDirAll parent with ⟨outcome, fs'⟩
      rw [hcreate] at hexec hextends
      cases outcome with
      | error error =>
        rw [wp_iff_of_error hexec]
        refine ⟨fun hopens => ?_, hpush hextends⟩
        have hok := (hopens.parent parent hparent).2
        rw [hcreate] at hok
        cases hok
      | ok _ =>
        rw [wp_iff_of_ok hexec]
        exact ⟨⟨hstops, rfl⟩, rfl, hpush hextends⟩

/-- The bytes that are written where the run stops in the write. -/
theorem written_of_failsAt {n length : ℕ} (h : FailsAt stop (.write n)) (hlt : n < length) :
    written stop length = n := by
  obtain ⟨⟨point, text⟩, rfl, rfl⟩ := Option.map_eq_some_iff.1 h
  exact Nat.min_eq_left hlt.le

/-- All bytes are written where it does not. -/
theorem written_of_not_failsAt {length : ℕ} (h : ∀ n < length, ¬FailsAt stop (.write n)) :
    written stop length = length := by
  unfold written
  split
  · next n text =>
    refine Nat.min_eq_right (Nat.le_of_not_lt fun hlt => ?_)
    exact h n hlt rfl
  · rfl

/-- No more bytes are written than there are. -/
theorem written_le (stop : Option Stop) (length : ℕ) : written stop length ≤ length := by
  unfold written
  split
  · exact Nat.min_le_right _ _
  · exact le_rfl

/-- What `save` does, wherever it stops. -/
theorem wp_save (stop : Option Stop) (path : Path) (session : PersistedSession)
    (fs : FileSystem) :
    let Outcome := fun t : Timeline =>
      (¬Opens stop path fs → ∀ s ∈ t.states, Extends fs s) ∧
        (Opens stop path fs →
          Saved fs path session.body (written stop session.body.length) t)
    (save stop path session).wp (fun _ => Outcome) (fun _ => Outcome) (.start fs) := by
  intro Outcome
  unfold save
  rw [wp_bind]
  refine wp_mono (wp_createParent stop path fs) (fun _ t h => ?_) fun _ t h => ?_
  · obtain ⟨hmade, hnow, hstates⟩ := h
    rw [wp_bind]
    refine wp_call (fun e hfails => ?_) fun file s₁ hnot hcreate => ?_
    · refine ⟨fun _ => hstates, fun hopens => ?_⟩
      rcases hfails with hfails | ⟨error, herror⟩
      · exact absurd hfails hopens.openFile
      · obtain ⟨file, fs', hok⟩ := hopens.create
        rw [hnow] at herror
        exact nomatch herror.symm.trans hok
    · have hopens : Opens stop path fs := ⟨hmade, hnot, file, s₁, hnow ▸ hcreate⟩
      obtain ⟨rfl, hholds⟩ := holds_of_create (hstates _ List.mem_cons_self) hcreate
      have hopened : Written fs path session.body 0 (t.push s₁) :=
        ⟨hholds, fun s hs => .inl (hstates s hs)⟩
      rw [wp_bind]
      refine wp_mono (wp_writeAll session.body [] (List.nil_append _).symm hopened)
        (fun _ t' h => ?_) fun _ t' h => ?_
      · -- All was written, and what is left is the mode.
        obtain ⟨hwritten, hnone⟩ := h
        have hall : written stop session.body.length = session.body.length :=
          written_of_not_failsAt fun n hlt => hnone n (Nat.zero_le n) hlt
        obtain ⟨s₂, hchmod, hchanged⟩ := chmodAt_ok hwritten.now.file 0o600
        refine wp_call (fun e _ => ?_) fun _ s₃ _ hset => ?_
        · refine ⟨fun h => absurd hopens h, fun _ => ?_⟩
          rw [hall]
          exact hwritten.saved
        · refine ⟨fun h => absurd hopens h, fun _ => ?_⟩
          have hset' : t'.now.setPermissions path 0o600 = .ok s₂ := by
            unfold setPermissions
            rw [hwritten.now.resolves]
            exact hchmod
          rw [hset'] at hset
          cases hset
          have hclosed := hwritten.now.changed hchanged
          rw [hall]
          refine ⟨⟨t'.now, List.mem_cons_of_mem _ List.mem_cons_self, hwritten.now⟩, ?_,
            hclosed.read⟩
          intro s hs
          rcases List.mem_cons.1 hs with rfl | hs
          · exact .inr (.inr hclosed)
          · exact (hwritten.states s hs).imp_right .inl
      · obtain ⟨n, hlt, hstop, hwritten⟩ := h
        refine ⟨fun h => absurd hopens h, fun _ => ?_⟩
        rw [written_of_failsAt hstop hlt]
        exact hwritten.saved
  · exact ⟨fun _ => h.2, fun hopens => absurd hopens h.1⟩

/-- A run that does not get to open the file makes no more than directories. -/
theorem extends_of_not_opens (session : PersistedSession) (h : ¬Opens stop path fs) :
    ∀ s ∈ ((save stop path session).exec (.start fs)).2.states, Extends fs s :=
  (wp_state_iff.1 (wp_save stop path session fs)).1 h

/-- A run that opens the file leaves it with what was written. -/
theorem saved_of_opens (session : PersistedSession) (h : Opens stop path fs) :
    Saved fs path session.body (written stop session.body.length)
      ((save stop path session).exec (.start fs)).2 :=
  (wp_state_iff.1 (wp_save stop path session fs)).2 h

/-! ## What is asked of `save` -/

/-- A file has the text of the session as far as the session key, and a part of the key. -/
def HoldsKey (session : PersistedSession) (content : List UInt8) : Prop :=
  session.session_key ≠ "" ∧ session.body.take ((utf8 session.head).length + 1) <+: content

/-- A file with a part of the session key has a mode that lets the group or others read it. -/
def Exposed (session : PersistedSession) (s : FileSystem) (location : Location) : Prop :=
  ∃ content mode, s.nodes location = some (.file content mode) ∧ HoldsKey session content ∧
    mode &&& 0o044 ≠ 0

/-- What is asked of a run of `save`: in none of its states, from the one before it on, is a part of
the session key exposed; and where there was a session, the next `load` returns it or the new
one. -/
def SavesSafely (fromSlice : List UInt8 → Except String PersistedSession) (stop : Option Stop)
    (path : Path) (session : PersistedSession) (fs : FileSystem) : Prop :=
  let t := ((save stop path session).exec (.start fs)).2
  (∀ s ∈ t.states, ∀ location, ¬Exposed session s location) ∧
    ∀ old, load fromSlice path fs = .ok (some old) →
      load fromSlice path t.now = .ok (some old) ∨ load fromSlice path t.now = .ok (some session)

/-- Once the file is open, it does this if and only if none of the bytes of the key are written or
the mode that the file is opened with does not let others read them, and if there was no session or
all bytes are written. -/
def SafeOnceOpen (fromSlice : List UInt8 → Except String PersistedSession) (stop : Option Stop)
    (path : Path) (session : PersistedSession) (fs : FileSystem) : Prop :=
  (session.session_key = "" ∨ written stop session.body.length ≤ (utf8 session.head).length ∨
      fs.openMode (fs.locate path) &&& 0o044 = 0) ∧
    ((∀ old, load fromSlice path fs ≠ .ok (some old)) ∨
      written stop session.body.length = session.body.length)

/-- A file that was there before is exposed if it was before. -/
theorem exposed_of_extends {session : PersistedSession} {location : Location}
    (hextends : Extends fs s) (h : Exposed session s location) : Exposed session fs location := by
  obtain ⟨content, mode, hnode, hkey⟩ := h
  exact ⟨content, mode, hextends.nodes_of_file hnode, hkey⟩

/-- The file that is written is exposed when it goes on into the key, and its mode lets it be. -/
theorem Holds.exposed_iff {session : PersistedSession} (h : Holds fs path content mode s) :
    Exposed session s (fs.locate path) ↔ HoldsKey session content ∧ mode &&& 0o044 ≠ 0 := by
  constructor
  · rintro ⟨content', mode', hnode, hkey⟩
    obtain ⟨rfl, rfl⟩ : content = content' ∧ mode = mode' := by
      simpa using h.file.symm.trans hnode
    exact hkey
  · intro hkey
    exact ⟨content, mode, h.file, hkey⟩

/-- The other files are exposed if they were before. -/
theorem Holds.exposed_of_ne {session : PersistedSession} {location : Location}
    (h : Holds fs path content mode s) (hne : location ≠ fs.locate path)
    (hexposed : Exposed session s location) : Exposed session fs location := by
  obtain ⟨content', mode', hnode, hkey⟩ := hexposed
  exact ⟨content', mode', h.others location content' mode' hne hnode, hkey⟩

/-- The bytes that were written go on into the key when there are more of them than before it. -/
theorem holdsKey_take_iff {session : PersistedSession} (n : ℕ) :
    HoldsKey session (session.body.take n) ↔
      session.session_key ≠ "" ∧ (utf8 session.head).length < n := by
  unfold HoldsKey
  refine and_congr_right fun _ => ⟨fun hpre => ?_, fun hlt => List.take_prefix_take_left hlt⟩
  have hlength := hpre.length_le
  have hhead := session.length_head_lt
  rw [List.length_take_of_le hhead] at hlength
  have htake := List.length_take_le n session.body
  omega

/-- What is used of `serde_json` for one session: `from_slice` reads what `to_string_pretty` has
written, and takes nothing for a session that ends before it does. -/
structure Parses (fromSlice : List UInt8 → Except String PersistedSession)
    (session : PersistedSession) : Prop where
  whole : fromSlice session.body = .ok session
  cut : ∀ n < session.body.length, ∃ error, fromSlice (session.body.take n) = .error error

/-- A session is loaded from a file that is read and parsed. -/
theorem load_eq_some_iff {fromSlice : List UInt8 → Except String PersistedSession}
    {session : PersistedSession} :
    load fromSlice path fs = .ok (some session) ↔
      ∃ body, fs.read path = .ok body ∧ body.all isAsciiWhitespace = false ∧
        fromSlice body = .ok session := by
  unfold load
  cases fs.read path with
  | error e => cases e <;> simp
  | ok body =>
    simp only [Except.ok.injEq, exists_eq_left']
    cases body.all isAsciiWhitespace with
    | true => simp
    | false => cases fromSlice body <;> simp

/-- Where directories were made, a session that was there is there. -/
theorem load_of_extends {fromSlice : List UInt8 → Except String PersistedSession}
    {old : PersistedSession} (hextends : Extends fs s)
    (h : load fromSlice path fs = .ok (some old)) : load fromSlice path s = .ok (some old) := by
  obtain ⟨body, hread, hparse⟩ := load_eq_some_iff.1 h
  obtain ⟨location, mode, hresolve, hnode⟩ := read_eq_ok_iff.1 hread
  have hread' : s.read path = .ok body :=
    read_eq_ok_iff.2 ⟨location, mode, hextends.keepsDirs.resolve hresolve,
      hextends.nodes_of_some hnode⟩
  exact load_eq_some_iff.2 ⟨body, hread', hparse⟩

/-- A session that was written as a whole is loaded, and nothing is loaded from a part of it. -/
theorem load_take_iff {fromSlice : List UInt8 → Except String PersistedSession}
    {session : PersistedSession} (hparses : Parses fromSlice session) {n : ℕ}
    (hn : n ≤ session.body.length) (hread : s.read path = .ok (session.body.take n)) :
    (n = session.body.length → load fromSlice path s = .ok (some session)) ∧
      (∀ other, load fromSlice path s = .ok (some other) → n = session.body.length) := by
  constructor
  · rintro rfl
    rw [List.take_length] at hread
    obtain ⟨rest, hbody⟩ := session.body_eq_cons
    have hspace : session.body.all isAsciiWhitespace = false := by
      rw [hbody, List.all_cons]
      rfl
    exact load_eq_some_iff.2 ⟨_, hread, hspace, hparses.whole⟩
  · intro other h
    obtain ⟨body, hread', -, hparse⟩ := load_eq_some_iff.1 h
    obtain rfl := Except.ok.inj (hread.symm.trans hread')
    by_contra hne
    obtain ⟨error, herror⟩ := hparses.cut n (by omega)
    exact nomatch herror.symm.trans hparse

/-- Where the file was opened and the key was exposed nowhere, the run exposes it exactly when some
of it was written and the mode of the file lets others read it. -/
theorem Saved.exposed_iff {session : PersistedSession} {n : ℕ}
    (h : Saved fs path session.body n t) (hbefore : ∀ location, ¬Exposed session fs location) :
    (∀ s ∈ t.states, ∀ location, ¬Exposed session s location) ↔
      session.session_key = "" ∨ n ≤ (utf8 session.head).length ∨
        fs.openMode (fs.locate path) &&& 0o044 = 0 := by
  constructor
  · intro hnone
    by_contra hexposed
    simp only [not_or, Nat.not_le] at hexposed
    obtain ⟨hkey, hlt, hmode⟩ := hexposed
    obtain ⟨s, hs, hholds⟩ := h.reached
    have hholdsKey := (holdsKey_take_iff n).2 ⟨hkey, hlt⟩
    exact hnone s hs _ (hholds.exposed_iff.2 ⟨hholdsKey, hmode⟩)
  · intro hsafe s hs location hexposed
    -- A state with the file, and no more of the session than was written.
    have hopen {content : List UInt8} {mode : ℕ} (hholds : Holds fs path content mode s)
        (hclosed : HoldsKey session content → mode &&& 0o044 = 0) : False := by
      by_cases hlocation : location = fs.locate path
      · subst hlocation
        obtain ⟨hkey, hmode⟩ := hholds.exposed_iff.1 hexposed
        exact hmode (hclosed hkey)
      · exact hbefore _ (hholds.exposed_of_ne hlocation hexposed)
    rcases h.states s hs with hextends | ⟨k, hk, hholds⟩ | hholds
    · exact hbefore _ (exposed_of_extends hextends hexposed)
    · refine hopen hholds fun hkey => ?_
      obtain ⟨hne, hlt⟩ := (holdsKey_take_iff k).1 hkey
      rcases hsafe with hempty | hle | hclosed
      · exact absurd hempty hne
      · omega
      · exact hclosed
    · exact hopen hholds fun _ => by decide

/-- Where the file was opened, what is loaded next is the old or the new session exactly when there
was none or all of it was written. -/
theorem Saved.load_iff {fromSlice : List UInt8 → Except String PersistedSession}
    {session : PersistedSession} {n : ℕ} (h : Saved fs path session.body n t)
    (hparses : Parses fromSlice session) (hn : n ≤ session.body.length) :
    (∀ old, load fromSlice path fs = .ok (some old) →
        load fromSlice path t.now = .ok (some old) ∨
          load fromSlice path t.now = .ok (some session)) ↔
      (∀ old, load fromSlice path fs ≠ .ok (some old)) ∨ n = session.body.length := by
  obtain ⟨hwhole, hcut⟩ := load_take_iff hparses hn h.read
  constructor
  · intro hloads
    by_contra hneither
    simp only [not_or, not_forall, not_not] at hneither
    obtain ⟨⟨old, hold⟩, hshort⟩ := hneither
    rcases hloads old hold with hload | hload
    · exact hshort (hcut old hload)
    · exact hshort (hcut session hload)
  · rintro (hnone | hall) old hold
    · exact absurd hold (hnone old)
    · exact .inr (hwhole hall)

/-- A call keeps the states before it. -/
theorem wp_call_states {α : Type} {point : StopPoint}
    {f : FileSystem → Except FsError (α × FileSystem)} (h : s ∈ t.states) :
    (call stop point f).wp (fun _ t' => s ∈ t'.states) (fun _ t' => s ∈ t'.states) t :=
  wp_call (fun _ _ => h) fun _ _ _ _ => List.mem_cons_of_mem _ h

/-- Writing keeps the states before it. -/
theorem wp_writeAll_states {file : Location} (rest written : List UInt8) (h : s ∈ t.states) :
    (writeAll stop file written rest).wp (fun _ t' => s ∈ t'.states) (fun _ t' => s ∈ t'.states)
      t := by
  induction rest generalizing written t with
  | nil =>
    rw [writeAll, wp_pure]
    exact h
  | cons byte rest ih =>
    rw [writeAll, wp_bind]
    exact wp_mono (wp_call_states h) (fun _ _ h' => ih _ h') fun _ _ h' => h'

/-- The directories of the file are made behind the states before. -/
theorem wp_createParent_states (h : s ∈ t.states) :
    (createParent stop path).wp (fun _ t' => s ∈ t'.states) (fun _ t' => s ∈ t'.states) t := by
  unfold createParent
  split
  · rw [wp_state_iff]
    unfold createDirectories
    rw [exec_of]
    dsimp only
    split
    · exact List.mem_cons_of_mem _ h
    · exact List.mem_cons_of_mem _ h
  · rw [wp_pure]
    exact h

/-- The state before is one of the states of a run. -/
theorem start_mem_states (session : PersistedSession) :
    fs ∈ ((save stop path session).exec (.start fs)).2.states := by
  have hstart : fs ∈ (Timeline.start fs).states := List.mem_cons_self
  refine wp_state_iff.1 (?_ : (save stop path session).wp (fun _ t => fs ∈ t.states)
    (fun _ t => fs ∈ t.states) (.start fs))
  unfold save
  rw [wp_bind]
  refine wp_mono (wp_createParent_states hstart) (fun _ t h => ?_) fun _ _ h => h
  rw [wp_bind]
  refine wp_mono (wp_call_states h) (fun _ t h => ?_) fun _ _ h => h
  rw [wp_bind]
  exact wp_mono (wp_writeAll_states _ _ h) (fun _ t h => wp_call_states h) fun _ _ h => h

/-- A run of `save` is safe, from every file system and wherever it stops, exactly when the key is
exposed nowhere before, and the run stops before the file is open or is safe once it is. -/
theorem saves_safely_iff {fromSlice : List UInt8 → Except String PersistedSession}
    {session : PersistedSession} (hparses : Parses fromSlice session) (stop : Option Stop)
    (path : Path) (fs : FileSystem) :
    SavesSafely fromSlice stop path session fs ↔
      (∀ location, ¬Exposed session fs location) ∧
        (Opens stop path fs → SafeOnceOpen fromSlice stop path session fs) := by
  unfold SavesSafely
  by_cases hbefore : ∀ location, ¬Exposed session fs location
  · simp only [hbefore, not_false_eq_true, implies_true, true_and]
    -- Before the file is open, the run makes no more than directories.
    by_cases hopens : Opens stop path fs
    · have hsaved := saved_of_opens session hopens
      simp only [hopens, forall_const]
      exact and_congr (hsaved.exposed_iff hbefore)
        (hsaved.load_iff hparses (written_le stop session.body.length))
    · have hstates := extends_of_not_opens session hopens
      simp only [hopens, false_implies, iff_true]
      refine ⟨fun s hs location h => ?_, fun old hold => .inl ?_⟩
      · exact hbefore location (exposed_of_extends (hstates s hs) h)
      · exact load_of_extends (hstates _ List.mem_cons_self) hold
  · constructor
    · intro hsafe
      exact absurd (hsafe.1 fs (start_mem_states session)) hbefore
    · intro hsafe
      exact absurd hsafe.1 hbefore

/-- `serde_json`, as far as one session goes. -/
def parseOnly (session : PersistedSession) (body : List UInt8) : Except String PersistedSession :=
  if body = session.body then .ok session else .error "EOF while parsing a value"

/-- It has what is used of the crate. -/
theorem parses_parseOnly (session : PersistedSession) : Parses (parseOnly session) session := by
  refine ⟨if_pos rfl, fun n hn => ⟨_, if_neg fun heq => ?_⟩⟩
  have hlength := congrArg List.length heq
  rw [List.length_take_of_le hn.le] at hlength
  omega

/-- The file of a session in the root. -/
def rootPath : Path := ⟨true, [.normal (.unicode "session.json")]⟩

/-- There are no files but the root. -/
theorem not_exposed_bare {session : PersistedSession} {mode umask : ℕ} {location : Location} :
    ¬Exposed session (bare mode umask) location := by
  rintro ⟨content, mode', hnode, -⟩
  simp only [bare] at hnode
  split at hnode <;> cases hnode

/-- A first session, with a umask that leaves nothing to others. -/
theorem saves_safely_with_umask :
    let session : PersistedSession := ⟨1, "https://api.playit.gg", "key", 42, 1⟩
    SavesSafely (parseOnly session) none rootPath session (bare 0o755 0o077) := by
  intro session
  refine (saves_safely_iff (parses_parseOnly session) none _ _).2
    ⟨fun location => not_exposed_bare, fun _ => ⟨?_, .inl ?_⟩⟩
  · exact .inr (.inr (by decide))
  · intro old h
    cases h

/-- A first session, with the usual umask: the key is exposed until the mode is changed. -/
theorem saved_key_exposed :
    let session : PersistedSession := ⟨1, "https://api.playit.gg", "key", 42, 1⟩
    ¬SavesSafely (parseOnly session) none rootPath session (bare 0o755 0o022) := by
  intro session h
  have hopens : Opens none rootPath (bare 0o755 0o022) := by
    refine ⟨?_, fun h => (nomatch h), ?_⟩
    · rintro _ ⟨⟩
      exact ⟨fun n h => (nomatch h), rfl⟩
    · exact ⟨_, _, rfl⟩
  have hsaved := saved_of_opens session hopens
  -- The key is not empty, it was written, and others may read the file.
  rcases (hsaved.exposed_iff fun _ => not_exposed_bare).1 h.1 with hkey | hle | hmode
  · exact absurd hkey (by decide)
  · exact absurd session.length_head_lt (Nat.not_lt.2 hle)
  · exact absurd hmode (by decide)

end

end FileSessionStore

end PlayitAgent
