import PlayitAgent.Lib.Fallible
import PlayitAgent.Lib.Fault
import PlayitAgent.Runtime.Provisioning

/-!
# The secret file

`persist_secret_file` and `load_secret_from_path` of `playit-runtime/src/secret.rs`, on the file
system: the directories of the secret file, the temporary file that takes its place, and what is
read back. On Windows a protected access control list takes the part of the mode, and
`replace_file` that of `rename`; it also protects the temporary file before there is anything in it.

A call of the system can fail although nothing in the file system speaks against it. Which one does
is an input, the fault: `createDirAll n` fails behind the first `n` components, and `write n` behind
the first `n` bytes.
-/

namespace PlayitAgent

namespace SecretFile

/-! ## Faults -/

/-- The calls that can fail, in their order. Those in a loop are counted. -/
inductive FaultPoint where
  | inspect (n : ℕ)
  | createDirAll (n : ℕ)
  | secureDirectory (n : ℕ)
  | createTmp
  | protectTmp
  | write (n : ℕ)
  | sync
  | replace
  | finalPermissions
  deriving DecidableEq

/-- The call that fails. -/
abbrev Fault := PlayitAgent.Fault FaultPoint

/-- `RuntimeError::secret`, for a secret that cannot be written. -/
def writeError (message : String) (error : String) : RuntimeError :=
  .secret ⟨.secretWriteFailed, message ++ ": " ++ error, true, none⟩

/-- The computations of `secret.rs`. -/
abbrev SecretM := Fallible FileSystem RuntimeError

/-- A call of the system, with what its error says. -/
def call {α : Type} (fault : Option Fault) (point : FaultPoint) (message : String)
    (f : FileSystem → Except FsError (α × FileSystem)) : SecretM α :=
  .call fun fs => match failing fault point (f fs) with
    | .ok result => .ok result
    | .error error => .error (writeError message error.text)

/-- A call of the system that returns nothing. -/
def command (fault : Option Fault) (point : FaultPoint) (message : String)
    (f : FileSystem → Except FsError FileSystem) : SecretM Unit :=
  call fault point message fun fs => (f fs).map fun fs' => ((), fs')

section
variable {α : Type} {fault : Option Fault} {point : FaultPoint} {message : String}
  {fs fs' : FileSystem} {error : FsError}

/-- A call that succeeds. -/
theorem exec_call_ok {f : FileSystem → Except FsError (α × FileSystem)} {a : α}
    (h : failing fault point (f fs) = .ok (a, fs')) :
    (call fault point message f).exec fs = (.ok a, fs') := by
  unfold call
  rw [Fallible.call, Fallible.exec_of, h]

/-- A call that fails. -/
theorem exec_call_error {f : FileSystem → Except FsError (α × FileSystem)}
    (h : failing fault point (f fs) = .error error) :
    (call fault point message f).exec fs = (.error (writeError message error.text), fs) := by
  unfold call
  rw [Fallible.call, Fallible.exec_of, h]

/-- A command that succeeds. -/
theorem exec_command_ok {f : FileSystem → Except FsError FileSystem}
    (h : failing fault point (f fs) = .ok fs') :
    (command fault point message f).exec fs = (.ok (), fs') := by
  apply exec_call_ok
  rw [failing_map, h]
  rfl

/-- A command that fails. -/
theorem exec_command_error {f : FileSystem → Except FsError FileSystem}
    (h : failing fault point (f fs) = .error error) :
    (command fault point message f).exec fs =
      (.error (writeError message error.text), fs) := by
  apply exec_call_error
  rw [failing_map, h]
  rfl

/-- What is to be shown of a call: what holds if it fails, because of the fault or by itself, and
what holds if it succeeds. -/
theorem wp_call {f : FileSystem → Except FsError (α × FileSystem)} {Q : α → FileSystem → Prop}
    {E : RuntimeError → FileSystem → Prop}
    (hE : ∀ e, (FailsAt fault point ∨ ∃ error, f fs = .error error) → E e fs)
    (hQ : ∀ a fs', ¬FailsAt fault point → f fs = .ok (a, fs') → Q a fs') :
    (call fault point message f).wp Q E fs := by
  unfold call
  rw [Fallible.wp_call]
  rcases failing_cases fault point (f fs) with ⟨error, herror, hfails⟩ | ⟨⟨a, fs'⟩, hok, hnot, hf⟩
  · rw [herror]
    exact hE _ hfails
  · rw [hok]
    exact hQ _ _ hnot hf

/-- The same for a command. -/
theorem wp_command {f : FileSystem → Except FsError FileSystem} {Q : Unit → FileSystem → Prop}
    {E : RuntimeError → FileSystem → Prop}
    (hE : ∀ e, (FailsAt fault point ∨ ∃ error, f fs = .error error) → E e fs)
    (hQ : ∀ fs', ¬FailsAt fault point → f fs = .ok fs' → Q () fs') :
    (command fault point message f).wp Q E fs := by
  unfold command
  refine wp_call (fun e h => hE e ?_) fun a fs' hfails h => ?_
  · refine h.imp_right fun ⟨error, herror⟩ => ?_
    cases hf : f fs with
    | error error => exact ⟨error, rfl⟩
    | ok fs' =>
      rw [hf] at herror
      cases herror
  · cases hf : f fs with
    | error error =>
      rw [hf] at h
      cases h
    | ok fs₁ =>
      rw [hf] at h
      cases h
      exact hQ _ hfails hf

end

/-! ## The directories -/

/-- The directory of a path, unless it is the empty path. -/
def secretParent (path : Path) : Option Path := path.parent.filter fun parent => parent ≠ .empty

/-- A turn of the loop of `ensure_secret_parent`: whether there is a directory, or nothing. -/
def inspectDirectory (fault : Option Fault) (fs : FileSystem) (current : Path) (n : ℕ) :
    Except RuntimeError Bool :=
  match failing fault (.inspect n) (fs.metadata current) with
  | .ok (.dir _) => .ok true
  | .ok (.file _ _) =>
    .error (.secret ⟨.secretWriteFailed,
      "Secret path parent " ++ current.display ++ " is not a directory", true, none⟩)
  | .error .notFound => .ok false
  | .error error =>
    .error (writeError ("Failed to inspect secret directory " ++ current.display) error.text)

/-- The loop of `ensure_secret_parent`, from a path on towards the root: the paths at which there
is nothing. The components stand in reverse, and `n` counts the turns. -/
def missingDirectories (fault : Option Fault) (fs : FileSystem) (absolute : Bool) :
    List Component → ℕ → Except RuntimeError (List Path)
  | [], n => do
    let current : Path := ⟨absolute, []⟩
    -- `parent` of a path without components is `None`, which ends the loop.
    if ← inspectDirectory fault fs current n then return [] else return [current]
  | component :: rest, n => do
    let current : Path := ⟨absolute, (component :: rest).reverse⟩
    if ← inspectDirectory fault fs current n then return []
    else return current :: (← missingDirectories fault fs absolute rest (n + 1))

/-- `create_dir_all`, which may fail on the way. -/
def createDirectories (fault : Option Fault) (parent : Path) (fs : FileSystem) :
    Except FsError Unit × FileSystem :=
  match fault with
  | some ⟨.createDirAll n, text⟩ => fs.createDirAllUntil n text parent
  | _ => fs.createDirAll parent

/-- The last loop of `ensure_secret_parent`. -/
def secureDirectories (fault : Option Fault) : List Path → ℕ → SecretM Unit
  | [], _ => pure ()
  | directory :: rest, n => do
    command fault (.secureDirectory n) ("Failed to secure secret directory " ++ directory.display)
      (·.setPermissions directory 0o700)
    secureDirectories fault rest (n + 1)

/-- `ensure_secret_parent`. -/
def ensureSecretParent (fault : Option Fault) (path : Path) : SecretM Unit :=
  match secretParent path with
  | none => pure ()
  | some parent => do
    let newDirectories ← .call fun fs =>
      (missingDirectories fault fs parent.absolute parent.components.reverse 0).map (·, fs)
    .of fun fs => match createDirectories fault parent fs with
      | (.ok (), fs') => (.ok (), fs')
      | (.error error, fs') =>
        (.error (writeError ("Failed to create secret directory " ++ parent.display) error.text),
          fs')
    secureDirectories fault newDirectories 0

/-! ## The file -/

/-- `DEFAULT_VARIANT_ID`. -/
def defaultVariantId : String := "308943e8-faef-4835-a2ba-270351f72aa3"

/-- `hex::encode`. -/
def hexEncode (bytes : List UInt8) : String :=
  String.ofList (bytes.flatMap fun b =>
    [Nat.digitChar (b.toNat / 16), Nat.digitChar (b.toNat % 16)])

/-- What tells apart the temporary files: the process, and the random suffix. -/
structure TmpId where
  process : ℕ
  suffix : List UInt8

/-- The directory of the temporary file. -/
def tmpParent (path : Path) : Path := (secretParent path).getD ⟨false, [.curDir]⟩

/-- The name of the temporary file. -/
def tmpName (path : Path) (id : TmpId) : String :=
  let fileName := (path.fileName.bind OsName.toStr).getD "playit.toml"
  "." ++ fileName ++ ".tmp-" ++ toString id.process ++ "-" ++ defaultVariantId ++ "-" ++
    hexEncode id.suffix

/-- The path of the temporary file. -/
def tmpPath (path : Path) (id : TmpId) : Path := (tmpParent path).join (.unicode (tmpName path id))

/-- The systems that the secret file is written on. -/
inductive Platform where
  | unix
  | windows
  deriving DecidableEq

/-- `write_all` on the file that is open. When it fails, some of the bytes were written. -/
def writeAll (fault : Option Fault) (message : String) (file : Location) (content : List UInt8) :
    SecretM Unit :=
  .of fun fs => match fault with
    | some ⟨.write n, text⟩ =>
      (.error (writeError message text), fs.writeAt file (content.take n))
    | _ => (.ok (), fs.writeAt file content)

/-- What is to be shown of a write: what holds if it fails after some bytes, and what holds if it
succeeds. -/
theorem wp_writeAll {fault : Option Fault} {message : String} {file : Location}
    {content : List UInt8} {fs : FileSystem} {Q : Unit → FileSystem → Prop}
    {E : RuntimeError → FileSystem → Prop}
    (hE : ∀ e n, FailsAt fault (.write n) → E e (fs.writeAt file (content.take n)))
    (hQ : Q () (fs.writeAt file content)) : (writeAll fault message file content).wp Q E fs := by
  rw [writeAll, Fallible.wp_of]
  rcases fault with _ | ⟨point, text⟩
  · exact hQ
  · cases point with
    | write n => exact hE _ n rfl
    | _ => exact hQ

/-- The closure in `secure_write_secret_file_blocking`, of which there is one for each system. -/
def replaceSecretFile (platform : Platform) (fault : Option Fault) (path tmp : Path)
    (content : List UInt8) : SecretM Unit := do
  let file ← call fault .createTmp ("Failed to create temporary secret file " ++ tmp.display)
    (·.createNew tmp 0o600)
  -- On Unix the mode is given with `create_new`.
  if platform = .windows then
    command fault .protectTmp ("Failed to secure temporary secret file " ++ tmp.display)
      (·.setPermissions tmp 0o600)
  writeAll fault ("Failed to write temporary secret file " ++ tmp.display) file content
  command fault .sync ("Failed to sync temporary secret file " ++ tmp.display) .ok
  command fault .replace ("Failed to replace secret file " ++ path.display ++ " with " ++
    tmp.display) (·.rename tmp path)
  command fault .finalPermissions
    (match platform with
      | .unix => "Failed to set secret file permissions on " ++ path.display
      | .windows => "Failed to secure secret file " ++ path.display)
    (·.setPermissions path 0o600)

/-- `remove_file`, whatever comes of it. -/
def removeTmp (tmp : Path) (fs : FileSystem) : FileSystem :=
  match fs.removeFile tmp with
  | .ok fs' => fs'
  | .error _ => fs

/-- `secure_write_secret_file_blocking`. -/
def secureWriteSecretFile (platform : Platform) (fault : Option Fault) (path : Path) (id : TmpId)
    (content : List UInt8) : SecretM Unit :=
  let tmp := tmpPath path id
  (replaceSecretFile platform fault path tmp content).onError (removeTmp tmp)

/-! ## Secrets -/

/-- `toml::to_string` and `toml::from_str` for `SecretConfig`, whose only field is the secret. -/
structure Toml where
  toString : String → Except String String
  fromStr : String → Except String String

/-- What is written to the file for a secret. -/
def secretContent (toml : Toml) (path : Path) (secret : String) : Except RuntimeError String :=
  if path.extension = some "toml" then
    match toml.toString secret with
    | .ok text => .ok text
    | .error error => .error (writeError ("Failed to serialize secret file " ++ path.display) error)
  else .ok secret

/-- `persist_secret_file`. -/
def persistSecretFile (toml : Toml) (platform : Platform) (fault : Option Fault) (path : Path)
    (id : TmpId) (secret : String) : SecretM String := do
  let secret ← match validateSecret (trim secret) with
    | .ok secret => pure secret
    | .error error => throw (.secret ⟨.invalidSecret, error, false, none⟩)
  ensureSecretParent fault path
  let content ← match secretContent toml path secret with
    | .ok content => pure content
    | .error error => throw error
  secureWriteSecretFile platform fault path id (utf8 content)
  return secret

/-- `parse_secret_file`. -/
def parseSecretFile (toml : Toml) (content : String) : Option String :=
  match validateSecret (trim content) with
  | .ok secret => some secret
  -- What is no plain secret may be a file of the other form.
  | .error _ =>
    match toml.fromStr content with
    | .error _ => none
    | .ok secret_key => (validateSecret (trim secret_key)).toOption

/-- `LoadedSecret`. -/
inductive LoadedSecret where
  | ready (secret : String)
  | missing
  | invalid (message : String)
  deriving DecidableEq

/-- `load_secret_from_path`. -/
def loadSecretFromPath (toml : Toml) (path : Path) (fs : FileSystem) : LoadedSecret :=
  match fs.read path with
  | .error .notFound => .missing
  | .error error =>
    .invalid ("Failed to read secret file " ++ path.display ++ ": " ++ error.text)
  | .ok bytes =>
    match String.fromUTF8? ⟨bytes.toArray⟩ with
    | none => .invalid ("Failed to read secret file " ++ path.display ++
        ": stream did not contain valid UTF-8")
    | some content =>
      match parseSecretFile toml content with
      | some secret => .ready secret
      | none => .invalid ("Invalid secret file at " ++ path.display ++
          ". Remove or replace it with a valid secret.")

end SecretFile

end PlayitAgent
