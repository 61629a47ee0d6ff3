import PlayitAgent.Runtime.SecretReplace

/-!
# Loading what was persisted

A secret is written as it is or as a TOML text, by the extension of the path. `parse_secret_file`
does not look at the extension: it takes what is hexadecimal for a secret, and anything else for a
TOML text. The two do not meet, because a TOML text has an equals sign.
-/

namespace PlayitAgent

namespace SecretFile

open FileSystem Fallible

/-- What is used of the `toml` crate for `SecretConfig`: `from_str` undoes `to_string`, and the text
assigns the value to a key. -/
structure Toml.Lawful (toml : Toml) : Prop where
  fromStr_toString : ∀ secret text, toml.toString secret = .ok text →
    toml.fromStr text = .ok secret
  assigns : ∀ secret text, toml.toString secret = .ok text → '=' ∈ text.toList

/-- A secret that is valid is no shorter when it is trimmed. -/
theorem trim_of_decodesHex {secret : String} (h : decodesHex secret = true) :
    trim secret = secret := by
  have hdigits : ∀ c ∈ secret.toList, isHexDigit c = true := by
    simpa [decodesHex] using (of_decide_eq_true h).2
  exact trim_eq_self fun c hc => isWhitespace_of_isHexDigit (hdigits c hc)

/-- A text that assigns is not a secret. -/
theorem validateSecret_of_assigns {text : String} (h : '=' ∈ text.toList) :
    ∃ error, validateSecret (trim text) = .error error := by
  cases hvalid : validateSecret (trim text) with
  | error error => exact ⟨error, rfl⟩
  | ok valid =>
    obtain ⟨-, -, hhex⟩ := validateSecret_eq_ok hvalid
    have hmem : '=' ∈ (trim text).toList := mem_trim (by decide) h
    have hdigit := List.all_eq_true.1 (of_decide_eq_true hhex).2 _ hmem
    cases hdigit

/-- What is written for a valid secret is parsed as it, in either format. -/
theorem parseSecretFile_secretContent {toml : Toml} (hlawful : toml.Lawful) {path : Path}
    {secret text : String} (hvalid : validateSecret secret = .ok secret)
    (htext : secretContent toml path secret = .ok text) :
    parseSecretFile toml text = some secret := by
  obtain ⟨-, -, hhex⟩ := validateSecret_eq_ok hvalid
  have htrim := trim_of_decodesHex hhex
  unfold secretContent at htext
  unfold parseSecretFile
  split_ifs at htext with hextension
  · cases hserialized : toml.toString secret with
    | error e =>
      rw [hserialized] at htext
      cases htext
    | ok serialized =>
      rw [hserialized] at htext
      cases htext
      -- The text is not taken for a secret, so the crate is asked.
      obtain ⟨error, herror⟩ :=
        validateSecret_of_assigns (hlawful.assigns secret text hserialized)
      rw [herror]
      simp only [hlawful.fromStr_toString secret text hserialized, htrim, hvalid]
      rfl
  · cases htext
    rw [htrim, hvalid]

/-- Only what is valid is parsed. -/
theorem validateSecret_of_parseSecretFile {toml : Toml} {content secret : String}
    (h : parseSecretFile toml content = some secret) : validateSecret secret = .ok secret := by
  unfold parseSecretFile at h
  cases hvalid : validateSecret (trim content) with
  | ok valid =>
    rw [hvalid] at h
    cases h
    obtain ⟨rfl, -⟩ := validateSecret_eq_ok hvalid
    exact hvalid
  | error e =>
    rw [hvalid] at h
    cases hconfig : toml.fromStr content with
    | error e =>
      rw [hconfig] at h
      cases h
    | ok secret_key =>
      simp only [hconfig] at h
      cases hkey : validateSecret (trim secret_key) with
      | error e =>
        rw [hkey] at h
        cases h
      | ok valid =>
        rw [hkey] at h
        cases h
        obtain ⟨rfl, -⟩ := validateSecret_eq_ok hkey
        exact hkey

/-- Where the file is parsed, the secret is loaded. -/
theorem loadSecretFromPath_ready_iff {toml : Toml} {path : Path} {fs : FileSystem}
    {secret : String} :
    loadSecretFromPath toml path fs = .ready secret ↔
      ∃ bytes content, fs.read path = .ok bytes ∧
        String.fromUTF8? ⟨bytes.toArray⟩ = some content ∧
        parseSecretFile toml content = some secret := by
  unfold loadSecretFromPath
  cases fs.read path with
  | error e => cases e <;> simp
  | ok bytes =>
    cases hcontent : String.fromUTF8? ⟨bytes.toArray⟩ with
    | none => simp [hcontent]
    | some content =>
      cases hparse : parseSecretFile toml content with
      | none => simp [hcontent, hparse]
      | some secret' => simp [hcontent, hparse]

/-- A secret that was persisted is the one that is loaded, in either format and whatever is around
it; and what is loaded, from any file, is a secret. -/
theorem secret_round_trip {toml : Toml} (hlawful : toml.Lawful) :
    (∀ (platform : Platform) (fault : Option Fault) (path : Path) (id : TmpId) (secret : String)
        (fs fs' : FileSystem) (result : String),
      (persistSecretFile toml platform fault path id secret).exec fs = (.ok result, fs') →
        result = trim secret ∧ loadSecretFromPath toml path fs' = .ready (trim secret)) ∧
    ∀ (path : Path) (fs : FileSystem) (secret : String),
      loadSecretFromPath toml path fs = .ready secret →
        secret ≠ "" ∧ secret.toList.length % 2 = 0 ∧ ∀ c ∈ secret.toList, isHexDigit c = true := by
  refine ⟨fun platform fault path id secret fs fs' result hexec => ?_, fun path fs secret h => ?_⟩
  · have hpersist := wp_persistSecretFile toml platform fault path id secret fs
    rw [wp_iff_of_ok hexec] at hpersist
    obtain ⟨hresult, hvalid, -, text, htext, hpersisted⟩ := hpersist
    have hparse := parseSecretFile_secretContent hlawful hvalid htext
    exact ⟨hresult, loadSecretFromPath_ready_iff.2
      ⟨_, text, hpersisted.read, fromUTF8_utf8 text, hparse⟩⟩
  · obtain ⟨bytes, content, -, -, hparse⟩ := loadSecretFromPath_ready_iff.1 h
    obtain ⟨-, hne, hhex⟩ := validateSecret_eq_ok (validateSecret_of_parseSecretFile hparse)
    obtain ⟨heven, hdigits⟩ := of_decide_eq_true hhex
    exact ⟨hne, heven, List.all_eq_true.1 hdigits⟩

/-- What `toml` writes for a secret in which nothing has to be escaped. -/
def assignment (secret : String) : String := "secret_key = \"" ++ secret ++ "\"\n"

/-- `toml`, for texts of that form. -/
def assignments : Toml where
  toString secret := .ok (assignment secret)
  fromStr text :=
    let secret := String.ofList ((text.toList.drop 14).dropLast.dropLast)
    if text = assignment secret then .ok secret else .error "invalid key-value pair"

/-- It has what is used of the crate. -/
theorem assignments_lawful : assignments.Lawful := by
  refine ⟨fun secret text h => ?_, fun secret text h => ?_⟩
  · cases h
    have hsecret : String.ofList (((assignment secret).toList.drop 14).dropLast.dropLast) =
        secret := by
      obtain ⟨quote, newline, hend⟩ : ∃ quote newline, "\"\n".toList = [quote] ++ [newline] :=
        ⟨_, _, rfl⟩
      have hlength : "secret_key = \"".toList.length = 14 := by decide
      have hafter : (assignment secret).toList.drop 14 = secret.toList ++ [quote] ++ [newline] := by
        unfold assignment
        rw [String.toList_append, String.toList_append, hend, List.append_assoc,
          List.drop_left' hlength, List.append_assoc]
      rw [hafter, List.dropLast_concat, List.dropLast_concat, String.ofList_toList]
    simp only [assignments, hsecret, if_true]
  · cases h
    unfold assignment
    simp

/-- A secret with a line end behind it, in a TOML file. -/
theorem secret_round_trip_toml :
    let path : Path := ⟨true, [.normal (.unicode "a.toml")]⟩
    let outcome := (persistSecretFile assignments .unix none path ⟨1, [0]⟩ "00\n").exec
      (bare 0o755 0o022)
    outcome.1 = .ok "00" ∧ loadSecretFromPath assignments path outcome.2 = .ready "00" := by
  intro path outcome
  have hok : outcome.1 = .ok "00" := by decide
  have hexec : outcome = (.ok "00", outcome.2) := by rw [← hok]
  exact ⟨hok, ((secret_round_trip assignments_lawful).1 _ _ _ _ _ _ _ _ hexec).2⟩

end SecretFile

end PlayitAgent
