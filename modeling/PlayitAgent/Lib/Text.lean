import Mathlib.Data.List.DropRight
import Mathlib.Data.Nat.Notation

/-!
# Text

The functions on characters and strings of Rust's standard library, and of the crates `hex` and
`serde_json`, that the modelled code calls.
-/

namespace PlayitAgent

/-- `char::is_whitespace`. -/
def isWhitespace (c : Char) : Bool :=
  (9 ≤ c.toNat ∧ c.toNat ≤ 13) ∨ (0x2000 ≤ c.toNat ∧ c.toNat ≤ 0x200a) ∨
    c.toNat ∈ [0x20, 0x85, 0xa0, 0x1680, 0x2028, 0x2029, 0x202f, 0x205f, 0x3000]

/-- `char::is_ascii_digit`. -/
def isAsciiDigit (c : Char) : Bool := '0' ≤ c ∧ c ≤ '9'

/-- `str::trim`. -/
def trim (s : String) : String :=
  String.ofList ((s.toList.dropWhile isWhitespace).rdropWhile isWhitespace)

/-- A digit that `hex::decode` accepts. -/
def isHexDigit (c : Char) : Bool :=
  ('0' ≤ c ∧ c ≤ '9') ∨ ('a' ≤ c ∧ c ≤ 'f') ∨ ('A' ≤ c ∧ c ≤ 'F')

/-- `hex::decode` succeeds. -/
def decodesHex (s : String) : Bool := s.toList.length % 2 = 0 ∧ s.toList.all isHexDigit

/-- A character in a JSON string, as `serde_json` writes it. -/
def jsonChar (c : Char) : String :=
  if c = '"' then "\\\""
  else if c = '\\' then "\\\\"
  else if c.toNat = 8 then "\\b"
  else if c.toNat = 9 then "\\t"
  else if c.toNat = 10 then "\\n"
  else if c.toNat = 12 then "\\f"
  else if c.toNat = 13 then "\\r"
  else if c.toNat < 32 then
    "\\u00" ++ (if c.toNat < 16 then "0" else "1") ++ String.ofList (Nat.toDigits 16 (c.toNat % 16))
  else String.singleton c

/-- The UTF-8 bytes of a text. -/
def utf8 (text : String) : List UInt8 := text.toByteArray.data.toList

/-- The bytes of a text are read as the text. -/
theorem fromUTF8_utf8 (text : String) : String.fromUTF8? ⟨(utf8 text).toArray⟩ = some text := by
  have hbytes : (⟨(utf8 text).toArray⟩ : ByteArray) = text.toByteArray := rfl
  rw [hbytes, String.fromUTF8?, dif_pos text.isValidUTF8]
  rfl

/-- The bytes of two texts, one behind the other. -/
theorem utf8_append (a b : String) : utf8 (a ++ b) = utf8 a ++ utf8 b := by simp [utf8]

/-- An ASCII digit is not whitespace. -/
theorem isWhitespace_of_isAsciiDigit {c : Char} (hc : isAsciiDigit c) : isWhitespace c = false := by
  have hbounds : 48 ≤ c.toNat ∧ c.toNat ≤ 57 := by
    simpa [isAsciiDigit, Char.le_def, UInt32.le_iff_toNat_le] using hc
  simp [isWhitespace]
  omega

/-- A hexadecimal digit is not whitespace. -/
theorem isWhitespace_of_isHexDigit {c : Char} (hc : isHexDigit c) : isWhitespace c = false := by
  have hbounds : 48 ≤ c.toNat ∧ c.toNat ≤ 57 ∨ 97 ≤ c.toNat ∧ c.toNat ≤ 102 ∨
      65 ≤ c.toNat ∧ c.toNat ≤ 70 := by
    simpa [isHexDigit, Char.le_def, UInt32.le_iff_toNat_le] using hc
  simp [isWhitespace]
  omega

/-! ## Trimming -/

/-- A text without whitespace stays as it is. -/
theorem trim_eq_self {s : String} (h : ∀ c ∈ s.toList, isWhitespace c = false) : trim s = s := by
  have hleft : s.toList.dropWhile isWhitespace = s.toList := by
    rw [List.dropWhile_eq_self_iff]
    intro hpos
    simp [h _ (List.getElem_mem hpos)]
  have hright : s.toList.rdropWhile isWhitespace = s.toList := by
    rw [List.rdropWhile_eq_self_iff]
    intro hne
    simp [h _ (List.getLast_mem hne)]
  rw [trim, hleft, hright, String.ofList_toList]

/-- What remains where elements are dropped in front has all the elements that are not. -/
theorem mem_dropWhile_of_not {α : Type} {p : α → Bool} {x : α} (hx : p x = false) {l : List α}
    (h : x ∈ l) : x ∈ l.dropWhile p := by
  rw [← l.takeWhile_append_dropWhile (p := p), List.mem_append] at h
  refine h.resolve_left fun htake => ?_
  have hp := List.mem_takeWhile_imp htake
  rw [hx] at hp
  cases hp

/-- A character that is not whitespace is not trimmed. -/
theorem mem_trim {s : String} {c : Char} (hc : isWhitespace c = false) (h : c ∈ s.toList) :
    c ∈ (trim s).toList := by
  have hleft := mem_dropWhile_of_not hc h
  rw [trim, String.toList_ofList, List.rdropWhile, List.mem_reverse]
  exact mem_dropWhile_of_not hc (List.mem_reverse.2 hleft)

/-! ## Pieces -/

/-- An element of pieces that are joined is the separator, or stands in one of them. -/
theorem mem_intercalate {α : Type} {sep x : α} {pieces : List (List α)}
    (h : x ∈ [sep].intercalate pieces) : x = sep ∨ ∃ piece ∈ pieces, x ∈ piece := by
  induction pieces with
  | nil => simp at h
  | cons piece pieces ih =>
    cases pieces with
    | nil => exact .inr ⟨piece, by simp, by simpa using h⟩
    | cons piece' pieces =>
      -- The element is in the first piece, is the separator, or is in what follows.
      rw [List.intercalate_cons_cons, List.append_assoc, List.mem_append, List.mem_append] at h
      rcases h with h | h | h
      · exact .inr ⟨piece, by simp, h⟩
      · exact .inl (by simpa using h)
      · rcases ih h with h | ⟨f, hf, hx⟩
        · exact .inl h
        · exact .inr ⟨f, List.mem_cons_of_mem _ hf, hx⟩

/-- Joined pieces are the first of them, and the others with a separator before each. -/
theorem intercalate_cons_eq_append_flatMap {α : Type} (sep : α) (piece : List α)
    (pieces : List (List α)) :
    [sep].intercalate (piece :: pieces) = piece ++ pieces.flatMap (sep :: ·) := by
  induction pieces generalizing piece with
  | nil => simp
  | cons piece' pieces ih =>
    rw [List.intercalate_cons_cons, ih piece', List.flatMap_cons, List.append_assoc,
      List.singleton_append, List.cons_append]

end PlayitAgent
