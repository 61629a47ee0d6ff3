import PlayitAgent.Lib.Sddl

/-!
# The security descriptor of the pipe

`normalize_sid` and `pipe_security_sddl` of `playitd/src/windows.rs`, and the copy of
`normalize_sid` in `playitd-windows-setup/src/sid.rs`. The security identifier comes from a file,
and goes into a text that grants access to the pipe. `normalize_sid` accepts one grammar, whose
words have no character with a meaning in that text, so that the text has the entries that it seems
to have.
-/

namespace PlayitAgent

/-- `normalize_sid` of `playitd/src/windows.rs`. -/
def normalizeSid (sid : String) : Option String :=
  if !"S-1-".toList.isPrefixOf sid.toList then none
  else if sid.toList.any fun c => isWhitespace c || c ∈ ['(', ')', ';'] then none
  else if !sid.toList.all fun c => isAsciiDigit c || c ∈ ['S', '-'] then none
  else
    let parts := sid.toList.splitOn '-'
    if parts[0]? ≠ some ['S'] ∨ parts[1]? ≠ some ['1'] then none
    else if !(parts.drop 2).all fun part => !part.isEmpty && part.all isAsciiDigit then none
    else some sid

/-- `normalize_sid` of `playitd-windows-setup/src/sid.rs`, whose text is the same. -/
def Setup.normalizeSid (sid : String) : Option String :=
  if !"S-1-".toList.isPrefixOf sid.toList then none
  else if sid.toList.any fun c => isWhitespace c || c ∈ ['(', ')', ';'] then none
  else if !sid.toList.all fun c => isAsciiDigit c || c ∈ ['S', '-'] then none
  else
    let parts := sid.toList.splitOn '-'
    if parts[0]? ≠ some ['S'] ∨ parts[1]? ≠ some ['1'] then none
    else if !(parts.drop 2).all fun part => !part.isEmpty && part.all isAsciiDigit then none
    else some sid

/-- `pipe_security_sddl`. -/
def pipeSecuritySddl (user_sid : Option String) : String :=
  let sddl := "D:P(A;;GA;;;SY)(A;;GA;;;BA)"
  match user_sid.bind normalizeSid with
  | some user_sid => sddl ++ "(A;;GA;;;" ++ user_sid ++ ")"
  | none => sddl

/-! ## The grammar -/

/-- A non-empty run of ASCII digits. -/
def IsDigits (group : List Char) : Prop := group ≠ [] ∧ ∀ c ∈ group, isAsciiDigit c

/-- `S-1` and one or more groups of a hyphen and a run of digits. -/
def IsSid (sid : String) : Prop :=
  ∃ groups : List (List Char), groups ≠ [] ∧ (∀ group ∈ groups, IsDigits group) ∧
    sid.toList = "S-1".toList ++ groups.flatMap ('-' :: ·)

/-- The characters of a security identifier. -/
def IsSidChar (c : Char) : Prop := isAsciiDigit c ∨ c ∈ ['S', '-']

/-- A hyphen is not a digit. -/
theorem IsDigits.not_mem_hyphen {group : List Char} (h : IsDigits group) : '-' ∉ group := by
  intro hmem
  exact absurd (h.2 '-' hmem) (by decide)

/-- Such a character is not whitespace. -/
theorem IsSidChar.isWhitespace_eq_false {c : Char} (h : IsSidChar c) : isWhitespace c = false := by
  rcases h with h | h
  · exact isWhitespace_of_isAsciiDigit h
  · simp only [List.mem_cons, List.not_mem_nil, or_false] at h
    rcases h with rfl | rfl
    · decide
    · decide

/-- Such a character has no meaning in the text of an entry. -/
theorem IsSidChar.not_mem {c : Char} (h : IsSidChar c) : c ∉ ['(', ')', ';'] := by
  intro hmem
  simp only [List.mem_cons, List.not_mem_nil, or_false] at hmem
  rcases hmem with rfl | rfl | rfl
  · exact absurd h (by simp [IsSidChar, isAsciiDigit])
  · exact absurd h (by simp [IsSidChar, isAsciiDigit])
  · exact absurd h (by simp [IsSidChar, isAsciiDigit])

/-- The pieces of a security identifier, joined by hyphens. -/
theorem intercalate_sid (groups : List (List Char)) :
    ['-'].intercalate (['S'] :: ['1'] :: groups) =
      "S-1".toList ++ groups.flatMap ('-' :: ·) := by
  rw [intercalate_cons_eq_append_flatMap]
  rfl

/-- The characters of a security identifier are those that the filters let through. -/
theorem IsSid.isSidChar {sid : String} (h : IsSid sid) : ∀ c ∈ sid.toList, IsSidChar c := by
  obtain ⟨groups, -, hgroups, hsid⟩ := h
  intro c hc
  rw [hsid, ← intercalate_sid] at hc
  rcases mem_intercalate hc with rfl | ⟨piece, hpiece, hc⟩
  · exact .inr (by simp)
  · simp only [List.mem_cons] at hpiece
    rcases hpiece with rfl | rfl | hpiece
    · exact .inr (by simpa using .inl (List.mem_singleton.1 hc))
    · exact .inl (List.mem_singleton.1 hc ▸ by decide)
    · exact .inl ((hgroups piece hpiece).2 c hc)

/-- Splitting a security identifier at its hyphens. -/
theorem splitOn_sid {groups : List (List Char)} (h : ∀ group ∈ groups, IsDigits group) :
    ("S-1".toList ++ groups.flatMap ('-' :: ·)).splitOn '-' = ['S'] :: ['1'] :: groups := by
  rw [← intercalate_sid]
  apply List.splitOn_intercalate
  · intro piece hpiece
    simp only [List.mem_cons] at hpiece
    rcases hpiece with rfl | rfl | hpiece
    · decide
    · decide
    · exact (h piece hpiece).not_mem_hyphen
  · simp

/-- What `normalize_sid` accepts is in the grammar: the split gives `S`, `1`, and the groups, of
which there is one since the text goes on behind `S-1`. -/
theorem isSid_of_normalizeSid {sid accepted : String} (h : normalizeSid sid = some accepted) :
    IsSid sid ∧ accepted = sid := by
  unfold normalizeSid at h
  dsimp only at h
  -- All five checks were passed.
  split_ifs at h with hpre hbreakout hchars hhead hparts
  cases h
  simp only [ne_eq, not_or, not_not] at hhead
  simp only [Bool.not_eq_true', Bool.not_eq_false, List.all_eq_true, Bool.and_eq_true,
    List.isEmpty_eq_false_iff] at hparts hpre
  obtain ⟨groups, hsplit⟩ : ∃ groups, sid.toList.splitOn '-' = ['S'] :: ['1'] :: groups := by
    match hp : sid.toList.splitOn '-', hhead with
    | s :: one :: groups, hhead =>
      obtain ⟨h0, h1⟩ := hhead
      cases h0
      cases h1
      exact ⟨groups, rfl⟩
    | [s], hhead => exact nomatch hhead.2
    | [], hhead => exact nomatch hhead.2
  have hsid : sid.toList = "S-1".toList ++ groups.flatMap ('-' :: ·) := by
    rw [← intercalate_sid, ← hsplit, List.intercalate_splitOn]
  rw [hsplit] at hparts
  refine ⟨⟨groups, ?_, hparts, hsid⟩, rfl⟩
  -- Without a group the text would be `S-1`, which lacks the last hyphen of the first check.
  rintro rfl
  rw [hsid] at hpre
  exact absurd hpre (by decide)

/-- Every word of the grammar passes all the checks of `normalize_sid`. -/
theorem IsSid.normalizeSid {sid : String} (h : IsSid sid) : normalizeSid sid = some sid := by
  have hchar := h.isSidChar
  obtain ⟨groups, hne, hgroups, hsid⟩ := h
  have hsplit : sid.toList.splitOn '-' = ['S'] :: ['1'] :: groups := by
    rw [hsid, splitOn_sid hgroups]
  -- There is a group, so a hyphen comes behind `S-1`.
  have hpre : "S-1-".toList.isPrefixOf sid.toList := by
    obtain ⟨group, groups, rfl⟩ := List.exists_cons_of_ne_nil hne
    rw [hsid]
    rfl
  have hbreakout : ¬sid.toList.any fun c => isWhitespace c || c ∈ ['(', ')', ';'] := by
    simp only [List.any_eq_true, Bool.or_eq_true, decide_eq_true_eq, not_exists, not_and, not_or]
    intro c hc
    exact ⟨by simp [(hchar c hc).isWhitespace_eq_false], (hchar c hc).not_mem⟩
  have hchars : sid.toList.all fun c => isAsciiDigit c || c ∈ ['S', '-'] := by
    simp only [List.all_eq_true, Bool.or_eq_true, decide_eq_true_eq]
    exact hchar
  have hparts : groups.all fun part => !part.isEmpty && part.all isAsciiDigit := by
    simp only [List.all_eq_true, Bool.and_eq_true, Bool.not_eq_true', List.isEmpty_eq_false_iff]
    exact hgroups
  unfold PlayitAgent.normalizeSid
  simp only [hpre, hbreakout, hchars, hsplit, hparts, List.getElem?_cons_zero,
    List.getElem?_cons_succ, List.drop_succ_cons, List.drop_zero, ne_eq, not_true, or_self,
    Bool.not_true, Bool.false_eq_true, if_false]

/-- `normalize_sid` accepts the grammar and nothing else, and returns what it was given. -/
theorem normalizeSid_eq_some_iff (sid accepted : String) :
    normalizeSid sid = some accepted ↔ IsSid sid ∧ accepted = sid := by
  constructor
  · exact isSid_of_normalizeSid
  · rintro ⟨h, rfl⟩
    exact h.normalizeSid

instance (sid : String) : Decidable (IsSid sid) :=
  decidable_of_iff (normalizeSid sid = some sid) (by simp [normalizeSid_eq_some_iff])

/-- The two copies of `normalize_sid` are the same function. -/
theorem Setup.normalizeSid_eq : Setup.normalizeSid = PlayitAgent.normalizeSid := rfl

/-! ## The entries -/

/-- An entry that grants all access to a trustee, and is not inherited. -/
def grantAll (trustee : List Char) : Ace where
  aceType := ['A']
  aceFlags := []
  rights := ['G', 'A']
  objectGuid := []
  inheritObjectGuid := []
  accountSid := trustee

/-- Such an entry is plain when its trustee is. -/
theorem plain_grantAll {trustee : List Char} (h : PlainField trustee) :
    (grantAll trustee).Plain := by
  intro field hfield
  simp only [Ace.fields, grantAll, List.mem_cons, List.not_mem_nil, or_false] at hfield
  rcases hfield with rfl | rfl | rfl | rfl | rfl | rfl
  · simp [PlainField]
  · simp [PlainField]
  · simp [PlainField]
  · simp [PlainField]
  · simp [PlainField]
  · exact h

/-- A security identifier has no character with a meaning in the text of an entry. -/
theorem IsSid.plainField {sid : String} (h : IsSid sid) : PlainField sid.toList := by
  have hnot : ∀ c ∈ ['(', ')', ';'], c ∉ sid.toList := by
    intro c hmem hc
    exact (h.isSidChar c hc).not_mem hmem
  exact ⟨hnot _ (by simp), hnot _ (by simp), hnot _ (by simp)⟩

/-- The trustees of the entries of the pipe: the system, the administrators, and the user whose
security identifier is one. -/
def pipeTrustees (user_sid : Option String) : List String :=
  ["SY", "BA"] ++ (user_sid.filter fun sid => IsSid sid).toList

/-- All of these trustees are plain. -/
theorem plainField_of_mem_pipeTrustees {user_sid : Option String} {trustee : String}
    (h : trustee ∈ pipeTrustees user_sid) : PlainField trustee.toList := by
  simp only [pipeTrustees, List.mem_append, List.mem_cons, List.not_mem_nil, or_false,
    Option.mem_toList, Option.filter_eq_some_iff, decide_eq_true_eq] at h
  rcases h with (rfl | rfl) | ⟨-, hsid⟩
  · simp [PlainField]
  · simp [PlainField]
  · exact hsid.plainField

/-- The identifier that `normalize_sid` lets through. -/
theorem bind_normalizeSid (user_sid : Option String) :
    user_sid.bind normalizeSid = user_sid.filter fun sid => IsSid sid := by
  cases user_sid with
  | none => rfl
  | some sid =>
    by_cases hsid : IsSid sid
    · rw [Option.bind_some, hsid.normalizeSid, Option.filter_some, if_pos (by simpa using hsid)]
    · have hnone : normalizeSid sid = none := by
        rw [Option.eq_none_iff_forall_ne_some]
        intro accepted h
        exact hsid (isSid_of_normalizeSid h).1
      rw [Option.bind_some, hnone, Option.filter_some, if_neg (by simpa using hsid)]

/-- The text is that of the entries of these trustees. -/
theorem toList_pipeSecuritySddl (user_sid : Option String) :
    (pipeSecuritySddl user_sid).toList =
      'D' :: ':' :: (['P'] ++
        ((pipeTrustees user_sid).map fun trustee => grantAll trustee.toList).flatMap
          Ace.render) := by
  unfold pipeSecuritySddl pipeTrustees
  rw [bind_normalizeSid]
  -- Without a user the text is a literal; with one it has another entry behind that.
  cases user_sid.filter fun sid => IsSid sid with
  | none => rfl
  | some sid =>
    simp only [String.toList_append, Option.toList_some, List.map_append, List.flatMap_append,
      List.map_cons, List.map_nil, List.flatMap_singleton]
    simp [grantAll, Ace.render, Ace.opened, Ace.fields]

/-- Both copies of `normalize_sid` accept `S-1` and one or more groups of a hyphen and digits, as
they are, and nothing else. Whatever is given to `pipe_security_sddl`, its text reads as a protected
list with an entry for the system, one for the administrators, and one for the security identifier
if it is one, and no other entry. -/
theorem pipe_security_entries :
    (∀ sid accepted, normalizeSid sid = some accepted ↔ IsSid sid ∧ accepted = sid) ∧
    (∀ sid accepted, Setup.normalizeSid sid = some accepted ↔ IsSid sid ∧ accepted = sid) ∧
    ∀ user_sid : Option String,
      parseDacl (pipeSecuritySddl user_sid).toList =
        some ⟨['P'], (["SY", "BA"] ++ (user_sid.filter fun sid => IsSid sid).toList).map
          fun trustee => grantAll trustee.toList⟩ := by
  refine ⟨normalizeSid_eq_some_iff, ?_, fun user_sid => ?_⟩
  · rw [Setup.normalizeSid_eq]
    exact normalizeSid_eq_some_iff
  · rw [toList_pipeSecuritySddl]
    refine parseDacl_render (by decide) fun ace hace => ?_
    obtain ⟨trustee, htrustee, rfl⟩ := List.mem_map.1 hace
    exact plain_grantAll (plainField_of_mem_pipeTrustees htrustee)

end PlayitAgent
