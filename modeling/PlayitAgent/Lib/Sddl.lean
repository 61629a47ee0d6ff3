import PlayitAgent.Lib.Text

/-!
# Access control lists as text

The part of the security descriptor definition language that says who has access: a discretionary
access control list is written as `D:`, its flags, and its entries, each of them six fields between
parentheses. The six fields are separated by semicolons, and the last one names the trustee.

`parseDacl` reads such a text. `parseDacl_render` says that fields that do not contain a parenthesis
or a semicolon come back as they were written.
-/

namespace PlayitAgent

/-- An entry of an access control list. -/
structure Ace where
  aceType : List Char
  aceFlags : List Char
  rights : List Char
  objectGuid : List Char
  inheritObjectGuid : List Char
  /-- The trustee. -/
  accountSid : List Char
  deriving DecidableEq

/-- A discretionary access control list. -/
structure Dacl where
  flags : List Char
  aces : List Ace
  deriving DecidableEq

/-! ## Reading -/

/-- What stands before the closing parenthesis of an entry. -/
def parseAce : List Char → Option Ace
  | '(' :: body =>
    match body.splitOn ';' with
    | [aceType, aceFlags, rights, objectGuid, inheritObjectGuid, accountSid] =>
      -- Entries are not nested.
      if '(' ∈ body then none
      else some ⟨aceType, aceFlags, rights, objectGuid, inheritObjectGuid, accountSid⟩
    | _ => none
  | _ => none

/-- The entries of a list, each with its parentheses, and nothing behind the last one. -/
def parseAces (text : List Char) : Option (List Ace) :=
  let pieces := text.splitOn ')'
  if pieces.getLast? = some [] then pieces.dropLast.mapM parseAce else none

/-- A discretionary access control list. -/
def parseDacl : List Char → Option Dacl
  | 'D' :: ':' :: text =>
    (parseAces (text.dropWhile (· ≠ '('))).map fun aces => ⟨text.takeWhile (· ≠ '('), aces⟩
  | _ => none

/-! ## Writing -/

/-- The fields of an entry, in the order in which they stand. -/
def Ace.fields (ace : Ace) : List (List Char) :=
  [ace.aceType, ace.aceFlags, ace.rights, ace.objectGuid, ace.inheritObjectGuid, ace.accountSid]

/-- An entry up to its closing parenthesis. -/
def Ace.opened (ace : Ace) : List Char := '(' :: [';'].intercalate ace.fields

/-- The text of an entry. -/
def Ace.render (ace : Ace) : List Char := ace.opened ++ [')']

/-- A field that cannot be taken for anything else. -/
def PlainField (field : List Char) : Prop := '(' ∉ field ∧ ')' ∉ field ∧ ';' ∉ field

/-- All fields of an entry are plain. -/
def Ace.Plain (ace : Ace) : Prop := ∀ field ∈ ace.fields, PlainField field

namespace Ace

variable {ace : Ace}

/-- The body of a plain entry has no opening parenthesis. -/
theorem Plain.not_mem_body (h : ace.Plain) : '(' ∉ [';'].intercalate ace.fields := by
  intro hmem
  rcases mem_intercalate hmem with heq | ⟨field, hfield, hx⟩
  · exact absurd heq (by decide)
  · exact (h field hfield).1 hx

/-- A plain entry has no closing parenthesis before its end. -/
theorem Plain.not_mem_opened (h : ace.Plain) : ')' ∉ ace.opened := by
  intro hmem
  rcases List.mem_cons.1 hmem with heq | hmem
  · exact absurd heq (by decide)
  · rcases mem_intercalate hmem with heq | ⟨field, hfield, hx⟩
    · exact absurd heq (by decide)
    · exact (h field hfield).2.1 hx

/-- A plain entry is read back. -/
theorem Plain.parseAce_opened (h : ace.Plain) : parseAce ace.opened = some ace := by
  have hsplit : ([';'].intercalate ace.fields).splitOn ';' = ace.fields :=
    List.splitOn_intercalate ';' (fun field hfield => (h field hfield).2.2) (by simp [fields])
  have hbody := h.not_mem_body
  unfold opened parseAce
  simp only [hsplit, hbody]
  rfl

end Ace

/-- The pieces of the text of plain entries. -/
theorem splitOn_flatMap_render {aces : List Ace} (h : ∀ ace ∈ aces, ace.Plain) :
    (aces.flatMap Ace.render).splitOn ')' = aces.map Ace.opened ++ [[]] := by
  induction aces with
  | nil => rfl
  | cons ace aces ih =>
    have hopened := (h ace (by simp)).not_mem_opened
    have hrest := ih fun a ha => h a (List.mem_cons_of_mem _ ha)
    rw [List.flatMap_cons, Ace.render, List.append_assoc, List.singleton_append,
      List.splitOn_append_cons_self_of_not_mem hopened, hrest]
    rfl

/-- Plain entries are read back. -/
theorem parseAces_flatMap_render {aces : List Ace} (h : ∀ ace ∈ aces, ace.Plain) :
    parseAces (aces.flatMap Ace.render) = some aces := by
  have hread : (aces.map Ace.opened).mapM parseAce = some aces := by
    induction aces with
    | nil => rfl
    | cons ace aces ih =>
      have hace := (h ace (by simp)).parseAce_opened
      have hrest := ih fun a ha => h a (List.mem_cons_of_mem _ ha)
      rw [List.map_cons, List.mapM_cons, hace, hrest]
      rfl
  unfold parseAces
  simp only [splitOn_flatMap_render h, List.getLast?_concat, if_true, List.dropLast_concat, hread]

/-- A list whose flags have no opening parenthesis, and whose entries are plain, is read back. -/
theorem parseDacl_render {flags : List Char} {aces : List Ace} (hflags : '(' ∉ flags)
    (haces : ∀ ace ∈ aces, ace.Plain) :
    parseDacl ('D' :: ':' :: (flags ++ aces.flatMap Ace.render)) = some ⟨flags, aces⟩ := by
  have hplain : ∀ c ∈ flags, decide (c ≠ '(') = true := by
    intro c hc
    simp only [decide_eq_true_eq]
    rintro rfl
    exact hflags hc
  -- The text of the entries is empty or starts with a parenthesis.
  have htake : (aces.flatMap Ace.render).takeWhile (· ≠ '(') = [] := by
    cases aces with
    | nil => rfl
    | cons ace aces => rfl
  have hdrop : (aces.flatMap Ace.render).dropWhile (· ≠ '(') = aces.flatMap Ace.render := by
    cases aces with
    | nil => rfl
    | cons ace aces => rfl
  simp only [parseDacl]
  rw [List.takeWhile_append_of_pos hplain, List.dropWhile_append_of_pos hplain, htake, hdrop,
    parseAces_flatMap_render haces, List.append_nil]
  rfl

end PlayitAgent
