import Mathlib.Data.List.Basic

/-!
# Lines

A reader that cuts a stream into lines: it waits for the end of a line and takes the line out of its
buffer. What it has read does not depend on how the stream was cut into chunks.
-/

namespace PlayitAgent

section
variable {α : Type} [DecidableEq α] (newline : α)

/-- The first line of a buffer and what is behind it, if the line is complete. -/
def takeLine : List α → Option (List α × List α)
  | [] => none
  | b :: buffer =>
    if b = newline then some ([], buffer)
    else (takeLine buffer).map fun p => (b :: p.1, p.2)

variable {newline} {buffer line rest : List α}

/-- The line ends at the first newline. -/
theorem takeLine_eq_some_iff :
    takeLine newline buffer = some (line, rest) ↔
      buffer = line ++ newline :: rest ∧ newline ∉ line := by
  induction buffer generalizing line with
  | nil => simp [takeLine]
  | cons b buffer ih =>
    by_cases hb : b = newline
    · subst hb
      cases line with
      | nil => simp [takeLine, eq_comm]
      | cons c line =>
        simp only [takeLine, if_pos, Option.some.injEq, Prod.mk.injEq, reduceCtorEq, false_and,
          List.cons_append, List.cons.injEq, List.mem_cons, not_or, false_iff, not_and]
        rintro ⟨rfl, -⟩ hne
        exact absurd rfl hne
    · cases line with
      | nil => simp [takeLine, hb]
      | cons c line =>
        simp only [takeLine, if_neg hb, Option.map_eq_some_iff, Prod.exists, Prod.mk.injEq,
          List.cons.injEq, List.cons_append, List.mem_cons, not_or]
        constructor
        · rintro ⟨line', rest', htake, ⟨rfl, rfl⟩, rfl⟩
          obtain ⟨rfl, hmem⟩ := ih.1 htake
          exact ⟨⟨rfl, rfl⟩, fun h => hb h.symm, hmem⟩
        · rintro ⟨⟨rfl, rfl⟩, -, hmem⟩
          exact ⟨line, rest, ih.2 ⟨rfl, hmem⟩, ⟨rfl, rfl⟩, rfl⟩

/-- There is no complete line when there is no newline. -/
theorem takeLine_eq_none_iff : takeLine newline buffer = none ↔ newline ∉ buffer := by
  induction buffer with
  | nil => simp [takeLine]
  | cons b buffer ih =>
    by_cases hb : b = newline
    · simp [takeLine, hb]
    · have hb' : newline ≠ b := fun h => hb h.symm
      simp [takeLine, hb, hb', ih]

variable (newline) in
/-- The stream of a list of lines. -/
def unlines (lines : List (List α)) : List α := lines.flatMap fun line => line ++ [newline]

omit [DecidableEq α] in
/-- A stream with one line more. -/
theorem unlines_concat (lines : List (List α)) (line : List α) :
    unlines newline (lines ++ [line]) = unlines newline lines ++ line ++ [newline] := by
  simp [unlines]

/-- The lines that a reader has taken from the beginning of a stream are the first lines of it. -/
theorem prefix_of_unlines {lines lines' : List (List α)} (rest : List α)
    (h : ∀ line ∈ lines, newline ∉ line) (h' : ∀ line ∈ lines', newline ∉ line)
    (hpre : unlines newline lines ++ rest <+: unlines newline lines') : lines <+: lines' := by
  induction lines generalizing lines' with
  | nil => exact List.nil_prefix
  | cons line lines ih =>
    obtain ⟨more, hmore⟩ := hpre
    cases lines' with
    | nil => simp [unlines] at hmore
    | cons line' lines' =>
      -- Both streams begin with a line, which ends at the same newline.
      have hfirst : takeLine newline (unlines newline (line' :: lines')) =
          some (line', unlines newline lines') :=
        takeLine_eq_some_iff.2 ⟨by simp [unlines], h' line' List.mem_cons_self⟩
      have hsame : takeLine newline (unlines newline (line' :: lines')) =
          some (line, unlines newline lines ++ rest ++ more) := by
        rw [← hmore]
        exact takeLine_eq_some_iff.2 ⟨by simp [unlines], h line List.mem_cons_self⟩
      obtain ⟨rfl, hrest⟩ := Prod.mk.inj (Option.some.inj (hfirst.symm.trans hsame))
      rw [List.prefix_cons_inj]
      refine ih (fun l hl => h l (List.mem_cons_of_mem _ hl))
        (fun l hl => h' l (List.mem_cons_of_mem _ hl)) ?_
      exact ⟨more, hrest.symm⟩

/-- A reader that has all of a stream, and no complete line left, has taken all lines. -/
theorem eq_of_unlines {lines lines' : List (List α)} (h : ∀ line ∈ lines, newline ∉ line)
    (h' : ∀ line ∈ lines', newline ∉ line) (hrest : newline ∉ rest)
    (heq : unlines newline lines ++ rest = unlines newline lines') :
    lines = lines' ∧ rest = [] := by
  obtain ⟨more, rfl⟩ := prefix_of_unlines rest h h' ⟨[], by rw [List.append_nil, heq]⟩
  have hmore : rest = unlines newline more := by
    have hsplit : unlines newline (lines ++ more) =
        unlines newline lines ++ unlines newline more := by
      simp [unlines]
    rw [hsplit] at heq
    exact List.append_cancel_left heq
  cases more with
  | nil => exact ⟨by simp, by simpa [unlines] using hmore⟩
  | cons line more =>
    rw [hmore] at hrest
    exact absurd (by simp [unlines]) hrest

omit [DecidableEq α] in
/-- One more line without a newline. -/
theorem plain_concat {lines : List (List α)} (h : ∀ line ∈ lines, newline ∉ line)
    (hline : newline ∉ line) : ∀ l ∈ lines ++ [line], newline ∉ l := by
  intro l hl
  rcases List.mem_append.1 hl with hl | hl
  · exact h l hl
  · rw [List.mem_singleton.1 hl]
    exact hline

/-- A line that is complete is the next one, also when the stream ends within a line. -/
theorem concat_prefix_of_unlines {lines lines' : List (List α)} {more : List α}
    (h : ∀ line ∈ lines, newline ∉ line) (h' : ∀ line ∈ lines', newline ∉ line)
    (hline : newline ∉ line) (hrest : newline ∉ rest)
    (heq : unlines newline lines ++ (line ++ newline :: more) = unlines newline lines' ++ rest) :
    lines ++ [line] <+: lines' := by
  have hstream : unlines newline (lines ++ [line]) ++ (more ++ [newline]) =
      unlines newline (lines' ++ [rest]) := by
    rw [unlines_concat, unlines_concat, ← heq]
    simp
  have hpre := prefix_of_unlines _ (plain_concat h hline) (plain_concat h' hrest)
    ⟨[], by rw [List.append_nil, hstream]⟩
  rcases List.prefix_concat_iff.1 hpre with hall | hpre
  · -- The stream would be longer than it is.
    have hlen := congrArg List.length heq
    have hsame := congrArg (fun l => (unlines newline l).length) hall
    simp only [unlines_concat, List.length_append, List.length_cons, List.length_nil] at hlen hsame
    omega
  · exact hpre

/-- A reader that has all of a stream that ends within a line, and no complete line left, has taken
all lines, and its buffer is the rest. -/
theorem eq_of_unlines_append {lines lines' : List (List α)} (h : ∀ line ∈ lines, newline ∉ line)
    (h' : ∀ line ∈ lines', newline ∉ line) (hbuffer : newline ∉ buffer) (hrest : newline ∉ rest)
    (heq : unlines newline lines ++ buffer = unlines newline lines' ++ rest) :
    lines = lines' ∧ buffer = rest := by
  have hstream : unlines newline (lines ++ [buffer]) ++ [] =
      unlines newline (lines' ++ [rest]) := by
    rw [unlines_concat, unlines_concat, heq, List.append_nil]
  obtain ⟨hlines, -⟩ :=
    eq_of_unlines (plain_concat h hbuffer) (plain_concat h' hrest) (List.not_mem_nil) hstream
  obtain ⟨hlines, hlast⟩ := List.append_inj' hlines rfl
  exact ⟨hlines, List.singleton_inj.1 hlast⟩

end

end PlayitAgent
