/-
  TokenPilot.Library.Csv — tables of texts as comma-separated lines.

  A field is quoted when it holds a comma, a quote or a line break, and a quote in it is
  doubled. `decode` reads a text by the rules of RFC 4180, character by character; a line
  ends with CRLF or with LF, and a text outside of these rules (a quote inside a plain field,
  a bare CR, an open quote at the end) has no reading. `decode_document`: what is written of
  a table whose rows have fields is read as the table, whatever the fields hold.
-/

import Mathlib.Tactic.Common

namespace TokenPilot.Library.Csv

abbrev Field := List Char

/-! ## Writing -/

def special (c : Char) : Bool := c = '"' || c = ',' || c = '\r' || c = '\n'

def doubled (c : Char) : List Char := if c = '"' then ['"', '"'] else [c]

def quoted (field : Field) : List Char :=
  if field.any special then '"' :: (field.flatMap doubled ++ ['"']) else field

/-- A field in quotes, whatever it holds. -/
def enclosed (field : Field) : List Char := '"' :: (field.flatMap doubled ++ ['"'])

def line (row : List Field) : List Char := [','].intercalate (row.map quoted)

def document (rows : List (List Field)) : List Char := ['\n'].intercalate (rows.map line) ++ ['\n']

/-! ## Reading -/

/-- Where a reader stands: before a field, in a plain one, in a quoted one, after a quote in
    it, after a CR. -/
inductive Place where
  | start
  | plain
  | inside
  | closed
  | ended

/-- What a character does: it goes on with a field, ends it, ends the row, or fits nowhere. -/
inductive Action where
  | keep (place : Place) (field : Field)
  | field
  | row
  | refuse

def outside (field : Field) (c : Char) (otherwise : Action) : Action :=
  if c = ',' then .field else if c = '\n' then .row else if c = '\r' then .keep .ended field else otherwise

def action (field : Field) (c : Char) : Place → Action
  | .start => if c = '"' then .keep .inside [] else outside field c (.keep .plain (field ++ [c]))
  | .plain => if c = '"' then .refuse else outside field c (.keep .plain (field ++ [c]))
  | .inside => if c = '"' then .keep .closed field else .keep .inside (field ++ [c])
  | .closed => if c = '"' then .keep .inside (field ++ [c]) else outside field c .refuse
  | .ended => if c = '\n' then .row else .refuse

/-- The rows of a text, when `row` and the beginning `field` of its next field were read already. -/
def read (place : Place) (field : Field) (row : List Field) : List Char → Option (List (List Field))
  | [] =>
    match place, row with
    | .start, [] => some []
    | .inside, _ | .ended, _ => none
    | _, _ => some [row ++ [field]]
  | c :: rest =>
    match action field c place with
    | .keep place field => read place field row rest
    | .field => read .start [] (row ++ [field]) rest
    | .row => (read .start [] [] rest).map ((row ++ [field]) :: ·)
    | .refuse => none

def decode (s : List Char) : Option (List (List Field)) := read .start [] [] s

/-! ## The round trip -/

/-- What is read after a field: the next field of the row, or the rows after it. -/
def next (field : Field) (row : List Field) (c : Char) (rest : List Char) : Option (List (List Field)) :=
  if c = ',' then read .start [] (row ++ [field]) rest else (read .start [] [] rest).map ((row ++ [field]) :: ·)

section Fields

variable {field acc : Field} {row : List Field} {c : Char} {rest : List Char}

theorem read_doubled (acc : Field) (row : List Field) (field : Field) (rest : List Char) :
    read .inside acc row (field.flatMap doubled ++ rest) = read .inside (acc ++ field) row rest := by
  induction field generalizing acc with
  | nil => simp
  | cons d field ih =>
    rw [List.flatMap_cons, List.append_assoc, doubled]
    by_cases hquote : d = '"'
    · subst hquote
      show read .inside (acc ++ ['"']) row (field.flatMap doubled ++ rest) = _
      rw [ih, List.append_assoc, List.singleton_append]
    · have hkeep : action acc d .inside = .keep .inside (acc ++ [d]) := if_neg hquote
      rw [if_neg hquote, List.singleton_append, read, hkeep]
      show read .inside (acc ++ [d]) row _ = _
      rw [ih, List.append_assoc, List.singleton_append]

theorem outside_plain (field : Field) {d : Char} (hd : special d = false) (otherwise : Action) :
    d ≠ '"' ∧ outside field d otherwise = otherwise := by
  simp only [special, Bool.or_eq_false_iff, decide_eq_false_iff_not] at hd
  obtain ⟨⟨⟨hquote, hcomma⟩, hreturn⟩, hline⟩ := hd
  exact ⟨hquote, by rw [outside, if_neg hcomma, if_neg hline, if_neg hreturn]⟩

theorem read_closed (hc : c = ',' ∨ c = '\n') : read .closed field row (c :: rest) = next field row c rest := by
  rcases hc with rfl | rfl <;> rfl

theorem read_plain (hacc : acc ≠ []) (hfield : ∀ d ∈ field, special d = false) (hc : c = ',' ∨ c = '\n') :
    read .plain acc row (field ++ c :: rest) = next (acc ++ field) row c rest := by
  induction field generalizing acc with
  | nil =>
    rw [List.append_nil]
    rcases hc with rfl | rfl <;> rfl
  | cons d field ih =>
    obtain ⟨hquote, hplain⟩ := outside_plain acc (hfield d (by simp)) (.keep .plain (acc ++ [d]))
    have hkeep : action acc d .plain = .keep .plain (acc ++ [d]) := (if_neg hquote).trans hplain
    have hrest := ih (List.append_ne_nil_of_right_ne_nil acc (List.cons_ne_nil d [])) (fun e he => hfield e (by simp [he]))
    rw [List.append_assoc, List.singleton_append] at hrest
    rw [List.cons_append, read, hkeep]
    exact hrest

theorem read_enclosed (field : Field) (row : List Field) (hc : c = ',' ∨ c = '\n') (rest : List Char) :
    read .start [] row (enclosed field ++ c :: rest) = next field row c rest := by
  rw [enclosed, List.cons_append, List.append_assoc]
  show read .inside [] row _ = _
  rw [read_doubled, List.nil_append]
  show read .closed field row (c :: rest) = _
  exact read_closed hc

/-- A field is read up to what follows it. -/
theorem read_quoted (field : Field) (row : List Field) (hc : c = ',' ∨ c = '\n') (rest : List Char) :
    read .start [] row (quoted field ++ c :: rest) = next field row c rest := by
  unfold quoted
  by_cases hspecial : field.any special = true
  · rw [if_pos hspecial]
    exact read_enclosed field row hc rest
  · rw [if_neg hspecial]
    have hplain : ∀ d ∈ field, special d = false := by
      simpa using hspecial
    cases field with
    | nil => rcases hc with rfl | rfl <;> rfl
    | cons d field =>
      obtain ⟨hquote, hkept⟩ := outside_plain [] (hplain d (by simp)) (.keep .plain [d])
      have hkeep : action [] d .start = .keep .plain [d] := (if_neg hquote).trans hkept
      rw [List.cons_append, read, hkeep]
      exact read_plain (by simp) (fun e he => hplain e (by simp [he])) hc

end Fields

/-- Fields are read up to the end of their line, when each is read up to what follows it. -/
theorem read_fields {write : Field → List Char}
    (hwrite : ∀ field row c rest, c = ',' ∨ c = '\n' →
      read .start [] row (write field ++ c :: rest) = next field row c rest)
    (row before : List Field) (hrow : row ≠ []) (rest : List Char) :
    read .start [] before ([','].intercalate (row.map write) ++ '\n' :: rest) =
      (read .start [] [] rest).map ((before ++ row) :: ·) := by
  induction row generalizing before with
  | nil => exact absurd rfl hrow
  | cons field row ih =>
    cases row with
    | nil =>
      simp only [List.map_cons, List.map_nil, List.intercalate_singleton]
      exact hwrite field before '\n' rest (.inr rfl)
    | cons other row =>
      have hrest := ih (before ++ [field]) (by simp)
      rw [List.append_assoc, List.singleton_append] at hrest
      rw [List.map_cons, List.map_cons, List.intercalate_cons_cons, List.append_assoc, List.append_assoc,
        ← List.map_cons, List.singleton_append, hwrite field before ',' _ (.inl rfl), ← hrest]
      rfl

theorem read_line (row before : List Field) (hrow : row ≠ []) (rest : List Char) :
    read .start [] before (line row ++ '\n' :: rest) = (read .start [] [] rest).map ((before ++ row) :: ·) :=
  read_fields (fun field row _ rest hc => read_quoted field row hc rest) row before hrow rest

/-- A table is read back, whatever its fields hold. -/
theorem decode_document {rows : List (List Field)} (hne : rows ≠ []) (h : ∀ row ∈ rows, row ≠ []) :
    decode (document rows) = some rows := by
  unfold decode document
  induction rows with
  | nil => exact absurd rfl hne
  | cons row rows ih =>
    have hrow := h row (by simp)
    cases rows with
    | nil =>
      simp only [List.map_cons, List.map_nil, List.intercalate_singleton]
      rw [read_line row [] hrow []]
      rfl
    | cons other rows =>
      have hrest := ih (by simp) fun r hr => h r (by simp [hr])
      rw [List.map_cons, List.map_cons, List.intercalate_cons_cons, List.append_assoc, List.append_assoc,
        ← List.map_cons, List.singleton_append, read_line row [] hrow, hrest]
      rfl

end TokenPilot.Library.Csv
