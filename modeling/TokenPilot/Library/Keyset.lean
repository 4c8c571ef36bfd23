/-
  TokenPilot.Library.Keyset — reading sorted rows in pages, where a page begins after the key of
  its cursor.

  A `Reading` is a paged query over fixed rows: a request takes the rows after the key that its
  cursor holds, as many as a page has, and gives a cursor while the rows that were read, which
  the cursor counts, are fewer than all. A row may not be presentable, and a cursor may not be
  accepted though a page gave it.

  - `follows_iff`: following the cursors reads all rows, once and in order, exactly when every
    row is presentable and the cursor at each end of a page but the last is accepted.
  - `follows_iff_of_agrees`: so do requests that agree with a reading on the cursors it gives.
-/

import Mathlib.Data.List.Basic
import Mathlib.Data.List.Pairwise
import Mathlib.Tactic.Common

namespace TokenPilot.Library

/-! ## Pages -/

structure Page (β γ : Type) where
  items : List β
  next : Option γ

section Follows

variable {β γ ε : Type} (request : Option γ → Except ε (Page β γ))

/-- What is read from a cursor on, when each next one is followed until there is none. -/
inductive Follows : Option γ → List β → Prop
  | last {c : Option γ} {page : Page β γ} : request c = .ok page → page.next = none → Follows c page.items
  | more {c : Option γ} {page : Page β γ} {next : γ} {rest : List β} : request c = .ok page → page.next = some next →
      Follows (some next) rest → Follows c (page.items ++ rest)

/-- The cursors that are asked for when each next one is followed. -/
inductive Asked : Option γ → Prop
  | first : Asked none
  | next {c : Option γ} {page : Page β γ} {next : γ} : Asked c → request c = .ok page → page.next = some next →
      Asked (some next)

variable {request}

theorem Follows.next {c : Option γ} {items : List β} {page : Page β γ} {next : γ} (h : Follows request c items)
    (hpage : request c = .ok page) (hnext : page.next = some next) : ∃ rest, Follows request (some next) rest := by
  cases h with
  | last hpage' hnext' =>
    rw [hpage] at hpage'
    cases hpage'
    rw [hnext] at hnext'
    cases hnext'
  | more hpage' hnext' hrest =>
    rw [hpage] at hpage'
    cases hpage'
    rw [hnext] at hnext'
    cases hnext'
    exact ⟨_, hrest⟩

theorem Follows.page {c : Option γ} {items : List β} (h : Follows request c items) : ∃ page, request c = .ok page := by
  cases h with
  | last hpage _ => exact ⟨_, hpage⟩
  | more hpage _ _ => exact ⟨_, hpage⟩

theorem Follows.asked {items : List β} (h : Follows request none items) {c : Option γ} (hc : Asked request c) :
    ∃ rest, Follows request c rest := by
  induction hc with
  | first => exact ⟨items, h⟩
  | next _ hpage hnext ih =>
    obtain ⟨rest, hrest⟩ := ih
    exact hrest.next hpage hnext

end Follows

/-! ## Sorted rows -/

/-- The rows after one of them, when `after` reads the order that they are sorted by. -/
theorem filter_after_sorted {α κ : Type} {key : α → κ} {after : κ → κ → Bool} {rows before rest : List α} {x : α}
    (hrows : rows = before ++ x :: rest) (hsorted : rows.Pairwise fun x y => after (key x) (key y) = true)
    (hirrefl : after (key x) (key x) = false)
    (hasymm : ∀ y, after (key y) (key x) = true → after (key x) (key y) = false) :
    rows.filter (fun y => after (key x) (key y)) = rest := by
  rw [hrows, List.pairwise_append, List.pairwise_cons] at hsorted
  obtain ⟨-, ⟨hrest, -⟩, hbefore⟩ := hsorted
  have hnone : before.filter (fun y => after (key x) (key y)) = [] := by
    rw [List.filter_eq_nil_iff]
    intro y hy
    rw [hasymm y (hbefore y hy x (by simp))]
    decide
  have hall : rest.filter (fun y => after (key x) (key y)) = rest := List.filter_eq_self.mpr hrest
  rw [hrows, List.filter_append, hnone, List.filter_cons, hirrefl, hall]
  rfl

/-! ## Readings -/

/-- The key after which a page begins, and how many rows stand before it. -/
abbrev Place (κ : Type) := κ × Nat

structure Reading (α β κ γ ε : Type) where
  rows : List α
  size : Nat
  key : α → κ
  after : κ → κ → Bool
  present : α → Except ε β
  encode : Place κ → γ
  decode : γ → Except ε (Place κ)

namespace Reading

variable {α β κ γ ε : Type}

def readCursor (r : Reading α β κ γ ε) : Option γ → Except ε (Option (Place κ))
  | none => .ok none
  | some c => (r.decode c).map some

/-- The rows of a page. -/
def taken (r : Reading α β κ γ ε) : Option (Place κ) → List α
  | none => r.rows.take r.size
  | some place => (r.rows.filter fun x => r.after place.1 (r.key x)).take r.size

def passed (place : Option (Place κ)) : Nat := place.elim 0 Prod.snd

/-- The cursor after rows, while others are left. -/
def cursor (r : Reading α β κ γ ε) (place : Option (Place κ)) (taken : List α) : Option γ :=
  taken.getLast?.bind fun x =>
    if passed place + taken.length < r.rows.length then some (r.encode (r.key x, passed place + taken.length)) else none

def request (r : Reading α β κ γ ε) (c : Option γ) : Except ε (Page β γ) := do
  let place ← r.readCursor c
  let items ← (r.taken place).mapM r.present
  return ⟨items, r.cursor place (r.taken place)⟩

/-- Keys in the order of the pages, each of them once; and the cursor of a row is read as nothing
    but the place it was written for. -/
structure Lawful (r : Reading α β κ γ ε) : Prop where
  size : 0 < r.size
  sorted : r.rows.Pairwise fun x y => r.after (r.key x) (r.key y) = true
  irrefl : ∀ k, r.after k k = false
  asymm : ∀ k l, r.after k l = true → r.after l k = false
  exact : ∀ x ∈ r.rows, ∀ n place, r.decode (r.encode (r.key x, n)) = .ok place → place = (r.key x, n)

variable {r : Reading α β κ γ ε}

theorem Lawful.filter_after (h : r.Lawful) {before rest : List α} {x : α} (hrows : r.rows = before ++ x :: rest) :
    r.rows.filter (fun y => r.after (r.key x) (r.key y)) = rest :=
  filter_after_sorted hrows h.sorted (h.irrefl _) fun _ hy => h.asymm _ _ hy

/-- A cursor that stands after the rows `before`. -/
inductive Stands (r : Reading α β κ γ ε) : Option γ → List α → Prop
  | start : Stands r none []
  | after (before : List α) (x : α) : Stands r (some (r.encode (r.key x, before.length + 1))) (before ++ [x])

/-- The cursor after a row is accepted. -/
def Accepted (r : Reading α β κ γ ε) (before : List α) (x : α) : Prop :=
  r.decode (r.encode (r.key x, before.length + 1)) = .ok (r.key x, before.length + 1)

/-- The place of a cursor that stands after `before`. -/
def standing (r : Reading α β κ γ ε) (before : List α) : Option (Place κ) :=
  before.getLast?.map fun x => (r.key x, before.length)

theorem passed_standing (before : List α) : passed (r.standing before) = before.length := by
  unfold passed standing
  cases hlast : before.getLast? with
  | none => rw [List.getLast?_eq_none_iff.mp hlast]; rfl
  | some x => rfl

theorem Lawful.taken_standing (h : r.Lawful) {before rest : List α} (hrows : r.rows = before ++ rest) :
    r.taken (r.standing before) = rest.take r.size := by
  rcases List.eq_nil_or_concat' before with rfl | ⟨before, x, rfl⟩
  · rw [List.nil_append] at hrows
    unfold standing taken
    rw [hrows]
    rfl
  · rw [List.append_assoc, List.singleton_append] at hrows
    unfold standing
    rw [List.getLast?_concat, Option.map_some]
    show (r.rows.filter fun y => r.after (r.key x) (r.key y)).take r.size = _
    rw [h.filter_after hrows]

theorem Lawful.readCursor_stands (h : r.Lawful) {c : Option γ} {before rest : List α} (hrows : r.rows = before ++ rest)
    (hc : r.Stands c before) {place : Option (Place κ)} (hplace : r.readCursor c = .ok place) :
    place = r.standing before := by
  cases hc with
  | start =>
    cases hplace
    rfl
  | after before x =>
    simp only [readCursor] at hplace
    cases hdecode : r.decode (r.encode (r.key x, before.length + 1)) with
    | error e =>
      rw [hdecode] at hplace
      cases hplace
    | ok place' =>
      rw [hdecode] at hplace
      cases hplace
      rw [h.exact x (by simp [hrows]) _ _ hdecode]
      unfold standing
      rw [List.getLast?_concat, List.length_append]
      rfl

/-- A request at a cursor that stands after `before` gives the next rows, and a cursor that
    stands after these while there are others. -/
theorem Lawful.request_ok (h : r.Lawful) {c : Option γ} {before rest : List α} (hrows : r.rows = before ++ rest)
    (hc : r.Stands c before) {page : Page β γ} (hpage : r.request c = .ok page) :
    (rest.take r.size).mapM r.present = .ok page.items ∧ page.next = r.cursor (r.standing before) (rest.take r.size) := by
  unfold request at hpage
  cases hplace : r.readCursor c with
  | error e =>
    rw [hplace] at hpage
    cases hpage
  | ok place =>
    rw [hplace] at hpage
    rw [h.readCursor_stands hrows hc hplace] at hpage
    simp only [bind, Except.bind, h.taken_standing hrows] at hpage
    cases hitems : (rest.take r.size).mapM r.present with
    | error e =>
      rw [hitems] at hpage
      cases hpage
    | ok items =>
      rw [hitems] at hpage
      cases hpage
      exact ⟨rfl, rfl⟩

/-- No cursor after the last page. -/
theorem cursor_last {before rest : List α} (hrows : r.rows = before ++ rest) (hrest : rest.length ≤ r.size) :
    r.cursor (r.standing before) (rest.take r.size) = none := by
  have hlength : ¬ before.length + rest.length < r.rows.length := by
    rw [hrows, List.length_append]
    omega
  unfold cursor
  rw [passed_standing, List.take_of_length_le hrest]
  simp only [if_neg hlength]
  cases rest.getLast? <;> rfl

/-- The cursor of a page that is not the last stands after its last row. -/
theorem cursor_more {before rest : List α} (hrows : r.rows = before ++ rest) (hsize : 0 < r.size) (hrest : r.size < rest.length) :
    ∃ mid x tail, rest = mid ++ x :: tail ∧ tail ≠ [] ∧ mid.length + 1 = r.size ∧ rest.take r.size = mid ++ [x] ∧
      rest.drop r.size = tail ∧
      r.cursor (r.standing before) (rest.take r.size) = some (r.encode (r.key x, (before ++ mid).length + 1)) := by
  obtain ⟨mid, x, htake⟩ : ∃ mid x, rest.take r.size = mid ++ [x] := by
    rcases List.eq_nil_or_concat' (rest.take r.size) with hnil | hlast
    · have := congrArg List.length hnil
      simp only [List.length_take, List.length_nil] at this
      omega
    · exact hlast
  have hlength : mid.length + 1 = r.size := by
    have := congrArg List.length htake
    simp only [List.length_take, List.length_append, List.length_singleton] at this
    omega
  have hsplit : rest = mid ++ x :: rest.drop r.size := by
    have := (List.take_append_drop r.size rest).symm
    rw [htake, List.append_assoc] at this
    exact this
  have htail : rest.drop r.size ≠ [] := by
    rw [Ne, List.drop_eq_nil_iff]
    omega
  have hfewer : before.length + (mid ++ [x]).length < r.rows.length := by
    rw [hrows, List.length_append, List.length_append, List.length_singleton]
    omega
  refine ⟨mid, x, rest.drop r.size, hsplit, htail, hlength, htake, rfl, ?_⟩
  unfold cursor
  rw [htake, List.getLast?_concat, Option.bind_some, passed_standing, if_pos hfewer, List.length_append, List.length_append,
    List.length_singleton, Nat.add_assoc]

/-- The cursors at the ends of the pages of `rest` are accepted, but for the last page. -/
def EndsAccepted (r : Reading α β κ γ ε) (before rest : List α) : Prop :=
  ∀ mid x tail, rest = mid ++ x :: tail → tail ≠ [] → r.size ∣ (before ++ mid).length + 1 → r.Accepted (before ++ mid) x

/-- In one page no end of a page has rows after it. -/
theorem endsAccepted_last {before rest : List α} (hbefore : r.size ∣ before.length) (hrest : rest.length ≤ r.size) :
    r.EndsAccepted before rest := by
  intro mid x tail hsplit htail hdvd
  exfalso
  rw [List.length_append, Nat.add_assoc] at hdvd
  have hle := Nat.le_of_dvd (Nat.succ_pos _) ((Nat.dvd_add_right hbefore).mp hdvd)
  have hpos := List.length_pos_iff.mpr htail
  have hlength := congrArg List.length hsplit
  rw [List.length_append, List.length_cons] at hlength
  omega

theorem endsAccepted_more {before rest mid tail : List α} {x : α} (hbefore : r.size ∣ before.length)
    (hsplit : rest = mid ++ x :: tail) (htail : tail ≠ []) (hlength : mid.length + 1 = r.size) :
    r.EndsAccepted before rest ↔ r.Accepted (before ++ mid) x ∧ r.EndsAccepted (before ++ mid ++ [x]) tail := by
  have hend : r.size ∣ (before ++ mid).length + 1 := by
    rw [List.length_append, Nat.add_assoc, hlength]
    exact (Nat.dvd_add_right hbefore).mpr (Nat.dvd_refl _)
  constructor
  · intro h
    refine ⟨h mid x tail hsplit htail hend, fun mid' y tail' hsplit' htail' hdvd => ?_⟩
    have := h (mid ++ [x] ++ mid') y tail' (by rw [hsplit, hsplit']; simp) htail'
    simp only [List.append_assoc] at this hdvd ⊢
    exact this hdvd
  · rintro ⟨haccepted, hends⟩ mid' y tail' hsplit' htail' hdvd
    rw [hsplit] at hsplit'
    rcases Nat.lt_trichotomy mid'.length mid.length with hlt | heq | hgt
    -- an end of a page before the first one
    · exfalso
      rw [List.length_append, Nat.add_assoc] at hdvd
      have hle := Nat.le_of_dvd (Nat.succ_pos _) ((Nat.dvd_add_right hbefore).mp hdvd)
      omega
    · obtain ⟨rfl, hcons⟩ := List.append_inj hsplit' heq.symm
      obtain ⟨rfl, -⟩ := List.cons.inj hcons
      exact haccepted
    · obtain ⟨mid'', hmid⟩ : ∃ mid'', mid' = mid ++ [x] ++ mid'' := by
        have hprefix : (mid ++ [x]) <+: mid' := by
          apply @List.prefix_of_prefix_length_le _ _ _ (mid ++ x :: tail)
          · exact ⟨tail, by simp⟩
          · exact ⟨y :: tail', hsplit'.symm⟩
          · rw [List.length_append, List.length_singleton]
            omega
        obtain ⟨mid'', hmid⟩ := hprefix
        exact ⟨mid'', hmid.symm⟩
      subst hmid
      have htails : tail = mid'' ++ y :: tail' := by simpa using hsplit'
      have := hends mid'' y tail' htails htail'
      simp only [List.append_assoc] at this hdvd ⊢
      exact this hdvd

theorem mapM_append_ok {f : α → Except ε β} {l m : List α} {items : List β} :
    (l ++ m).mapM f = .ok items ↔ ∃ first rest, l.mapM f = .ok first ∧ m.mapM f = .ok rest ∧ items = first ++ rest := by
  rw [List.mapM_append]
  cases l.mapM f with
  | error e => simp [bind, Except.bind]
  | ok first =>
    cases m.mapM f with
    | error e => simp [bind, Except.bind]
    | ok rest =>
      simp only [bind, Except.bind, pure, Except.pure, Except.ok.injEq, exists_and_left, exists_eq_left', eq_comm]

/-- What is asked for with a cursor that is answered was read. -/
theorem request_decodes {c : γ} {page : Page β γ} (hpage : r.request (some c) = .ok page) :
    ∃ place, r.decode c = .ok place := by
  unfold request at hpage
  simp only [readCursor] at hpage
  cases hdecode : r.decode c with
  | error e =>
    rw [hdecode] at hpage
    cases hpage
  | ok place => exact ⟨place, rfl⟩

theorem Lawful.accepted_of_page (h : r.Lawful) {before : List α} {x : α} (hx : x ∈ r.rows) {page : Page β γ}
    (hpage : r.request (some (r.encode (r.key x, before.length + 1))) = .ok page) : r.Accepted before x := by
  obtain ⟨place, hdecode⟩ := request_decodes hpage
  unfold Accepted
  rw [hdecode, h.exact x hx _ _ hdecode]

/-- Following from a cursor reads the rows after it, and each cursor on the way is accepted. -/
theorem Lawful.follows_ok (h : r.Lawful) {c : Option γ} {items : List β} (hfollows : Follows r.request c items)
    {before rest : List α} (hrows : r.rows = before ++ rest) (hc : r.Stands c before) (hbefore : r.size ∣ before.length) :
    rest.mapM r.present = .ok items ∧ r.EndsAccepted before rest := by
  induction hfollows generalizing before rest with
  | last hpage hnext =>
    obtain ⟨hitems, hcursor⟩ := h.request_ok hrows hc hpage
    have hlast : rest.length ≤ r.size := by
      by_contra hmore
      obtain ⟨mid, x, tail, -, -, -, -, -, hsome⟩ := cursor_more hrows h.size (Nat.lt_of_not_le hmore)
      rw [hcursor, hsome] at hnext
      cases hnext
    rw [List.take_of_length_le hlast] at hitems
    exact ⟨hitems, endsAccepted_last hbefore hlast⟩
  | more hpage hnext hfollows ih =>
    obtain ⟨hitems, hcursor⟩ := h.request_ok hrows hc hpage
    have hmore : r.size < rest.length := by
      by_contra hlast
      rw [hcursor, cursor_last hrows (Nat.le_of_not_lt hlast)] at hnext
      cases hnext
    obtain ⟨mid, x, tail, hsplit, htail, hlength, htake, -, hsome⟩ := cursor_more hrows h.size hmore
    rw [hcursor, hsome] at hnext
    cases hnext
    have hrows' : r.rows = before ++ mid ++ [x] ++ tail := by
      rw [hrows, hsplit]
      simp
    have hdvd : r.size ∣ (before ++ mid ++ [x]).length := by
      rw [List.append_assoc, List.length_append, List.length_append, List.length_singleton, hlength]
      exact (Nat.dvd_add_right hbefore).mpr (Nat.dvd_refl _)
    obtain ⟨hrest, hends⟩ := ih hrows' (.after _ _) hdvd
    obtain ⟨page', hpage'⟩ := hfollows.page
    refine ⟨?_, (endsAccepted_more hbefore hsplit htail hlength).mpr ⟨h.accepted_of_page (by simp [hrows']) hpage', hends⟩⟩
    rw [htake] at hitems
    have hwhole : rest = (mid ++ [x]) ++ tail := by
      rw [hsplit]
      simp
    rw [hwhole]
    exact mapM_append_ok.mpr ⟨_, _, hitems, hrest, rfl⟩

/-- From a cursor that is accepted, rows that are presentable are read, if each cursor on the
    way is accepted. -/
theorem Lawful.follows_of (h : r.Lawful) {rest : List α} {c : Option γ} {before : List α} {items : List β}
    (hrows : r.rows = before ++ rest) (hc : r.readCursor c = .ok (r.standing before)) (hbefore : r.size ∣ before.length)
    (hitems : rest.mapM r.present = .ok items) (hends : r.EndsAccepted before rest) : Follows r.request c items := by
  have hrequest {first : List β} (hfirst : (rest.take r.size).mapM r.present = .ok first) :
      r.request c = .ok ⟨first, r.cursor (r.standing before) (rest.take r.size)⟩ := by
    unfold request
    rw [hc]
    simp only [bind, Except.bind, h.taken_standing hrows, hfirst]
    rfl
  by_cases hlast : rest.length ≤ r.size
  · have hall : (rest.take r.size).mapM r.present = .ok items := by
      rw [List.take_of_length_le hlast]
      exact hitems
    exact .last (hrequest hall) (cursor_last hrows hlast)
  · obtain ⟨mid, x, tail, hsplit, htail, hlength, htake, hdrop, hsome⟩ := cursor_more hrows h.size (Nat.lt_of_not_le hlast)
    obtain ⟨haccepted, htails⟩ := (endsAccepted_more hbefore hsplit htail hlength).mp hends
    have hwhole : rest = (mid ++ [x]) ++ tail := by
      rw [hsplit]
      simp
    rw [hwhole] at hitems
    obtain ⟨first, others, hfirst, hothers, rfl⟩ := mapM_append_ok.mp hitems
    rw [← htake] at hfirst
    have hrows' : r.rows = before ++ mid ++ [x] ++ tail := by
      rw [hrows, hsplit]
      simp
    have hdvd : r.size ∣ (before ++ mid ++ [x]).length := by
      rw [List.append_assoc, List.length_append, List.length_append, List.length_singleton, hlength]
      exact (Nat.dvd_add_right hbefore).mpr (Nat.dvd_refl _)
    have hcursor : r.readCursor (some (r.encode (r.key x, (before ++ mid).length + 1))) =
        .ok (r.standing (before ++ mid ++ [x])) := by
      simp only [readCursor]
      rw [haccepted]
      unfold standing
      rw [List.getLast?_concat, @List.length_append _ (before ++ mid)]
      rfl
    have hshorter : tail.length < rest.length := by
      rw [hwhole, List.length_append, List.length_append, List.length_singleton]
      omega
    exact .more (hrequest hfirst) hsome (h.follows_of hrows' hcursor hdvd hothers htails)
termination_by rest.length

theorem Lawful.follows_iff (h : r.Lawful) (items : List β) :
    Follows r.request none items ↔ r.rows.mapM r.present = .ok items ∧ r.EndsAccepted [] r.rows := by
  constructor
  · intro hfollows
    exact h.follows_ok hfollows rfl .start (Nat.dvd_zero _)
  · rintro ⟨hitems, hends⟩
    exact h.follows_of rfl rfl (Nat.dvd_zero _) hitems hends

/-! ## Requests that agree -/

/-- No cursor, or one that was written for a row. -/
def Written (r : Reading α β κ γ ε) (c : Option γ) : Prop :=
  ∀ text, c = some text → ∃ x ∈ r.rows, ∃ n, text = r.encode (r.key x, n)

theorem written_none : r.Written none := fun _ h => nomatch h

theorem taken_mem {place : Option (Place κ)} {x : α} (h : x ∈ r.taken place) : x ∈ r.rows := by
  cases place with
  | none => exact List.mem_of_mem_take h
  | some place => exact List.mem_of_mem_filter (List.mem_of_mem_take h)

theorem written_next {c : Option γ} {page : Page β γ} {next : γ} (hpage : r.request c = .ok page)
    (hnext : page.next = some next) : r.Written (some next) := by
  rintro text ⟨rfl⟩
  unfold request at hpage
  cases hplace : r.readCursor c with
  | error e =>
    rw [hplace] at hpage
    cases hpage
  | ok place =>
    rw [hplace] at hpage
    simp only [bind, Except.bind] at hpage
    cases hitems : (r.taken place).mapM r.present with
    | error e =>
      rw [hitems] at hpage
      cases hpage
    | ok items =>
      rw [hitems] at hpage
      cases hpage
      unfold cursor at hnext
      obtain ⟨x, hlast, hx⟩ := Option.bind_eq_some_iff.mp hnext
      exact ⟨x, taken_mem (List.mem_of_getLast? hlast), _, (Option.some.inj (Option.ite_none_right_eq_some.mp hx).2).symm⟩

def Agrees (r : Reading α β κ γ ε) (request : Option γ → Except ε (Page β γ)) : Prop :=
  ∀ c, r.Written c → request c = r.request c

theorem Agrees.follows {request : Option γ → Except ε (Page β γ)} (h : r.Agrees request) {c : Option γ} (hc : r.Written c)
    {items : List β} : Follows request c items ↔ Follows r.request c items := by
  constructor
  · intro hfollows
    induction hfollows with
    | last hpage hnext => exact .last (h _ hc ▸ hpage) hnext
    | more hpage hnext _ ih =>
      rw [h _ hc] at hpage
      exact .more hpage hnext (ih (written_next hpage hnext))
  · intro hfollows
    induction hfollows with
    | last hpage hnext => exact .last ((h _ hc).trans hpage) hnext
    | more hpage hnext _ ih => exact .more ((h _ hc).trans hpage) hnext (ih (written_next hpage hnext))

theorem Lawful.follows_iff_of_agrees (h : r.Lawful) {request : Option γ → Except ε (Page β γ)} (hrequest : r.Agrees request)
    (items : List β) : Follows request none items ↔ r.rows.mapM r.present = .ok items ∧ r.EndsAccepted [] r.rows :=
  (hrequest.follows written_none).trans (h.follows_iff items)

theorem Agrees.asked {request : Option γ → Except ε (Page β γ)} (h : r.Agrees request) {c : Option γ}
    (hc : Asked request c) : r.Written c := by
  induction hc with
  | first => exact written_none
  | next _ hpage hnext ih => exact written_next ((h _ ih).symm.trans hpage) hnext

end Reading

end TokenPilot.Library
