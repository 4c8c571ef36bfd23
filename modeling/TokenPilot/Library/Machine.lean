/-
  TokenPilot.Library.Machine — transactions run one after another.

  A machine's `exec` is one call: it returns an output and the next state, or fails.
  A call that fails is rolled back (`step` keeps the state). `run` is a list of calls.
  `Guarded ok` says of a run that every call meets `ok` in the state it is made in.

  The rules: an invariant that every call keeps holds after any run
  (`run_invariant`); one that every call meeting `ok` keeps holds after any guarded
  run (`guarded_invariant`), and so does a property each such call has in the state
  it is made in (`guarded_calls`). What every call keeps once it is there changes at
  most once in a run (`changes_le_one`). `bind_ok` and `bind_error` take a sequence of
  fallible statements apart, `bind_of` and `bind_throws` put one together.
-/

namespace TokenPilot.Library

theorem bind_ok {ε α β : Type} {x : Except ε α} {f : α → Except ε β} {b : β} (h : (x >>= f) = .ok b) :
    ∃ a, x = .ok a ∧ f a = .ok b := by
  cases x with
  | error e => cases h
  | ok a => exact ⟨a, rfl, h⟩

theorem bind_error {ε α β : Type} {x : Except ε α} {f : α → Except ε β} {e : ε} (h : (x >>= f) = .error e) :
    x = .error e ∨ ∃ a, x = .ok a ∧ f a = .error e := by
  cases x with
  | error e' => cases h; exact Or.inl rfl
  | ok a => exact Or.inr ⟨a, rfl, h⟩

theorem bind_of {ε α β : Type} {x : Except ε α} {f : α → Except ε β} {a : α} {y : Except ε β} (h : x = .ok a)
    (hf : f a = y) : (x >>= f) = y := by
  rw [h]
  exact hf

theorem bind_throws {ε α β : Type} {x : Except ε α} {f : α → Except ε β} {e : ε} (h : x = .error e) :
    (x >>= f) = .error e := by
  rw [h]
  rfl

/-- Each result of a list of fallible calls is that of one of them. -/
theorem mapM_mem {ε α β : Type} {f : α → Except ε β} {l : List α} {l' : List β} (h : l.mapM f = .ok l') {b : β}
    (hb : b ∈ l') : ∃ a ∈ l, f a = .ok b := by
  induction l generalizing l' with
  | nil => cases h; cases hb
  | cons x l ih =>
    rw [List.mapM_cons] at h
    obtain ⟨y, hy, h⟩ := bind_ok h
    obtain ⟨ys, hys, h⟩ := bind_ok h
    cases h
    rcases List.mem_cons.mp hb with rfl | hb
    · exact ⟨x, List.mem_cons_self, hy⟩
    · obtain ⟨a, ha, hf⟩ := ih hys hb
      exact ⟨a, List.mem_cons_of_mem _ ha, hf⟩

/-- What the results have of the arguments, they have in the same order. -/
theorem mapM_map {ε α β γ : Type} {f : α → Except ε β} {k : α → γ} {g : β → γ} {l : List α} {l' : List β}
    (h : l.mapM f = .ok l') (hg : ∀ a b, f a = .ok b → g b = k a) : l'.map g = l.map k := by
  induction l generalizing l' with
  | nil => cases h; rfl
  | cons x l ih =>
    rw [List.mapM_cons] at h
    obtain ⟨y, hy, h⟩ := bind_ok h
    obtain ⟨ys, hys, h⟩ := bind_ok h
    cases h
    rw [List.map_cons, List.map_cons, hg x y hy, ih hys]

/-- Each call has its result among them. -/
theorem mapM_result {ε α β : Type} {f : α → Except ε β} {l : List α} {l' : List β} (h : l.mapM f = .ok l') {a : α}
    (ha : a ∈ l) : ∃ b ∈ l', f a = .ok b := by
  induction l generalizing l' with
  | nil => cases ha
  | cons x l ih =>
    rw [List.mapM_cons] at h
    obtain ⟨y, hy, h⟩ := bind_ok h
    obtain ⟨ys, hys, h⟩ := bind_ok h
    cases h
    rcases List.mem_cons.mp ha with rfl | ha
    · exact ⟨y, List.mem_cons_self, hy⟩
    · obtain ⟨b, hb, hf⟩ := ih hys ha
      exact ⟨b, List.mem_cons_of_mem _ hb, hf⟩

/-- A list of fallible calls throws only what one of them throws. -/
theorem mapM_throws {ε α β : Type} {f : α → Except ε β} {l : List α} {e : ε} (h : l.mapM f = .error e) :
    ∃ a ∈ l, f a = .error e := by
  induction l with
  | nil => cases h
  | cons x l ih =>
    rw [List.mapM_cons] at h
    rcases bind_error h with h | ⟨y, -, h⟩
    · exact ⟨x, List.mem_cons_self, h⟩
    · rcases bind_error h with h | ⟨ys, -, h⟩
      · obtain ⟨a, ha, hf⟩ := ih h
        exact ⟨a, List.mem_cons_of_mem _ ha, hf⟩
      · cases h

structure Machine (σ ι ο ε : Type) where
  exec : σ → ι → Except ε (ο × σ)

namespace Machine

variable {σ ι ο ε : Type} (m : Machine σ ι ο ε)

def step (s : σ) (i : ι) : σ :=
  match m.exec s i with
  | .ok (_, s') => s'
  | .error _ => s

def run (s : σ) (is : List ι) : σ := is.foldl m.step s

def Guarded (ok : σ → ι → Prop) : σ → List ι → Prop
  | _, [] => True
  | s, i :: is => ok s i ∧ Guarded ok (m.step s i) is

instance Guarded.decidable (ok : σ → ι → Prop) [∀ s i, Decidable (ok s i)] :
    ∀ (s : σ) (is : List ι), Decidable (m.Guarded ok s is)
  | _, [] => isTrue trivial
  | s, i :: is =>
    have := Guarded.decidable ok (m.step s i) is
    inferInstanceAs (Decidable (ok s i ∧ m.Guarded ok (m.step s i) is))

@[simp] theorem run_nil (s : σ) : m.run s [] = s := rfl
@[simp] theorem run_cons (s : σ) (i : ι) (is : List ι) : m.run s (i :: is) = m.run (m.step s i) is := rfl

theorem run_append (s : σ) (is js : List ι) : m.run s (is ++ js) = m.run (m.run s is) js := List.foldl_append

theorem step_of_ok {s s' : σ} {i : ι} {o : ο} (h : m.exec s i = .ok (o, s')) : m.step s i = s' := by
  simp only [step, h]

theorem step_of_error {s : σ} {i : ι} {e : ε} (h : m.exec s i = .error e) : m.step s i = s := by
  simp only [step, h]

/-- What a step can be: a call that went through, or no change. -/
theorem step_cases (s : σ) (i : ι) : (∃ o, m.exec s i = .ok (o, m.step s i)) ∨ m.step s i = s := by
  cases h : m.exec s i with
  | error e => exact Or.inr (m.step_of_error h)
  | ok r => exact Or.inl ⟨r.1, by rw [m.step_of_ok h]⟩

variable {m}

theorem guarded_append {ok : σ → ι → Prop} {s : σ} {is js : List ι} :
    m.Guarded ok s (is ++ js) ↔ m.Guarded ok s is ∧ m.Guarded ok (m.run s is) js := by
  induction is generalizing s with
  | nil => exact ⟨fun h => ⟨trivial, h⟩, fun h => h.2⟩
  | cons i is ih =>
    rw [List.cons_append, run_cons]
    constructor
    · rintro ⟨hi, h⟩
      obtain ⟨his, hjs⟩ := ih.mp h
      exact ⟨⟨hi, his⟩, hjs⟩
    · rintro ⟨⟨hi, his⟩, hjs⟩
      exact ⟨hi, ih.mpr ⟨his, hjs⟩⟩

theorem guarded_invariant {P : σ → Prop} {ok : σ → ι → Prop}
    (hP : ∀ s i o s', P s → ok s i → m.exec s i = .ok (o, s') → P s') :
    ∀ (is : List ι) (s : σ), P s → m.Guarded ok s is → P (m.run s is) := by
  intro is
  induction is with
  | nil => intro s hs _; exact hs
  | cons i is ih =>
    intro s hs hg
    refine ih _ ?_ hg.2
    rcases m.step_cases s i with ⟨o, h⟩ | h
    · exact hP s i o _ hs hg.1 h
    · rw [h]; exact hs

theorem run_invariant {P : σ → Prop} (hP : ∀ s i o s', P s → m.exec s i = .ok (o, s') → P s')
    (is : List ι) (s : σ) (hs : P s) : P (m.run s is) := by
  induction is generalizing s with
  | nil => exact hs
  | cons i is ih =>
    refine ih _ ?_
    rcases m.step_cases s i with ⟨o, h⟩ | h
    · exact hP s i o _ hs h
    · rw [h]; exact hs

/-- In a guarded run, each call is made in a state the invariant holds in. -/
theorem guarded_calls {P : σ → Prop} {ok : σ → ι → Prop} {Q : σ → ι → Prop}
    (hP : ∀ s i o s', P s → ok s i → m.exec s i = .ok (o, s') → P s') (hQ : ∀ s i, P s → ok s i → Q s i) :
    ∀ (is : List ι) (s : σ), P s → m.Guarded ok s is → m.Guarded Q s is := by
  intro is
  induction is with
  | nil => intro s _ _; trivial
  | cons i is ih =>
    intro s hs hg
    refine ⟨hQ s i hs hg.1, ih _ ?_ hg.2⟩
    rcases m.step_cases s i with ⟨o, h⟩ | h
    · exact hP s i o _ hs hg.1 h
    · rw [h]; exact hs

/-! ## What is seen of a run -/

variable (m) in
/-- How many calls of a run change what `look` sees. -/
def changes {α : Type} [DecidableEq α] (look : σ → α) : σ → List ι → Nat
  | _, [] => 0
  | s, i :: is => (if look (m.step s i) = look s then 0 else 1) + changes look (m.step s i) is

/-- What every call keeps once it is there changes at most once. -/
theorem changes_le_one {α : Type} [DecidableEq α] {look : σ → Option α}
    (h : ∀ s i a, look s = some a → look (m.step s i) = some a) (is : List ι) (s : σ) : m.changes look s is ≤ 1 := by
  have hkept : ∀ (is : List ι) (s : σ) (a : α), look s = some a → m.changes look s is = 0 := by
    intro is
    induction is with
    | nil => intro s a _; rfl
    | cons i is ih =>
      intro s a hs
      have hstep := h s i a hs
      show (if look (m.step s i) = look s then 0 else 1) + m.changes look (m.step s i) is = 0
      rw [ih _ a hstep, hstep, hs, if_pos rfl]
  induction is generalizing s with
  | nil => exact Nat.zero_le 1
  | cons i is ih =>
    show (if look (m.step s i) = look s then 0 else 1) + m.changes look (m.step s i) is ≤ 1
    by_cases hsame : look (m.step s i) = look s
    · have := ih (m.step s i)
      rw [if_pos hsame]
      omega
    · rw [if_neg hsame]
      cases hnext : look (m.step s i) with
      | some a =>
        have := hkept is _ a hnext
        omega
      | none =>
        -- what was there would still be there
        cases hnow : look s with
        | none => exact absurd (hnext.trans hnow.symm) hsame
        | some a => rw [h s i a hnow] at hnext; cases hnext

end Machine

/-! ## Calls that may be lost -/

/-- How a call to a database ends: it may fail before its effect or after it. -/
inductive Reply where
  | done
  | failed (message : String) (effect : Bool)
  deriving DecidableEq, Repr

def Reply.takesEffect : Reply → Bool
  | .done => true
  | .failed _ effect => effect

/-! ## Parties under their numbers -/

section

variable {α : Type} {l : List α} {i j : Nat} {a b : α}

theorem getElem?_snoc_cases (h : (l ++ [b])[i]? = some a) : l[i]? = some a ∨ a = b := by
  rcases Nat.lt_or_ge i l.length with hlt | hge
  · rw [List.getElem?_append_left hlt] at h
    exact .inl h
  · rw [List.getElem?_append_right hge] at h
    exact .inr (by simpa using List.mem_of_getElem? h)

theorem getElem?_set_cases (h : (l.set i b)[j]? = some a) : (j = i ∧ a = b) ∨ (j ≠ i ∧ l[j]? = some a) := by
  by_cases heq : i = j
  · subst heq
    rw [List.getElem?_set_self'] at h
    cases hl : l[i]? with
    | none => simp [hl] at h
    | some c =>
      simp [hl] at h
      exact .inl ⟨rfl, h.symm⟩
  · rw [List.getElem?_set_ne heq] at h
    exact .inr ⟨fun h => heq h.symm, h⟩

theorem getElem?_set_of (h : l[i]? = some a) : (l.set i b)[i]? = some b :=
  List.getElem?_set_self (List.getElem?_eq_some_iff.mp h).1

end

end TokenPilot.Library
