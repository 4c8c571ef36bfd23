/-
  TokenPilot.Library.Json — JSON values and their canonical texts.

  A value is generic in its strings and its numbers; `text` writes a number, and what a
  text of a number may hold is `Numeric`. `render` writes a value without blanks, its
  strings quoted, and its fields in their order. `sorted` puts the fields of every object
  in the order of a ranking of the keys, and the canonical text is the rendering of the
  sorted value.

  `render_inj`: two texts that go on alike are those of values that differ at most in how
  their numbers are written, so a rendering is injective in what the texts of the numbers
  are. `sorted_eq_iff`: two values with distinct keys sort to the same value exactly when
  one is the other with fields reordered (`KeyOrder`).
-/

import Mathlib.Data.List.Sort
import Mathlib.Order.Lex
import Mathlib.Data.List.Lex
import TokenPilot.Library.Utf16

namespace TokenPilot.Library

inductive Json (σ ν : Type) where
  | null
  | bool (b : Bool)
  | num (n : ν)
  | str (s : σ)
  | arr (items : List (Json σ ν))
  | obj (fields : List (σ × Json σ ν))

namespace Json

variable {σ ν μ : Type}

/-- Induction with the items and the values of the fields as hypotheses. -/
@[elab_as_elim]
theorem induction {P : Json σ ν → Prop} (null : P .null) (bool : ∀ b, P (.bool b)) (num : ∀ n, P (.num n))
    (str : ∀ s, P (.str s)) (arr : ∀ items, (∀ a ∈ items, P a) → P (.arr items))
    (obj : ∀ fields, (∀ f ∈ fields, P f.2) → P (.obj fields)) (a : Json σ ν) : P a := by
  refine @Json.rec σ ν P (fun l => ∀ a ∈ l, P a) (fun l => ∀ f ∈ l, P f.2) (fun f => P f.2) null bool num str arr obj
    ?_ ?_ ?_ ?_ ?_ a
  · simp
  · intro head tail hhead htail a ha
    rcases List.mem_cons.mp ha with rfl | ha
    · exact hhead
    · exact htail a ha
  · simp
  · intro head tail hhead htail f hf
    rcases List.mem_cons.mp hf with rfl | hf
    · exact hhead
    · exact htail f hf
  · intro k v hv
    exact hv

/-! ## Rendering -/

section Rendering

variable [Text σ]

mutual

def render (text : ν → List Char) : Json σ ν → List Char
  | .null => "null".toList
  | .bool b => if b then "true".toList else "false".toList
  | .num n => text n
  | .str s => quote s
  | .arr items => '[' :: [','].intercalate (renderItems text items) ++ [']']
  | .obj fields => '{' :: [','].intercalate (renderFields text fields) ++ ['}']

def renderItems (text : ν → List Char) : List (Json σ ν) → List (List Char)
  | [] => []
  | a :: rest => render text a :: renderItems text rest

def renderFields (text : ν → List Char) : List (σ × Json σ ν) → List (List Char)
  | [] => []
  | (k, a) :: rest => (quote k ++ ':' :: render text a) :: renderFields text rest

end

theorem renderItems_eq (text : ν → List Char) (items : List (Json σ ν)) :
    renderItems text items = items.map (render text) := by
  induction items with
  | nil => rfl
  | cons a rest ih => rw [renderItems, ih, List.map_cons]

theorem renderFields_eq (text : ν → List Char) (fields : List (σ × Json σ ν)) :
    renderFields text fields = fields.map fun f => quote f.1 ++ ':' :: render text f.2 := by
  induction fields with
  | nil => rfl
  | cons f rest ih => rw [renderFields, ih, List.map_cons]

end Rendering

mutual

def map (f : ν → μ) : Json σ ν → Json σ μ
  | .null => .null
  | .bool b => .bool b
  | .num n => .num (f n)
  | .str s => .str s
  | .arr items => .arr (mapItems f items)
  | .obj fields => .obj (mapFields f fields)

def mapItems (f : ν → μ) : List (Json σ ν) → List (Json σ μ)
  | [] => []
  | a :: rest => map f a :: mapItems f rest

def mapFields (f : ν → μ) : List (σ × Json σ ν) → List (σ × Json σ μ)
  | [] => []
  | (k, a) :: rest => (k, map f a) :: mapFields f rest

end

theorem mapItems_eq (f : ν → μ) (items : List (Json σ ν)) : mapItems f items = items.map (map f) := by
  induction items with
  | nil => rfl
  | cons a rest ih => rw [mapItems, ih, List.map_cons]

theorem mapFields_eq (f : ν → μ) (fields : List (σ × Json σ ν)) :
    mapFields f fields = fields.map fun field => (field.1, map f field.2) := by
  induction fields with
  | nil => rfl
  | cons field rest ih => rw [mapFields, ih, List.map_cons]

theorem map_injective {f : ν → μ} (hf : Function.Injective f) : Function.Injective (map (σ := σ) f) := by
  intro a
  induction a using Json.induction with
  | null => intro b h; cases b <;> simp_all [map]
  | bool x => intro b h; cases b <;> simp_all [map]
  | num n =>
    intro b h
    cases b <;> simp only [map, reduceCtorEq, num.injEq] at h
    rw [hf h]
  | str s => intro b h; cases b <;> simp_all [map]
  | arr items ih =>
    intro b h
    cases b with
    | arr others =>
      simp only [map, mapItems_eq, arr.injEq] at h ⊢
      induction items generalizing others with
      | nil => cases others with
        | nil => rfl
        | cons => cases h
      | cons a rest ihrest =>
        cases others with
        | nil => cases h
        | cons b others =>
          simp only [List.map_cons, List.cons.injEq] at h
          rw [ih a (by simp) h.1, ihrest (fun c hc => ih c (by simp [hc])) others h.2]
    | _ => simp [map] at h
  | obj fields ih =>
    intro b h
    cases b with
    | obj others =>
      simp only [map, mapFields_eq, obj.injEq] at h ⊢
      induction fields generalizing others with
      | nil => cases others with
        | nil => rfl
        | cons => cases h
      | cons a rest ihrest =>
        cases others with
        | nil => cases h
        | cons b others =>
          simp only [List.map_cons, List.cons.injEq, Prod.mk.injEq] at h
          rw [Prod.ext h.1.1 (ih a (by simp) h.1.2), ihrest (fun c hc => ih c (by simp [hc])) others h.2]
    | _ => simp [map] at h

/-! ## Order of the keys -/

mutual

/-- The fields of every object by the rank of their keys. -/
def sorted (rank : σ → List Nat) : Json σ ν → Json σ ν
  | .arr items => .arr (sortedItems rank items)
  | .obj fields => .obj ((sortedFields rank fields).insertionSort fun a b => rank a.1 ≤ rank b.1)
  | a => a

def sortedItems (rank : σ → List Nat) : List (Json σ ν) → List (Json σ ν)
  | [] => []
  | a :: rest => sorted rank a :: sortedItems rank rest

def sortedFields (rank : σ → List Nat) : List (σ × Json σ ν) → List (σ × Json σ ν)
  | [] => []
  | (k, a) :: rest => (k, sorted rank a) :: sortedFields rank rest

end

theorem sortedItems_eq (rank : σ → List Nat) (items : List (Json σ ν)) :
    sortedItems rank items = items.map (sorted rank) := by
  induction items with
  | nil => rfl
  | cons a rest ih => rw [sortedItems, ih, List.map_cons]

theorem sortedFields_eq (rank : σ → List Nat) (fields : List (σ × Json σ ν)) :
    sortedFields rank fields = fields.map fun f => (f.1, sorted rank f.2) := by
  induction fields with
  | nil => rfl
  | cons f rest ih => rw [sortedFields, ih, List.map_cons]

def canonical [Text σ] (text : ν → List Char) (rank : σ → List Nat) (a : Json σ ν) : List Char :=
  render text (sorted rank a)

mutual

def mapStrings {τ : Type} (f : σ → τ) : Json σ ν → Json τ ν
  | .null => .null
  | .bool b => .bool b
  | .num n => .num n
  | .str s => .str (f s)
  | .arr items => .arr (mapStringsItems f items)
  | .obj fields => .obj (mapStringsFields f fields)

def mapStringsItems {τ : Type} (f : σ → τ) : List (Json σ ν) → List (Json τ ν)
  | [] => []
  | a :: rest => mapStrings f a :: mapStringsItems f rest

def mapStringsFields {τ : Type} (f : σ → τ) : List (σ × Json σ ν) → List (τ × Json τ ν)
  | [] => []
  | (k, a) :: rest => (f k, mapStrings f a) :: mapStringsFields f rest

end

section Strings

variable {τ : Type} {f : σ → τ}

theorem mapStringsItems_eq (items : List (Json σ ν)) : mapStringsItems f items = items.map (mapStrings f) := by
  induction items with
  | nil => rfl
  | cons a rest ih => rw [mapStringsItems, ih, List.map_cons]

theorem mapStringsFields_eq (fields : List (σ × Json σ ν)) :
    mapStringsFields f fields = fields.map fun field => (f field.1, mapStrings f field.2) := by
  induction fields with
  | nil => rfl
  | cons field rest ih => rw [mapStringsFields, ih, List.map_cons]

theorem render_mapStrings [Text σ] [Text τ] (hf : ∀ s, Text.points (f s) = Text.points s) (text : ν → List Char)
    (a : Json σ ν) : render text (mapStrings f a) = render text a := by
  have hquote : ∀ s, quote (f s) = quote s := by
    intro s
    unfold quote
    rw [hf]
  induction a using Json.induction with
  | null => rfl
  | bool b => rfl
  | num n => rfl
  | str s => exact hquote s
  | arr items ih =>
    have hitems : items.map (render text ∘ mapStrings f) = items.map (render text) :=
      List.map_congr_left fun a ha => ih a ha
    simp only [mapStrings, render, mapStringsItems_eq, renderItems_eq, List.map_map, hitems]
  | obj fields ih =>
    have hfields : (fields.map fun field => quote (f field.1) ++ ':' :: render text (mapStrings f field.2)) =
        fields.map fun field => quote field.1 ++ ':' :: render text field.2 :=
      List.map_congr_left fun field hfield => by rw [hquote, ih field hfield]
    simp only [mapStrings, render, mapStringsFields_eq, renderFields_eq, List.map_map, Function.comp_def, hfields]

theorem sorted_mapStrings {rank : σ → List Nat} {rank' : τ → List Nat} (hf : ∀ s, rank' (f s) = rank s) (a : Json σ ν) :
    sorted rank' (mapStrings f a) = mapStrings f (sorted rank a) := by
  induction a using Json.induction with
  | null => rfl
  | bool b => rfl
  | num n => rfl
  | str s => rfl
  | arr items ih =>
    have hitems : items.map (sorted rank' ∘ mapStrings f) = items.map (mapStrings f ∘ sorted rank) :=
      List.map_congr_left fun a ha => ih a ha
    simp only [mapStrings, sorted, mapStringsItems_eq, sortedItems_eq, List.map_map, hitems]
  | obj fields ih =>
    have hfields : (fields.map fun field => (f field.1, sorted rank' (mapStrings f field.2))) =
        fields.map fun field => (f field.1, mapStrings f (sorted rank field.2)) :=
      List.map_congr_left fun field hfield => by rw [ih field hfield]
    simp only [mapStrings, sorted, mapStringsFields_eq, sortedFields_eq, List.map_map, Function.comp_def, hfields]
    rw [List.map_insertionSort _ (fun a b : τ × Json τ ν => rank' a.1 ≤ rank' b.1) _ _
      (fun a _ b _ => by rw [hf, hf]), List.map_map]
    rfl

/-- The canonical text depends on the code points of the strings only. -/
theorem canonical_mapStrings [Text σ] [Text τ] (hf : ∀ s, Text.points (f s) = Text.points s) (text : ν → List Char)
    (a : Json σ ν) : canonical text Text.units (mapStrings f a) = canonical text Text.units a := by
  have hunits : ∀ s, Text.units (f s) = Text.units s := by
    intro s
    unfold Text.units
    rw [hf]
  unfold canonical
  rw [sorted_mapStrings hunits, render_mapStrings hf]

end Strings

mutual

/-- No object has a key twice. -/
def Distinct : Json σ ν → Prop
  | .arr items => DistinctItems items
  | .obj fields => (fields.map (·.1)).Nodup ∧ DistinctFields fields
  | _ => True

def DistinctItems : List (Json σ ν) → Prop
  | [] => True
  | a :: rest => Distinct a ∧ DistinctItems rest

def DistinctFields : List (σ × Json σ ν) → Prop
  | [] => True
  | (_, a) :: rest => Distinct a ∧ DistinctFields rest

end

theorem distinctItems_iff (items : List (Json σ ν)) : DistinctItems items ↔ ∀ a ∈ items, Distinct a := by
  induction items with
  | nil => simp [DistinctItems]
  | cons a rest ih => rw [DistinctItems, ih, List.forall_mem_cons]

theorem distinctFields_iff (fields : List (σ × Json σ ν)) : DistinctFields fields ↔ ∀ f ∈ fields, Distinct f.2 := by
  induction fields with
  | nil => simp [DistinctFields]
  | cons f rest ih => rw [DistinctFields, ih, List.forall_mem_cons]

/-- The second value is the first with the fields of some of its objects reordered. -/
inductive KeyOrder : Json σ ν → Json σ ν → Prop
  | refl (a) : KeyOrder a a
  | trans {a b c} : KeyOrder a b → KeyOrder b c → KeyOrder a c
  | fields {l l' : List (σ × Json σ ν)} : l.Perm l' → KeyOrder (.obj l) (.obj l')
  | item {a b} (before after : List (Json σ ν)) : KeyOrder a b →
      KeyOrder (.arr (before ++ a :: after)) (.arr (before ++ b :: after))
  | field {a b} (before after : List (σ × Json σ ν)) (k : σ) : KeyOrder a b →
      KeyOrder (.obj (before ++ (k, a) :: after)) (.obj (before ++ (k, b) :: after))

namespace KeyOrder

theorem symm {a b : Json σ ν} (h : KeyOrder a b) : KeyOrder b a := by
  induction h with
  | refl a => exact .refl a
  | trans _ _ ihab ihbc => exact .trans ihbc ihab
  | fields h => exact .fields h.symm
  | item before after _ ih => exact .item before after ih
  | field before after k _ ih => exact .field before after k ih

/-- The items after `before` are reordered one after the other. -/
theorem items (f : Json σ ν → Json σ ν) (before items : List (Json σ ν)) (h : ∀ a ∈ items, KeyOrder a (f a)) :
    KeyOrder (.arr (before ++ items)) (.arr (before ++ items.map f)) := by
  induction items generalizing before with
  | nil => exact .refl _
  | cons a rest ih =>
    apply trans (.item before rest (h a (by simp)))
    have hrest := ih (before ++ [f a]) (fun b hb => h b (by simp [hb]))
    simpa using hrest

theorem values (f : Json σ ν → Json σ ν) (before fields : List (σ × Json σ ν))
    (h : ∀ field ∈ fields, KeyOrder field.2 (f field.2)) :
    KeyOrder (.obj (before ++ fields)) (.obj (before ++ fields.map fun field => (field.1, f field.2))) := by
  induction fields generalizing before with
  | nil => exact .refl _
  | cons field rest ih =>
    apply trans (.field before rest field.1 (h field (by simp)))
    have hrest := ih (before ++ [(field.1, f field.2)]) (fun b hb => h b (by simp [hb]))
    simpa using hrest

/-- Sorting reorders fields. -/
theorem to_sorted (rank : σ → List Nat) (a : Json σ ν) : KeyOrder a (sorted rank a) := by
  induction a using Json.induction with
  | null => exact .refl _
  | bool b => exact .refl _
  | num n => exact .refl _
  | str s => exact .refl _
  | arr items ih =>
    rw [sorted, sortedItems_eq]
    exact KeyOrder.items (sorted rank) [] items ih
  | obj fields ih =>
    rw [sorted, sortedFields_eq]
    exact trans (KeyOrder.values (sorted rank) [] fields ih) (.fields (List.perm_insertionSort _ _).symm)

end KeyOrder

/-- Fields with distinct keys have one order. -/
theorem insertionSort_eq_of_perm {rank : σ → List Nat} (hrank : Function.Injective rank)
    {l l' : List (σ × Json σ ν)} (hl : (l.map (·.1)).Nodup) (h : l.Perm l') :
    l.insertionSort (fun a b => rank a.1 ≤ rank b.1) = l'.insertionSort fun a b => rank a.1 ≤ rank b.1 := by
  have hperm := ((List.perm_insertionSort (fun a b => rank a.1 ≤ rank b.1) l).trans h).trans
    (List.perm_insertionSort (fun a b => rank a.1 ≤ rank b.1) l').symm
  apply hperm.eq_of_pairwise
  · intro f g hf hg hfg hgf
    have hkey : f.1 = g.1 := hrank (le_antisymm hfg hgf)
    have hf : f ∈ l := (List.mem_insertionSort _).mp hf
    have hg : g ∈ l := h.symm.subset ((List.mem_insertionSort _).mp hg)
    exact List.inj_on_of_nodup_map hl hf hg hkey
  · exact List.pairwise_insertionSort _ _
  · exact List.pairwise_insertionSort _ _

theorem sortedFields_keys (rank : σ → List Nat) (fields : List (σ × Json σ ν)) :
    (sortedFields rank fields).map (·.1) = fields.map (·.1) := by
  rw [sortedFields_eq, List.map_map]
  rfl

theorem KeyOrder.sorted_eq {rank : σ → List Nat} (hrank : Function.Injective rank) {a b : Json σ ν}
    (h : KeyOrder a b) (ha : Distinct a) : Distinct b ∧ sorted rank a = sorted rank b := by
  induction h with
  | refl a => exact ⟨ha, rfl⟩
  | trans _ _ ihab ihbc =>
    obtain ⟨hb, hab⟩ := ihab ha
    obtain ⟨hc, hbc⟩ := ihbc hb
    exact ⟨hc, hab.trans hbc⟩
  | fields h =>
    rw [Distinct, distinctFields_iff] at ha
    refine ⟨?_, ?_⟩
    · rw [Distinct, distinctFields_iff]
      exact ⟨(h.map _).nodup_iff.mp ha.1, fun f hf => ha.2 f (h.symm.subset hf)⟩
    · rw [sorted, sorted, insertionSort_eq_of_perm hrank]
      · rw [sortedFields_keys]
        exact ha.1
      · rw [sortedFields_eq, sortedFields_eq]
        exact h.map _
  | item before after _ ih =>
    simp only [Distinct, distinctItems_iff, List.mem_append, List.mem_cons] at ha ⊢
    obtain ⟨hb, hsorted⟩ := ih (ha _ (.inr (.inl rfl)))
    refine ⟨?_, ?_⟩
    · rintro c (hc | rfl | hc)
      · exact ha c (.inl hc)
      · exact hb
      · exact ha c (.inr (.inr hc))
    · simp [sorted, sortedItems_eq, hsorted]
  | field before after k _ ih =>
    simp only [Distinct, distinctFields_iff, List.mem_append, List.mem_cons] at ha ⊢
    obtain ⟨hb, hsorted⟩ := ih (ha.2 (k, _) (.inr (.inl rfl)))
    refine ⟨⟨by simpa using ha.1, ?_⟩, ?_⟩
    · rintro f (hf | rfl | hf)
      · exact ha.2 f (.inl hf)
      · exact hb
      · exact ha.2 f (.inr (.inr hf))
    · simp [sorted, sortedFields_eq, hsorted]

/-- Values with distinct keys sort alike exactly when they differ in the order of keys only. -/
theorem sorted_eq_iff {rank : σ → List Nat} (hrank : Function.Injective rank) {a b : Json σ ν} (ha : Distinct a) :
    sorted rank a = sorted rank b ↔ KeyOrder a b := by
  constructor
  · intro h
    have hb := (KeyOrder.to_sorted rank b).symm
    rw [← h] at hb
    exact (KeyOrder.to_sorted rank a).trans hb
  · intro h
    exact (h.sorted_eq hrank ha).2

/-! ## Reading a text back -/

/-- The characters of a number's text. -/
def numeral (c : Char) : Bool := c.isDigit || c = '-' || c = '+' || c = '.' || c = 'e'

def Numeric (t : List Char) : Prop := t ≠ [] ∧ ∀ c ∈ t, numeral c = true

/-- What may follow a value. -/
def Ends (t : List Char) : Prop := ∀ c ∈ t.head?, c = ',' ∨ c = ']' ∨ c = '}'

theorem Ends.not_numeral {t : List Char} (h : Ends t) : ∀ c ∈ t.head?, ¬ numeral c = true := by
  intro c hc
  rcases h c hc with rfl | rfl | rfl <;> decide

theorem numeric_takeWhile {s x : List Char} (hs : Numeric s) (hx : Ends x) : (s ++ x).takeWhile numeral = s := by
  rw [List.takeWhile_append_of_pos hs.2]
  cases x with
  | nil => simp
  | cons c x => rw [List.takeWhile_cons_of_neg (hx.not_numeral c (by simp)), List.append_nil]

theorem numeric_inj {s t x y : List Char} (hs : Numeric s) (ht : Numeric t) (hx : Ends x) (hy : Ends y)
    (h : s ++ x = t ++ y) : s = t ∧ x = y := by
  have hst : s = t := by rw [← numeric_takeWhile hs hx, h, numeric_takeWhile ht hy]
  subst hst
  exact ⟨rfl, List.append_cancel_left h⟩

def index : Json σ ν → Nat
  | .null => 0
  | .bool _ => 1
  | .num _ => 2
  | .str _ => 3
  | .arr _ => 4
  | .obj _ => 5

/-- What kind of value a text starts. -/
def kind (c : Char) : Nat :=
  if c = 'n' then 0 else if c = 't' ∨ c = 'f' then 1 else if numeral c then 2 else if c = '"' then 3
  else if c = '[' then 4 else if c = '{' then 5 else 6

theorem kind_numeral {c : Char} (h : numeral c = true) : kind c = 2 := by
  have hn : c ≠ 'n' := by rintro rfl; exact absurd h (by decide)
  have ht : c ≠ 't' := by rintro rfl; exact absurd h (by decide)
  have hf : c ≠ 'f' := by rintro rfl; exact absurd h (by decide)
  simp [kind, hn, ht, hf, h]

section Injectivity

variable [Text σ]

theorem render_first {text : ν → List Char} (htext : ∀ n, Numeric (text n)) (a : Json σ ν) :
    ∃ c rest, render text a = c :: rest ∧ kind c = a.index := by
  cases a with
  | null => exact ⟨'n', _, rfl, rfl⟩
  | bool b => cases b <;> exact ⟨_, _, rfl, rfl⟩
  | num n =>
    obtain ⟨hne, hall⟩ := htext n
    obtain ⟨c, rest, hc⟩ := List.exists_cons_of_ne_nil hne
    exact ⟨c, rest, hc, kind_numeral (hall c (by simp [hc]))⟩
  | str s => exact ⟨'"', _, rfl, show kind '"' = 3 by decide⟩
  | arr items => exact ⟨'[', _, by rw [render]; rfl, show kind '[' = 4 by decide⟩
  | obj fields => exact ⟨'{', _, by rw [render]; rfl, show kind '{' = 5 by decide⟩

theorem index_eq {text : ν → List Char} {text' : μ → List Char} (htext : ∀ n, Numeric (text n))
    (htext' : ∀ n, Numeric (text' n)) {a : Json σ ν} {b : Json σ μ} {x y : List Char}
    (h : render text a ++ x = render text' b ++ y) : a.index = b.index := by
  obtain ⟨c, rest, hc, hkind⟩ := render_first htext a
  obtain ⟨c', rest', hc', hkind'⟩ := render_first htext' b
  rw [hc, hc'] at h
  have hfirst : c = c' := (List.cons.inj h).1
  rw [← hkind, ← hkind', hfirst]

theorem joined_cons (p : List Char) (rest : List (List Char)) (close : Char) (x : List Char) :
    [','].intercalate (p :: rest) ++ close :: x =
      p ++ (if rest = [] then close :: x else ',' :: ([','].intercalate rest ++ close :: x)) := by
  cases rest with
  | nil => simp [List.intercalate]
  | cons q rest => simp [List.intercalate]

/-- Texts joined by commas up to a closing bracket, when each of them can be told from what
    follows it. -/
theorem joined_inj {α β γ : Type} {p : α → List Char} {q : β → List Char} {f : α → γ} {g : β → γ} {close : Char}
    (hclose : close = ']' ∨ close = '}') (items : List α) (others : List β)
    (hp : ∀ a ∈ items, ∃ c rest, p a = c :: rest ∧ c ≠ close)
    (hq : ∀ b ∈ others, ∃ c rest, q b = c :: rest ∧ c ≠ close)
    (hpq : ∀ a ∈ items, ∀ b ∈ others, ∀ x y, Ends x → Ends y → p a ++ x = q b ++ y → f a = g b ∧ x = y)
    (x y : List Char)
    (h : [','].intercalate (items.map p) ++ close :: x = [','].intercalate (others.map q) ++ close :: y) :
    items.map f = others.map g ∧ x = y := by
  have hcomma : close ≠ ',' := by rcases hclose with rfl | rfl <;> decide
  have hends (r : List (List Char)) (z : List Char) :
      Ends (if r = [] then close :: z else ',' :: ([','].intercalate r ++ close :: z)) := by
    split
    · rcases hclose with rfl | rfl <;> simp [Ends]
    · simp [Ends]
  induction items generalizing others with
  | nil =>
    cases others with
    | nil => simpa [List.intercalate] using h
    | cons b others =>
      obtain ⟨c, rest, hc, hne⟩ := hq b (by simp)
      rw [List.map_cons, joined_cons, hc] at h
      exact absurd (List.cons.inj h).1.symm hne
  | cons a items ih =>
    cases others with
    | nil =>
      obtain ⟨c, rest, hc, hne⟩ := hp a (by simp)
      rw [List.map_cons, joined_cons, hc] at h
      exact absurd (List.cons.inj h).1 hne
    | cons b others =>
      rw [List.map_cons, List.map_cons, joined_cons, joined_cons] at h
      obtain ⟨hhead, htail⟩ := hpq a (by simp) b (by simp) _ _ (hends _ _) (hends _ _) h
      have hrest : items.map f = others.map g ∧ x = y := by
        cases items with
        | nil =>
          cases others with
          | nil => simpa using htail
          | cons b' others => exact absurd (List.cons.inj htail).1 hcomma
        | cons a' items =>
          cases others with
          | nil => exact absurd (List.cons.inj htail).1.symm hcomma
          | cons b' others =>
            exact ih (b' :: others) (fun c hc => hp c (by simp [hc])) (fun c hc => hq c (by simp [hc]))
              (fun c hc d hd => hpq c (by simp [hc]) d (by simp [hd])) (List.cons.inj htail).2
      exact ⟨by rw [List.map_cons, List.map_cons, hhead, hrest.1], hrest.2⟩

theorem render_ne_close {text : ν → List Char} (htext : ∀ n, Numeric (text n)) (a : Json σ ν) :
    ∃ c rest, render text a = c :: rest ∧ c ≠ ']' := by
  obtain ⟨c, rest, hc, hkind⟩ := render_first htext a
  refine ⟨c, rest, hc, ?_⟩
  rintro rfl
  have hclose : kind ']' = 6 := by decide
  rw [hclose] at hkind
  cases a <;> cases hkind

theorem render_inj {text : ν → List Char} {text' : μ → List Char} (htext : ∀ n, Numeric (text n))
    (htext' : ∀ n, Numeric (text' n)) (a : Json σ ν) (b : Json σ μ) (x y : List Char) (hx : Ends x) (hy : Ends y)
    (h : render text a ++ x = render text' b ++ y) : map text a = map text' b ∧ x = y := by
  induction a using Json.induction generalizing b x y with
  | null =>
    have hindex := index_eq htext htext' h
    cases b <;> cases hindex
    exact ⟨rfl, List.append_cancel_left h⟩
  | bool v =>
    have hindex := index_eq htext htext' h
    cases b <;> cases hindex
    rename_i w
    cases v <;> cases w <;> simp_all [render, map]
  | num n =>
    have hindex := index_eq htext htext' h
    cases b <;> cases hindex
    rename_i m
    obtain ⟨htexts, hrest⟩ := numeric_inj (htext n) (htext' m) hx hy h
    exact ⟨by rw [map, map, htexts], hrest⟩
  | str s =>
    have hindex := index_eq htext htext' h
    cases b <;> cases hindex
    obtain ⟨hpoints, hrest⟩ := quote_inj _ _ x y h
    exact ⟨by rw [map, map, Text.points_injective hpoints], hrest⟩
  | arr items ih =>
    have hindex := index_eq htext htext' h
    cases b <;> cases hindex
    rename_i others
    simp only [render, renderItems_eq, List.cons_append, List.append_assoc, List.cons.injEq, true_and,
      List.nil_append] at h
    obtain ⟨hitems, hrest⟩ := joined_inj (f := map text) (g := map text') (.inl rfl) items others
      (fun a _ => render_ne_close htext a) (fun b _ => render_ne_close htext' b)
      (fun a ha b _ x y hx hy h => ih a ha b x y hx hy h) x y h
    exact ⟨by rw [map, map, mapItems_eq, mapItems_eq, hitems], hrest⟩
  | obj fields ih =>
    have hindex := index_eq htext htext' h
    cases b <;> cases hindex
    rename_i others
    simp only [render, renderFields_eq, List.cons_append, List.append_assoc, List.cons.injEq, true_and,
      List.nil_append] at h
    have hfield : ∀ f ∈ fields, ∀ f' ∈ others, ∀ x y, Ends x → Ends y →
        (quote f.1 ++ ':' :: render text f.2) ++ x = (quote f'.1 ++ ':' :: render text' f'.2) ++ y →
        (f.1, map text f.2) = (f'.1, map text' f'.2) ∧ x = y := by
      intro f hf f' _ x y hx hy h
      rw [List.append_assoc, List.append_assoc] at h
      obtain ⟨hpoints, htail⟩ := quote_inj _ _ _ _ h
      obtain ⟨hvalue, hrest⟩ := ih f hf f'.2 x y hx hy (List.cons.inj htail).2
      exact ⟨Prod.ext (Text.points_injective hpoints) hvalue, hrest⟩
    obtain ⟨hfields, hrest⟩ := joined_inj (.inr rfl) fields others (fun f _ => ⟨'"', _, rfl, by decide⟩)
      (fun f _ => ⟨'"', _, rfl, by decide⟩) hfield x y h
    exact ⟨by rw [map, map, mapFields_eq, mapFields_eq, hfields], hrest⟩

theorem render_map (text : ν → List Char) (a : Json σ ν) : render id (map text a) = render text a := by
  induction a using Json.induction with
  | null => rfl
  | bool b => rfl
  | num n => rfl
  | str s => rfl
  | arr items ih =>
    have hitems : (items.map (map text)).map (render id) = items.map (render text) := by
      rw [List.map_map]
      exact List.map_congr_left fun a ha => ih a ha
    rw [map, mapItems_eq, render, render, renderItems_eq, renderItems_eq, hitems]
  | obj fields ih =>
    have hfields : (fields.map fun f => (f.1, map text f.2)).map (fun f => quote f.1 ++ ':' :: render id f.2) =
        fields.map fun f => quote f.1 ++ ':' :: render text f.2 := by
      rw [List.map_map]
      exact List.map_congr_left fun f hf => by simp only [Function.comp, ih f hf]
    rw [map, mapFields_eq, render, render, renderFields_eq, renderFields_eq, hfields]

theorem canonical_texts_iff {text : ν → List Char} {text' : μ → List Char} (htext : ∀ n, Numeric (text n))
    (htext' : ∀ n, Numeric (text' n)) (rank rank' : σ → List Nat) (a : Json σ ν) (b : Json σ μ) :
    canonical text rank a = canonical text' rank' b ↔ map text (sorted rank a) = map text' (sorted rank' b) := by
  constructor
  · intro h
    exact (render_inj htext htext' _ _ [] [] (by simp [Ends]) (by simp [Ends]) (by simpa [canonical] using h)).1
  · intro h
    rw [canonical, canonical, ← render_map text, h, render_map]

/-- The canonical texts of values with distinct keys are the same exactly when the values
    are, up to the order of their keys. -/
theorem canonical_eq_iff {text : ν → List Char} (htext : ∀ n, Numeric (text n)) (hinj : Function.Injective text)
    {rank : σ → List Nat} (hrank : Function.Injective rank) {a : Json σ ν} (ha : Distinct a) (b : Json σ ν) :
    canonical text rank a = canonical text rank b ↔ KeyOrder a b := by
  rw [canonical_texts_iff htext htext, (map_injective hinj).eq_iff, sorted_eq_iff hrank ha]

end Injectivity

end Json

end TokenPilot.Library
