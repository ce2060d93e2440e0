import Mathlib.Data.List.Forall2
import Mathlib.Data.List.Nodup

/-!
# Outcomes and lists

Chains of steps that may fail, successes that last, traversals with effects, lists whose elements
are related one by one, and searches in lists whose elements have distinct keys.
-/

namespace RootedStorage

/-- A chain of two steps succeeds if both do. -/
theorem bind_eq_ok_iff {ε α β : Type} {x : Except ε α} {f : α → Except ε β} {b : β} :
    x >>= f = .ok b ↔ ∃ a, x = .ok a ∧ f a = .ok b := by
  cases x with
  | error e => simp [bind, Except.bind]
  | ok a => simp [bind, Except.bind]

/-- A mapped result is a success exactly if the result is one. -/
theorem map_eq_ok_iff {ε α β : Type} {x : Except ε α} {f : α → β} {b : β} :
    f <$> x = .ok b ↔ ∃ a, x = .ok a ∧ f a = b := by
  cases x with
  | error e => simp [Functor.map, Except.map]
  | ok a => simp [Functor.map, Except.map]

/-- Mapping errors changes no success. -/
theorem mapError_eq_ok_iff {ε ε' α : Type} {x : Except ε α} {f : ε → ε'} {a : α} :
    x.mapError f = .ok a ↔ x = .ok a := by
  cases x with
  | error e => simp [Except.mapError]
  | ok b => simp [Except.mapError]

/-- A success lasts: the second outcome is the first one, unless that is an error. -/
def Lasts {ε α : Type} (x y : Except ε α) : Prop := ∀ a, x = .ok a → y = .ok a

namespace Lasts

variable {ε ε' α β : Type} {x y : Except ε α}

/-- Every result lasts in itself. -/
theorem refl (x : Except ε α) : Lasts x x := fun _ h => h

/-- Steps that last follow one another. -/
theorem bind {f g : α → Except ε β} (h : Lasts x y) (hnext : ∀ a, Lasts (f a) (g a)) :
    Lasts (x >>= f) (y >>= g) := by
  intro b hb
  obtain ⟨a, hx, ha⟩ := bind_eq_ok_iff.1 hb
  exact bind_eq_ok_iff.2 ⟨a, h a hx, hnext a b ha⟩

/-- A mapped success lasts. -/
theorem map (h : Lasts x y) (f : α → β) : Lasts (x.map f) (y.map f) := by
  intro b hb
  obtain ⟨a, hx, hab⟩ := map_eq_ok_iff.1 hb
  exact map_eq_ok_iff.2 ⟨a, h a hx, hab⟩

/-- Successes last whatever becomes of the errors. -/
theorem mapError (h : Lasts x y) (f : ε → ε') : Lasts (x.mapError f) (y.mapError f) := by
  intro a ha
  exact mapError_eq_ok_iff.2 (h a (mapError_eq_ok_iff.1 ha))

end Lasts

section Related

variable {α β : Type} {R : α → β → Prop} {l : List α} {k : List β}

/-- In lists whose elements are related one by one, every element has a partner. -/
theorem exists_of_mem_left (h : List.Forall₂ R l k) : ∀ x ∈ l, ∃ y ∈ k, R x y := by
  induction h with
  | nil =>
    intro x hx
    cases hx
  | cons hxy _ ih =>
    intro x hx
    rcases List.mem_cons.1 hx with rfl | hx
    · exact ⟨_, List.mem_cons_self, hxy⟩
    · obtain ⟨y, hy, hR⟩ := ih x hx
      exact ⟨y, List.mem_cons_of_mem _ hy, hR⟩

/-- Each element on the right has a partner on the left. -/
theorem exists_of_mem_right (h : List.Forall₂ R l k) : ∀ y ∈ k, ∃ x ∈ l, R x y :=
  exists_of_mem_left (R := fun y x => R x y) h.flip

/-- A list has a related one exactly if each of its elements is related to something. -/
theorem exists_forall₂_iff : (∃ k, List.Forall₂ R l k) ↔ ∀ x ∈ l, ∃ y, R x y := by
  constructor
  · rintro ⟨k, h⟩ x hx
    obtain ⟨y, -, hy⟩ := exists_of_mem_left h x hx
    exact ⟨y, hy⟩
  · intro h
    induction l with
    | nil => exact ⟨[], .nil⟩
    | cons x l ih =>
      obtain ⟨y, hy⟩ := h x List.mem_cons_self
      obtain ⟨k, hk⟩ := ih fun z hz => h z (List.mem_cons_of_mem _ hz)
      exact ⟨y :: k, .cons hy hk⟩

/-- What is related over something between is related by way of a list of it. -/
theorem exists_forall₂_between {γ : Type} {S : β → γ → Prop} {m : List γ}
    (h : List.Forall₂ (fun x z => ∃ y, R x y ∧ S y z) l m) :
    ∃ k, List.Forall₂ R l k ∧ List.Forall₂ S k m := by
  induction h with
  | nil => exact ⟨[], .nil, .nil⟩
  | cons hhead _ ih =>
    obtain ⟨y, hR, hS⟩ := hhead
    obtain ⟨k, hk, hk'⟩ := ih
    exact ⟨y :: k, .cons hR hk, .cons hS hk'⟩

/-- Relations that agree on the elements of a list relate it to the same lists. -/
theorem forall₂_congr_of_mem {S : α → β → Prop} (h : ∀ x ∈ l, ∀ y, R x y ↔ S x y) :
    List.Forall₂ R l k ↔ List.Forall₂ S l k := by
  have hstep : ∀ {R S : α → β → Prop}, (∀ x ∈ l, ∀ y, R x y → S x y) →
      List.Forall₂ R l k → List.Forall₂ S l k := fun h hR =>
    ((List.forall₂_and_left l k).2 ⟨fun _ hx => hx, hR⟩).imp fun x y hxy => h x hxy.1 y hxy.2
  exact ⟨hstep fun x hx y => (h x hx y).1, hstep fun x hx y => (h x hx y).2⟩

/-- What is related step by step is related by way of the list between. -/
theorem forall₂_between_iff {γ : Type} {S : β → γ → Prop} {m : List γ} :
    (∃ k, List.Forall₂ R l k ∧ List.Forall₂ S k m) ↔
      List.Forall₂ (fun x z => ∃ y, R x y ∧ S y z) l m := by
  refine ⟨?_, exists_forall₂_between⟩
  rintro ⟨k, hR, hS⟩
  induction hR generalizing m with
  | nil =>
    cases hS
    exact .nil
  | cons hhead _ ih =>
    cases hS with
    | cons hnext hS => exact .cons ⟨_, hhead, hnext⟩ (ih hS)

/-- Options that are related by equality are equal. -/
theorem eq_of_rel_eq {x y : Option α} (h : Option.Rel (fun a b => a = b) x y) : x = y := by
  cases h with
  | some h => exact congrArg some h
  | none => rfl

end Related

section Traversal

variable {α β : Type} {m : Type → Type} [Monad m] [LawfulMonad m] {f : α → m β}

/-- A traversal whose steps are all pure gives their results. -/
theorem mapM_eq_pure {l : List α} {k : List β} (h : List.Forall₂ (fun x y => f x = pure y) l k) :
    l.mapM f = pure k := by
  induction h with
  | nil => simp
  | cons hx _ ih => simp [hx, ih]

/-- A run of steps that are pure is a map. -/
theorem mapM_eq_pure_map {l : List α} {g : α → β} (h : ∀ x ∈ l, f x = pure (g x)) :
    l.mapM f = pure (l.map g) := by
  refine mapM_eq_pure ?_
  rw [List.forall₂_map_right_iff, List.forall₂_same]
  exact h

/-- A run of steps that are pure at every index gives their values. -/
theorem mapM_eq_pure_of_getElem {l : List α} {k : List β} (hlength : l.length = k.length)
    (h : ∀ i (hl : i < l.length) (hk : i < k.length), f l[i] = pure k[i]) :
    l.mapM f = pure k :=
  mapM_eq_pure (List.forall₂_iff_get.2 ⟨hlength, h⟩)

/-- A traversal that has a result has one for every element. -/
theorem forall₂_of_mapM_eq_some {f : α → Option β} {l : List α} {k : List β}
    (h : l.mapM f = some k) : List.Forall₂ (fun x y => f x = some y) l k := by
  induction l generalizing k with
  | nil =>
    obtain rfl : [] = k := by simpa using h
    exact .nil
  | cons x l ih =>
    simp only [List.mapM_cons, Option.bind_eq_bind, Option.bind_eq_some_iff] at h
    obtain ⟨y, hy, k, hk, hcons⟩ := h
    obtain rfl : y :: k = _ := Option.some.inj hcons
    exact .cons hy (ih hk)

/-- A run of partial steps gives a list exactly if each step gives its element. -/
theorem mapM_eq_some_iff {f : α → Option β} {l : List α} {k : List β} :
    l.mapM f = some k ↔ List.Forall₂ (fun x y => f x = some y) l k :=
  ⟨forall₂_of_mapM_eq_some, mapM_eq_pure⟩

/-- What a traversal gives comes from the elements. -/
theorem exists_of_mem_mapM {f : α → Option β} {l : List α} {k : List β} (h : l.mapM f = some k) :
    ∀ y ∈ k, ∃ x ∈ l, f x = some y :=
  exists_of_mem_right (forall₂_of_mapM_eq_some h)

/-- A traversal that succeeds has taken every step. -/
theorem forall₂_of_mapM_eq_ok {ε : Type} {f : α → Except ε β} {l : List α} {k : List β}
    (h : l.mapM f = .ok k) : List.Forall₂ (fun x y => f x = .ok y) l k := by
  induction l generalizing k with
  | nil =>
    obtain rfl := Except.ok.inj h
    exact .nil
  | cons x l ih =>
    rw [List.mapM_cons, bind_eq_ok_iff] at h
    obtain ⟨y, hy, h⟩ := h
    obtain ⟨k, hk, h⟩ := bind_eq_ok_iff.1 h
    obtain rfl := Except.ok.inj h
    exact .cons hy (ih hk)

/-- A run of steps succeeds with a list exactly if each step succeeds with its element. -/
theorem mapM_eq_ok_iff {ε : Type} {f : α → Except ε β} {l : List α} {k : List β} :
    l.mapM f = .ok k ↔ List.Forall₂ (fun x y => f x = .ok y) l k :=
  ⟨forall₂_of_mapM_eq_ok, mapM_eq_pure⟩

end Traversal

section Keys

variable {α κ : Type} {key : α → κ} {l : List α}

/-- Keys without repetition tell indices apart. -/
theorem key_getElem_inj (h : (l.map key).Nodup) {i j : Nat} {hi : i < l.length} {hj : j < l.length}
    (heq : key l[i] = key l[j]) : i = j := by
  have hi' : i < (l.map key).length := by simpa using hi
  have hj' : j < (l.map key).length := by simpa using hj
  have hkeys : (l.map key)[i] = (l.map key)[j] := by simpa using heq
  exact (List.Nodup.getElem_inj_iff h).1 hkeys

/-- The key of the element at an index is found at that index. -/
theorem findIdx?_key [DecidableEq κ] (key : α → κ) (h : (l.map key).Nodup) {i : Nat} (hi : i < l.length) :
    l.findIdx? (fun x => key x = key l[i]) = some i := by
  rw [List.findIdx?_eq_some_iff_getElem]
  refine ⟨hi, by simp, fun j hj => ?_⟩
  have hne : key l[j] ≠ key l[i] := fun heq => absurd (key_getElem_inj h heq) (by omega)
  simpa using hne

/-- By a key without repetition exactly its element is found. -/
theorem find?_key [DecidableEq κ] (key : α → κ) (h : (l.map key).Nodup) {i : Nat} (hi : i < l.length) :
    l.find? (fun x => key x = key l[i]) = some l[i] := by
  rw [List.find?_eq_some_iff_getElem]
  refine ⟨by simp, i, hi, rfl, fun j hj => ?_⟩
  have hne : key l[j] ≠ key l[i] := fun heq => absurd (key_getElem_inj h heq) (by omega)
  simpa using hne

end Keys

end RootedStorage
