import Mathlib

/-!
# Containers whose elements go through a partial function

A container is taken apart into its elements, and is built again from what a function makes of them.

* `mapM_eq_some`, `mapM_bind_mapM`, `foldlM_isSome`  a partial function on every element;
* `Container`                        how a container is taken apart and built;
* `Settles`                          a function that returns its results as they are;
* `Container.rebuild_iff`            the containers that are built again as they were;
* `listContainer`, `setContainer`, `mapContainer`  lists, sets, and maps without a key twice.
-/

set_option linter.unusedVariables false

namespace KitServer

section
variable {α β γ : Type}

theorem mapM_eq_some {f : α → Option β} {xs : List α} {ys : List β} :
    xs.mapM f = some ys ↔ List.Forall₂ (fun x y => f x = some y) xs ys := by
  induction xs generalizing ys with
  | nil =>
    rw [List.mapM_nil, List.forall₂_nil_left_iff]
    exact ⟨fun h => (Option.some.inj h).symm, fun h => h ▸ rfl⟩
  | cons x xs ih =>
    rw [List.mapM_cons, List.forall₂_cons_left_iff]
    constructor
    · intro h
      obtain ⟨y, hy, h⟩ := Option.bind_eq_some_iff.mp h
      obtain ⟨rest, hrest, h⟩ := Option.bind_eq_some_iff.mp h
      cases h
      exact ⟨y, rest, hy, ih.mp hrest, rfl⟩
    · rintro ⟨y, rest, hy, hrest, rfl⟩
      rw [hy, ih.mpr hrest]
      rfl

theorem foldlM_isSome {f : β → α → Option β} {xs : List α}
    (h : ∀ x ∈ xs, ∀ y, (f y x).isSome = true) (y : β) : (xs.foldlM f y).isSome = true := by
  induction xs generalizing y with
  | nil => rfl
  | cons x xs ih =>
    obtain ⟨z, hz⟩ := Option.isSome_iff_exists.mp (h x List.mem_cons_self y)
    rw [List.foldlM_cons, hz]
    exact ih (fun w hw => h w (List.mem_cons_of_mem x hw)) z

theorem mapM_bind_mapM (f : α → Option β) (g : β → Option γ) (xs : List α) :
    ((xs.mapM f).bind fun ys => ys.mapM g) = xs.mapM fun x => (f x).bind g := by
  induction xs with
  | nil => rfl
  | cons x xs ih =>
    rw [List.mapM_cons, List.mapM_cons]
    cases hx : f x with
    | none => rfl
    | some y =>
      rw [← ih]
      cases hxs : xs.mapM f with
      | none =>
        show none = (g y).bind fun _ => none
        cases g y <;> rfl
      | some ys =>
        show (y :: ys).mapM g = _
        rw [List.mapM_cons]
        rfl

theorem mapM_map (f : β → Option γ) (g : α → β) (xs : List α) :
    (xs.map g).mapM f = xs.mapM fun x => f (g x) := by
  induction xs with
  | nil => rfl
  | cons x xs ih =>
    rw [List.map_cons, List.mapM_cons, List.mapM_cons, ih]

theorem mapM_self {f : α → Option α} {xs : List α} (h : ∀ x ∈ xs, f x = some x) :
    xs.mapM f = some xs := by
  rw [mapM_eq_some, List.forall₂_same]
  exact h

theorem exists_of_mapM {f : α → Option β} {xs : List α} {ys : List β} (h : xs.mapM f = some ys)
    {y : β} (hy : y ∈ ys) : ∃ x ∈ xs, f x = some y := by
  have hall := mapM_eq_some.mp h
  induction hall with
  | nil => cases hy
  | cons hxy _ ih =>
    rename_i xs' ys' htail
    rcases List.mem_cons.mp hy with rfl | hy
    · exact ⟨_, List.mem_cons_self, hxy⟩
    · obtain ⟨x, hx, hfx⟩ := ih (mapM_eq_some.mpr htail) hy
      exact ⟨x, List.mem_cons_of_mem _ hx, hfx⟩

end

/-- a type whose values are taken apart into elements of `α`, and built from them -/
structure Container (C α : Type) where
  elements : C → List α
  build : List α → C
  build_elements : ∀ c, build (elements c) = c
  mem_of_build : ∀ {xs x}, x ∈ elements (build xs) → x ∈ xs

/-- `f` returns its results as they are -/
def Settles {α : Type} (f : α → Option α) : Prop := ∀ x y, f x = some y → f y = some y

namespace Container
variable {C α : Type}

/-- the container built from what `f` makes of the elements -/
def rebuild (k : Container C α) (f : α → Option α) (c : C) : Option C :=
  ((k.elements c).mapM f).map k.build

variable {k : Container C α} {f : α → Option α}

theorem rebuild_self {c : C} (h : ∀ x ∈ k.elements c, f x = some x) : k.rebuild f c = some c := by
  rw [rebuild, mapM_self h, Option.map_some, k.build_elements]

theorem fixed_of_rebuild (hf : Settles f) {c c' : C} (h : k.rebuild f c = some c') :
    ∀ x ∈ k.elements c', f x = some x := by
  obtain ⟨xs, hxs, rfl⟩ := Option.map_eq_some_iff.mp h
  intro x hx
  obtain ⟨y, _, hy⟩ := exists_of_mapM hxs (k.mem_of_build hx)
  exact hf y x hy

theorem rebuild_settles (hf : Settles f) : Settles (k.rebuild f) := by
  intro c c' h
  exact rebuild_self (fixed_of_rebuild hf h)

/-- **A container is built again as it was if and only if its elements are.** -/
theorem rebuild_iff (hf : Settles f) (c : C) :
    k.rebuild f c = some c ↔ ∀ x ∈ k.elements c, f x = some x :=
  ⟨fixed_of_rebuild hf, rebuild_self⟩

end Container

section
variable {α β α' β' : Type}

/-- a function on each side of a pair -/
def onPair (f : α → Option α') (g : β → Option β') (p : α × β) : Option (α' × β') :=
  (f p.1).bind fun a => (g p.2).map fun b => (a, b)

theorem onPair_eq_some {f : α → Option α'} {g : β → Option β'} {p : α × β} {q : α' × β'} :
    onPair f g p = some q ↔ f p.1 = some q.1 ∧ g p.2 = some q.2 := by
  rw [onPair, Option.bind_eq_some_iff]
  constructor
  · rintro ⟨a, ha, h⟩
    obtain ⟨b, hb, rfl⟩ := Option.map_eq_some_iff.mp h
    exact ⟨ha, hb⟩
  · rintro ⟨ha, hb⟩
    exact ⟨q.1, ha, by rw [hb]; rfl⟩

theorem onPair_bind {α'' β'' : Type} (f : α → Option α') (g : β → Option β')
    (f' : α' → Option α'') (g' : β' → Option β'') (p : α × β) :
    (onPair f g p).bind (onPair f' g')
      = onPair (fun a => (f a).bind f') (fun b => (g b).bind g') p := by
  unfold onPair
  dsimp only
  cases f p.1 with
  | none => rfl
  | some a =>
    cases g p.2 with
    | none =>
      show none = (f' a).bind fun _ => none
      cases f' a <;> rfl
    | some b => rfl

theorem onPair_settles {f : α → Option α} {g : β → Option β} (hf : Settles f) (hg : Settles g) :
    Settles (onPair f g) := by
  intro p q h
  obtain ⟨h1, h2⟩ := onPair_eq_some.mp h
  exact onPair_eq_some.mpr ⟨hf _ _ h1, hg _ _ h2⟩

end

/-! ## lists, sets and maps -/

section
variable {α β : Type}

def listContainer (α : Type) : Container (List α) α := ⟨id, id, fun _ => rfl, fun h => h⟩

/-- an order in which a set is gone through -/
structure Enumerates (order : Finset α → List α) : Prop where
  nodup : ∀ s, (order s).Nodup
  mem : ∀ s x, x ∈ order s ↔ x ∈ s

theorem Enumerates.toFinset [DecidableEq α] {order : Finset α → List α} (h : Enumerates order)
    (s : Finset α) : (order s).toFinset = s := by
  ext x
  rw [List.mem_toFinset, h.mem]

def setContainer [DecidableEq α] {order : Finset α → List α} (h : Enumerates order) :
    Container (Finset α) α :=
  ⟨order, List.toFinset, h.toFinset, fun hx => List.mem_toFinset.mp ((h.mem _ _).mp hx)⟩

def KeysOnce (m : Finset (α × β)) : Prop := ∀ p ∈ m, ∀ q ∈ m, p.1 = q.1 → p = q

/-- a map, as the set of its entries -/
abbrev Entries (α β : Type) := { m : Finset (α × β) // KeysOnce m }

variable [DecidableEq α] [DecidableEq β]

/-- `insert`: an entry whose key is there already is left out -/
def Entries.insert (m : Entries α β) (p : α × β) : Entries α β :=
  if h : ∃ q ∈ m.1, q.1 = p.1 then m
  else
    ⟨Insert.insert p m.1, by
      intro q hq r hr hkey
      rw [Finset.mem_insert] at hq hr
      rcases hq with rfl | hq
      · rcases hr with rfl | hr
        · rfl
        · exact absurd ⟨r, hr, hkey.symm⟩ h
      · rcases hr with rfl | hr
        · exact absurd ⟨q, hq, hkey⟩ h
        · exact m.2 q hq r hr hkey⟩

def Entries.empty : Entries α β := ⟨∅, by intro p hp; cases hp⟩

/-- the entries inserted one after the other -/
def Entries.ofList (ps : List (α × β)) : Entries α β := ps.foldl Entries.insert Entries.empty

theorem Entries.mem_insert {m : Entries α β} {p q : α × β} (h : q ∈ (m.insert p).1) :
    q = p ∨ q ∈ m.1 := by
  rw [Entries.insert] at h
  split at h
  · exact Or.inr h
  · exact Finset.mem_insert.mp h

theorem Entries.mem_foldl {ps : List (α × β)} {m : Entries α β} {q : α × β}
    (h : q ∈ (ps.foldl Entries.insert m).1) : q ∈ m.1 ∨ q ∈ ps := by
  induction ps generalizing m with
  | nil => exact Or.inl h
  | cons p ps ih =>
    rcases ih h with h | h
    · rcases Entries.mem_insert h with rfl | h
      · exact Or.inr List.mem_cons_self
      · exact Or.inl h
    · exact Or.inr (List.mem_cons_of_mem _ h)

theorem Entries.insert_val {m : Entries α β} {p : α × β} (h : KeysOnce (Insert.insert p m.1)) :
    (m.insert p).1 = Insert.insert p m.1 := by
  rw [Entries.insert]
  split
  · rename_i hq
    obtain ⟨q, hq, hkey⟩ := hq
    obtain rfl := h q (Finset.mem_insert_of_mem hq) p (Finset.mem_insert_self _ _) hkey
    exact (Finset.insert_eq_of_mem hq).symm
  · rfl

theorem Entries.foldl_val {ps : List (α × β)} {m : Entries α β}
    (h : KeysOnce (m.1 ∪ ps.toFinset)) : (ps.foldl Entries.insert m).1 = m.1 ∪ ps.toFinset := by
  induction ps generalizing m with
  | nil => simp
  | cons p ps ih =>
    have hunion : m.1 ∪ (p :: ps).toFinset = Insert.insert p m.1 ∪ ps.toFinset := by
      rw [List.toFinset_cons, Finset.union_insert, Finset.insert_union]
    rw [hunion] at h ⊢
    have hp : (m.insert p).1 = Insert.insert p m.1 :=
      Entries.insert_val fun q hq r hr =>
        h q (Finset.mem_union_left _ hq) r (Finset.mem_union_left _ hr)
    rw [List.foldl_cons, ih (by rw [hp]; exact h), hp]

def mapContainer {order : Finset (α × β) → List (α × β)} (h : Enumerates order) :
    Container (Entries α β) (α × β) where
  elements m := order m.1
  build := Entries.ofList
  build_elements m := by
    have hval : Entries.empty.1 ∪ (order m.1).toFinset = m.1 := by
      rw [h.toFinset]
      exact Finset.empty_union _
    refine Subtype.ext ?_
    rw [Entries.ofList, Entries.foldl_val (by rw [hval]; exact m.2), hval]
  mem_of_build := by
    intro ps x hx
    rcases Entries.mem_foldl ((h.mem _ _).mp hx) with hx | hx
    · cases hx
    · exact hx

end

end KitServer
