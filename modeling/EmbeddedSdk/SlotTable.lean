import Mathlib.Algebra.Order.BigOperators.Group.List
import Mathlib.Algebra.Order.Ring.Nat
import Mathlib.Data.List.ReduceOption

/-!
# Tables with a fixed number of slots

A slot is empty or holds one entry. Seen from outside, a table is a partial
function from slot numbers to entries; the lemmas below say what each operation
does to that function, so that no proof has to look at the list of slots.
-/
namespace EmbeddedSdk

/-- A table of `n` slots. -/
structure SlotTable (α : Type*) (n : ℕ) where
  slots : List (Option α)
  length_slots : slots.length = n

namespace SlotTable

variable {α : Type*} {n : ℕ}

/-- A table without entries. -/
def empty (α : Type*) (n : ℕ) : SlotTable α n := ⟨List.replicate n none, List.length_replicate⟩

/-- The entries of the table in slot order. -/
def entries (t : SlotTable α n) : List α := t.slots.reduceOption

/-- The entry of slot `i`. -/
def at? (t : SlotTable α n) (i : ℕ) : Option α := t.slots[i]?.join

/-- The first slot that satisfies `p`. -/
def position (t : SlotTable α n) (p : Option α → Bool) : Option ℕ := t.slots.findIdx? p

/-- The first slot with the least key. -/
def minPosition (t : SlotTable α n) (key : Option α → ℕ) : Option ℕ := t.slots.minIdxOn? key

/-- Put an entry into slot `i`. -/
def put (t : SlotTable α n) (i : ℕ) (x : α) : SlotTable α n :=
  ⟨t.slots.set i (some x), by rw [List.length_set, t.length_slots]⟩

/-- Change the entry of slot `i` in place. -/
def modify (t : SlotTable α n) (i : ℕ) (f : α → α) : SlotTable α n :=
  ⟨t.slots.modify i (Option.map f), by rw [List.length_modify, t.length_slots]⟩

/-- Change every entry in place. -/
def map (t : SlotTable α n) (f : α → α) : SlotTable α n :=
  ⟨t.slots.map (Option.map f), by rw [List.length_map, t.length_slots]⟩

/-- Empty every slot whose entry is not to be kept. -/
def retain (t : SlotTable α n) (keep : α → Bool) : SlotTable α n :=
  ⟨t.slots.map (Option.filter keep), by rw [List.length_map, t.length_slots]⟩

/-- The first `n` elements of a list, one for each slot from the first on. -/
def ofList (n : ℕ) (xs : List α) : SlotTable α n :=
  ⟨(xs.take n).map some ++ List.replicate (n - xs.length) none, by
    simp only [List.length_append, List.length_map, List.length_take, List.length_replicate]
    omega⟩

theorem at?_eq_some {t : SlotTable α n} {i : ℕ} {x : α} :
    t.at? i = some x ↔ t.slots[i]? = some (some x) := by
  rw [at?, Option.join_eq_some_iff]

theorem at?_lt {t : SlotTable α n} {i : ℕ} {x : α} (h : t.at? i = some x) : i < n := by
  have hi := (List.getElem?_eq_some_iff.mp (at?_eq_some.mp h)).1
  have hn := t.length_slots
  omega

theorem mem_entries {t : SlotTable α n} {x : α} : x ∈ t.entries ↔ ∃ i, t.at? i = some x := by
  rw [entries, List.reduceOption_mem_iff, List.mem_iff_getElem?]
  simp only [at?_eq_some]

@[simp] theorem at?_empty (i : ℕ) : (empty α n).at? i = none := by
  simp only [at?, empty, List.getElem?_replicate]
  split <;> rfl

theorem at?_put (t : SlotTable α n) {i : ℕ} (hi : i < n) (x : α) (j : ℕ) :
    (t.put i x).at? j = if i = j then some x else t.at? j := by
  have hn : i < t.slots.length := by rw [t.length_slots]; exact hi
  simp only [at?, put, List.getElem?_set, hn, if_true]
  split <;> rfl

/-- Changing an entry in place puts the changed entry into its slot. -/
theorem modify_eq_put {t : SlotTable α n} {i : ℕ} {x : α} (h : t.at? i = some x) (f : α → α) :
    t.modify i f = t.put i (f x) := by
  have hx := at?_eq_some.mp h
  have hslots : t.slots.modify i (Option.map f) = t.slots.set i (some (f x)) := by
    rw [List.modify_eq_set_getElem?, hx]
    rfl
  simp only [modify, put, hslots]

@[simp] theorem at?_map (t : SlotTable α n) (f : α → α) (i : ℕ) :
    (t.map f).at? i = (t.at? i).map f := by
  simp only [at?, map, List.getElem?_map]
  cases t.slots[i]? <;> rfl

@[simp] theorem at?_retain (t : SlotTable α n) (keep : α → Bool) (i : ℕ) :
    (t.retain keep).at? i = (t.at? i).filter keep := by
  simp only [at?, retain, List.getElem?_map]
  cases t.slots[i]? <;> rfl

@[simp] theorem entries_ofList (n : ℕ) (xs : List α) : (ofList n xs).entries = xs.take n := by
  simp only [entries, ofList, List.reduceOption_append, List.reduceOption_replicate_none,
    List.append_nil]
  simp [List.reduceOption]

section Total

variable {t : SlotTable α n} {f : α → ℕ}

/-- The sum of a number over all entries. -/
def total (t : SlotTable α n) (f : α → ℕ) : ℕ := (t.entries.map f).sum

theorem total_eq_slots (t : SlotTable α n) (f : α → ℕ) :
    t.total f = (t.slots.map fun slot => slot.elim 0 f).sum := by
  rw [total, entries]
  induction t.slots with
  | nil => rfl
  | cons slot slots ih =>
      cases slot with
      | none => simpa [List.reduceOption_cons_of_none] using ih
      | some x => simpa [List.reduceOption_cons_of_some] using ih

@[simp] theorem total_empty (f : α → ℕ) : (empty α n).total f = 0 := by
  simp [total_eq_slots, empty]

theorem le_total {i : ℕ} {x : α} (h : t.at? i = some x) (f : α → ℕ) : f x ≤ t.total f := by
  have hmem : x ∈ t.entries := mem_entries.mpr ⟨i, h⟩
  exact List.le_sum_of_mem (List.mem_map_of_mem hmem)

/-- Putting an entry exchanges one summand. -/
theorem total_put {i : ℕ} (hi : i < n) (x : α) (f : α → ℕ) :
    (t.put i x).total f + (t.at? i).elim 0 f = t.total f + f x := by
  have hlt : i < t.slots.length := by rw [t.length_slots]; exact hi
  have hslot : t.at? i = t.slots[i] := by
    simp only [at?, List.getElem?_eq_getElem hlt, Option.join_some]
  have hsplit : t.slots = t.slots.take i ++ t.slots[i] :: t.slots.drop (i + 1) := by
    rw [List.getElem_cons_drop, List.take_append_drop]
  have hput : (t.put i x).slots = t.slots.take i ++ some x :: t.slots.drop (i + 1) :=
    List.set_eq_take_append_cons_drop.trans (if_pos hlt)
  rw [total_eq_slots, total_eq_slots, hslot, hput]
  conv_rhs => rw [hsplit]
  simp only [List.map_append, List.map_cons, List.sum_append, List.sum_cons, Option.elim_some]
  omega

theorem total_map (t : SlotTable α n) (g : α → α) (f : α → ℕ) :
    (t.map g).total f = t.total fun x => f (g x) := by
  rw [total_eq_slots, total_eq_slots, map, List.map_map]
  congr 2
  funext slot
  cases slot <;> rfl

/-- What is kept and what is not make up the whole. -/
theorem total_retain (t : SlotTable α n) (keep : α → Bool) (f : α → ℕ) :
    t.total f = (t.retain keep).total f + (t.retain fun x => !keep x).total f := by
  obtain ⟨slots, hslots⟩ := t
  simp only [total_eq_slots, retain, List.map_map]
  clear hslots
  induction slots with
  | nil => rfl
  | cons slot slots ih =>
      simp only [List.map_cons, List.sum_cons, Function.comp_apply] at ih ⊢
      rw [ih]
      cases slot with
      | none => simp
      | some x => cases hx : keep x <;> simp [Option.filter, hx] <;> omega

end Total

section Search

variable {t : SlotTable α n} {p : α → Bool}

/-- The slot found by a search for an entry always contains one. -/
theorem at?_of_position_any {i : ℕ} (h : t.position (fun slot => slot.any p) = some i) :
    ∃ x, t.at? i = some x ∧ p x = true := by
  obtain ⟨hi, hp, -⟩ := List.findIdx?_eq_some_iff_getElem.mp h
  obtain ⟨x, hx, hpx⟩ := (Option.any_eq_true p t.slots[i]).mp hp
  refine ⟨x, ?_, hpx⟩
  rw [at?_eq_some, List.getElem?_eq_getElem hi, hx]

theorem position_any_eq_none : t.position (fun slot => slot.any p) = none ↔
    ∀ x ∈ t.entries, p x = false := by
  simp only [position, List.findIdx?_eq_none_iff, entries, List.reduceOption_mem_iff]
  constructor
  · intro h x hx
    simpa using h (some x) hx
  · intro h slot hslot
    cases slot with
    | none => rfl
    | some x => simpa using h x hslot

theorem at?_of_position_isNone {i : ℕ} (h : t.position Option.isNone = some i) :
    i < n ∧ t.at? i = none := by
  obtain ⟨hi, hp, -⟩ := List.findIdx?_eq_some_iff_getElem.mp h
  have hn := t.length_slots
  refine ⟨by omega, ?_⟩
  simp only [at?, List.getElem?_eq_getElem hi, Option.join_some]
  exact Option.isNone_iff_eq_none.mp hp

/-- Without a free slot every slot is occupied. -/
theorem full_of_position_isNone (h : t.position Option.isNone = none) {i : ℕ} (hi : i < n) :
    ∃ x, t.at? i = some x := by
  have hlt : i < t.slots.length := by rw [t.length_slots]; exact hi
  have hsome := List.findIdx?_eq_none_iff.mp h _ (List.getElem_mem hlt)
  obtain ⟨x, hx⟩ := Option.isSome_iff_exists.mp (Option.isNone_eq_false_iff.mp hsome)
  exact ⟨x, by rw [at?_eq_some, List.getElem?_eq_getElem hlt, hx]⟩

/-- A table with slots has a first slot of least key, and it is at most the key
of every entry. -/
theorem minPosition_spec (t : SlotTable α n) (hn : 0 < n) (key : Option α → ℕ) :
    ∃ i, t.minPosition key = some i ∧ i < n ∧
      ∀ j x, t.at? j = some x → key (t.at? i) ≤ key (some x) := by
  have hlen := t.length_slots
  have hne : t.slots ≠ [] := by
    intro hnil
    rw [hnil, List.length_nil] at hlen
    omega
  refine ⟨t.slots.minIdxOn key hne, List.minIdxOn?_eq_some_minIdxOn hne, ?_⟩
  obtain ⟨hi, hmin, -⟩ := (List.minIdxOn_eq_iff (f := key) hne).mp rfl
  refine ⟨by omega, ?_⟩
  intro j x hx
  obtain ⟨hj, hjx⟩ := List.getElem?_eq_some_iff.mp (at?_eq_some.mp hx)
  have hle := hmin j hj
  rw [hjx] at hle
  simpa only [at?, List.getElem?_eq_getElem hi, Option.join_some] using hle

end Search

end SlotTable

end EmbeddedSdk
