import Mathlib

/-! # Keyed tables

A table is a list of rows in insertion order together with the proof that no two
rows share their primary key.  `get`, `insert?`, `update` with `affected`, and
`delete` are the statements against one table; every one of them is characterised
by its effect on `get`.
-/

namespace AISummoner.Relational

structure Table {κ ρ : Type} (key : ρ → κ) where
  rows : List ρ
  keysNodup : (rows.map key).Nodup

namespace Table

variable {κ ρ : Type} {key : ρ → κ}

def empty : Table key := ⟨[], List.nodup_nil⟩

variable {row : ρ} {ins : Table key} {change : ρ → ρ}

section Get

variable [DecidableEq κ]

def get (table : Table key) (k : κ) : Option ρ :=
  table.rows.find? (fun row => key row = k)

theorem key_of_get {tb : Table key} {k : κ} (hf : tb.get k = some row) : key row = k := by
  simpa using List.find?_some hf

theorem mem_of_get {tb : Table key} {k : κ} (hf : tb.get k = some row) : row ∈ tb.rows :=
  List.mem_of_find?_eq_some hf

theorem get_of_mem {tb : Table key} (hm : row ∈ tb.rows) : tb.get (key row) = some row := by
  obtain ⟨rows, nodup⟩ := tb
  change row ∈ rows at hm
  change rows.find? _ = some row
  induction rows with
  | nil => cases hm
  | cons head _ ih =>
    simp only [List.map_cons, List.nodup_cons] at nodup
    rw [List.find?_cons]
    rcases List.mem_cons.mp hm with rfl | k'
    · simp
    have ne : key head ≠ key row := fun h =>
      nodup.1 (h ▸ List.mem_map_of_mem k')
    simp only [ne, decide_false]
    exact ih nodup.2 k'

theorem get_eq_none {tb : Table key} {k : κ} : tb.get k = none ↔ ∀ row ∈ tb.rows, key row ≠ k := by
  simp [get, List.find?_eq_none]

end Get

section Insert

variable [DecidableEq κ]

/-- Append a row.  `none` is the primary-key violation. -/
def insert? (table : Table key) (row : ρ) : Option (Table key) :=
  if vacant : table.get (key row) = none then
    some ⟨table.rows ++ [row], by
      rw [List.map_append, List.nodup_append]
      refine ⟨table.keysNodup, by simp, ?_⟩
      intro first member second singleton
      obtain ⟨other, inTable, rfl⟩ := List.mem_map.mp member
      rw [List.map_singleton, List.mem_singleton] at singleton
      rw [singleton]
      exact get_eq_none.mp vacant other inTable⟩
  else none

theorem insert?_eq_some {tb : Table key} (ha : tb.insert? row = some ins) :
    tb.get (key row) = none ∧ ins.rows = tb.rows ++ [row] := by
  unfold insert? at ha
  split at ha
  next vacant => cases ha; exact ⟨vacant, rfl⟩
  next => cases ha

theorem get_of_insert? {tb : Table key} (ha : tb.insert? row = some ins) (k : κ) :
    ins.get k = if k = key row then some row else tb.get k := by
  obtain ⟨vacant, happ⟩ := insert?_eq_some ha
  unfold get
  rw [happ, List.find?_append]
  by_cases h : k = key row
  · subst h
    have hab : tb.rows.find? (fun o => decide (key o = key row)) = none := vacant
    simp [hab]
  · have ne : ¬ key row = k := fun he => h he.symm
    simp [h, ne]

end Insert

/-! ## Updates and deletions -/

/-- Rewrite every row satisfying `condition`.  An update never moves a row to
    another primary key. -/
def update (table : Table key) (condition : ρ → Bool) (change : ρ → ρ)
    (keepsKey : ∀ row, key (change row) = key row := by intro; rfl) : Table key :=
  ⟨table.rows.map (fun row => if condition row then change row else row), by
    have sameKeys : (table.rows.map (fun row => if condition row then change row else row)).map key =
        table.rows.map key := by
      rw [List.map_map]
      apply List.map_congr_left
      intro row _
      by_cases applies : condition row <;> simp [applies, keepsKey]
    rw [sameKeys]
    exact table.keysNodup⟩

theorem update_of_none {tb : Table key} {gd : ρ → Bool} {kk : ∀ row, key (change row) = key row}
    (unmatched : ∀ row ∈ tb.rows, gd row = false) : tb.update gd change kk = tb := by
  have h : tb.rows.map (fun row => if gd row then change row else row) = tb.rows := by
    conv_rhs => rw [← List.map_id tb.rows]
    apply List.map_congr_left
    intro row hm
    simp [unmatched row hm]
  obtain ⟨rows, _⟩ := tb
  simp only [update, Table.mk.injEq]
  exact h

def affected (table : Table key) (condition : ρ → Bool) : Nat :=
  table.rows.countP condition

def delete (table : Table key) (condition : ρ → Bool) : Table key :=
  ⟨table.rows.filter (fun row => !condition row),
    (List.Sublist.map key List.filter_sublist).nodup table.keysNodup⟩

section Effects

variable [DecidableEq κ]

@[simp] theorem get_update (tb : Table key) (gd : ρ → Bool) (change : ρ → ρ)
    (hkk : ∀ row, key (change row) = key row) (k : κ) : (tb.update gd change hkk).get k =
      (tb.get k).map (fun row => if gd row then change row else row) := by
  unfold get update
  rw [List.find?_map]
  congr 2
  funext row
  by_cases applies : gd row <;> simp [applies, hkk]

@[simp] theorem get_delete (tb : Table key) (gd : ρ → Bool) (k : κ) :
    (tb.delete gd).get k = (tb.get k).filter (fun row => !gd row) := by
  have inRows : ∀ row, row ∈ (tb.delete gd).rows ↔ row ∈ tb.rows ∧ gd row = false := by
    simp [delete]
  cases hf : tb.get k with
  | none =>
    rw [Option.filter_none, get_eq_none]
    intro row hm
    exact get_eq_none.mp hf row ((inRows row).mp hm).1
  | some row =>
    have hky := key_of_get hf
    subst hky
    cases applies : gd row with
    | true =>
      simp only [Option.filter_some, applies, Bool.not_true, Bool.false_eq_true, if_false]
      rw [get_eq_none]
      intro o hm sameKey
      obtain ⟨inTable, kept⟩ := (inRows o).mp hm
      have otherFound := get_of_mem inTable
      rw [sameKey, hf] at otherFound
      cases otherFound
      rw [applies] at kept
      cases kept
    | false =>
      simp only [Option.filter_some, applies, Bool.not_false, if_true]
      exact get_of_mem ((inRows row).mpr ⟨mem_of_get hf, applies⟩)

/-! ## Row transitions

A relation between a row before and after a statement holds for every key if it holds
of the rows the statement leaves alone and of those it touches. -/

section Transitions

variable {R : Option ρ → Option ρ → Prop} (kept : ∀ row, R row row) {tb : Table key} {k : κ}
  {gd : ρ → Bool}
include kept

theorem relates_update (hkk : ∀ row, key (change row) = key row)
    (happ : ∀ row, tb.get k = some row → gd row → R (some row) (some (change row))) :
    R (tb.get k) ((tb.update gd change hkk).get k) := by
  rw [get_update]
  cases hf : tb.get k with
  | none => exact kept none
  | some row =>
    rw [Option.map_some]
    split
    next applies => exact happ row hf applies
    next => exact kept _

theorem relates_delete (dropped : ∀ row, tb.get k = some row → gd row →
      R (some row) none) : R (tb.get k) ((tb.delete gd).get k) := by
  rw [get_delete]
  cases hf : tb.get k with
  | none => exact kept none
  | some row =>
    cases applies : gd row with
    | true => simpa [Option.filter_some, applies] using dropped row hf applies
    | false => simpa [Option.filter_some, applies] using kept (some row)

theorem relates_insert (ha : tb.insert? row = some ins)
    (created : R none (some row)) : R (tb.get k) (ins.get k) := by
  rw [get_of_insert? ha]
  split
  next same =>
    rw [same, (insert?_eq_some ha).1]
    exact created
  next => exact kept _

end Transitions

/-- Add a row in the place of the one with its key. -/
def put (table : Table key) (row : ρ) : Table key :=
  ⟨(table.delete fun other => key other = key row).rows ++ [row], by
    rw [List.map_append, List.nodup_append]
    refine ⟨(table.delete _).keysNodup, by simp, ?_⟩
    intro first member second singleton
    obtain ⟨other, inTable, rfl⟩ := List.mem_map.mp member
    rw [List.map_singleton, List.mem_singleton] at singleton
    rw [singleton]
    simpa [delete] using (List.mem_filter.mp inTable).2⟩

theorem get_put (tb : Table key) (row : ρ) (k : κ) :
    (tb.put row).get k = if k = key row then some row else tb.get k := by
  have rest := tb.get_delete (fun o => decide (key o = key row)) k
  unfold get at rest
  unfold put
  change ((tb.delete _).rows ++ [row]).find? _ = _
  rw [List.find?_append, rest]
  by_cases h : k = key row
  · subst h
    have gone : (tb.get (key row)).filter (fun o => !decide (key o = key row)) = none := by
      rw [Option.filter_eq_none_iff]
      intro o hf
      simp [key_of_get hf]
    unfold get at gone
    simp [gone]
  · have ne : ¬ key row = k := fun he => h he.symm
    have kept : (tb.get k).filter (fun o => !decide (key o = key row)) = tb.get k := by
      cases hf : tb.get k with
      | none => rfl
      | some o => simp [key_of_get hf, h]
    unfold get at kept
    simp [kept, ne, h, get]

theorem affected_key (tb : Table key) (k : κ) (gd : ρ → Bool) :
    tb.affected (fun row => decide (key row = k) && gd row) =
      if (tb.get k).any gd then 1 else 0 := by
  unfold affected get
  obtain ⟨rows, nodup⟩ := tb
  change rows.countP _ = if (rows.find? _).any gd then 1 else 0
  induction rows with
  | nil => rfl
  | cons head tail ih =>
    simp only [List.map_cons, List.nodup_cons] at nodup
    rw [List.countP_cons, List.find?_cons]
    by_cases h : key head = k
    · have noneLater : tail.countP (fun row => decide (key row = k) && gd row) = 0 := by
        rw [List.countP_eq_zero]
        intro row hm
        have ne : key row ≠ k := fun he =>
          nodup.1 (h ▸ he ▸ List.mem_map_of_mem hm)
        simp [ne]
      rw [noneLater]
      simp [h]
    · rw [ih nodup.2]
      simp [h]

theorem affected_key_eq_one {tb : Table key} {k : κ} {gd : ρ → Bool} :
    tb.affected (fun row => decide (key row = k) && gd row) = 1 ↔
      ∃ row, tb.get k = some row ∧ gd row := by
  rw [affected_key]
  cases tb.get k with
  | none => simp
  | some row => cases applies : gd row <;> simp [applies]

end Effects

end Table

end AISummoner.Relational
