import RemoteRecorder.Proofs.Table.Filling
import RemoteRecorder.Table.Workbench

/-!
# RemoteRecorder.Proofs.Table.Workbench

**Tables on a workbench.** Whatever is done on a workbench, its tables have been filled row
by row, and their types have been accepted (`filled_of_play`). So what holds of such tables
holds of every table that a workbench shows.
-/

namespace RemoteRecorder.Table

/-- Whether a table has an accepted type, and holds what has been put into it. -/
inductive Filled : Table → Prop where
  | intro {rowName name : String} {items index : List String} {r : RowType} {type : TableType}
      (hr : RowType.ofItems rowName items = .ok r) (ht : TableType.ofIndex name r index = .ok type)
      (rows : List Row) : Filled ((empty type).fill rows)

/-- One more row, taken or refused, leaves a table filled. -/
theorem Filled.offer {t : Table} (h : t.Filled) (row : Row) : (t.offer row).Filled := by
  obtain ⟨hr, ht, rows⟩ := h
  have hfill {type : TableType} :
      ((empty type).fill rows).offer row = (empty type).fill (rows ++ [row]) := by
    simp [fill]
  rw [hfill]
  exact .intro hr ht _

namespace Workbench

/-- What holds of everything on a workbench. -/
structure Sound (w : Workbench) : Prop where
  rowTypes : ∀ r, some r ∈ w.rowTypes → ∃ name items, RowType.ofItems name items = .ok r
  tableTypes : ∀ type, some type ∈ w.tableTypes → ∃ rowName items r name index,
    RowType.ofItems rowName items = .ok r ∧ TableType.ofIndex name r index = .ok type
  tables : ∀ t, some t ∈ w.tables → t.Filled

theorem mem_of_slot? {α : Type} {slots : List (Option α)} {i : Nat} {a : α}
    (h : slot? slots i = some a) : some a ∈ slots := by
  unfold slot? at h
  exact List.mem_of_getElem? (Option.join_eq_some_iff.1 h)

variable {α : Type} {answer : α → Answer} {result : Option (Except SchemaError α)}

/-- Only what has been built without a failure goes into a slot. -/
theorem built_eq_some {a : α} (h : some a = (built answer result).1) : result = some (.ok a) := by
  match result with
  | none => cases h
  | some (.error e) => cases h
  | some (.ok b) =>
    cases h
    rfl

theorem built_eq_table {t : Table} (h : (built answer result).2 = .table t) :
    ∃ a, result = some (.ok a) ∧ answer a = .table t := by
  match result with
  | none => cases h
  | some (.error e) => cases h
  | some (.ok a) => exact ⟨a, rfl, h⟩

variable {w : Workbench}

/-- The answer to a step is no table, or one that has been filled. -/
def Answer.IsSound (answer : Answer) : Prop := ∀ t, answer = .table t → t.Filled

theorem Sound.empty (h : w.Sound) {i : Nat} {type : TableType}
    (hi : slot? w.tableTypes i = some type) : (Table.empty type).Filled := by
  obtain ⟨_, _, _, _, _, hr, ht⟩ := h.tableTypes type (mem_of_slot? hi)
  exact .intro hr ht []

/-- Every step leaves a workbench sound, and shows no table that has not been filled. -/
theorem Sound.step (h : w.Sound) (s : Step) : (w.step s).1.Sound ∧ (w.step s).2.IsSound := by
  cases s with
  | rowType name items =>
    refine ⟨⟨?_, h.tableTypes, h.tables⟩, ?_⟩
    · intro r hr
      rcases List.mem_append.1 hr with hr | hr
      · exact h.rowTypes r hr
      · have hbuilt := built_eq_some (List.mem_singleton.1 hr)
        exact ⟨name, items, Option.some.inj hbuilt⟩
    · intro t ht
      obtain ⟨r, -, hanswer⟩ := built_eq_table ht
      cases hanswer
  | tableType i name index =>
    refine ⟨⟨h.rowTypes, ?_, h.tables⟩, ?_⟩
    · intro type htype
      rcases List.mem_append.1 htype with htype | htype
      · exact h.tableTypes type htype
      · have hbuilt := built_eq_some (List.mem_singleton.1 htype)
        obtain ⟨r, hr, hindex⟩ := Option.map_eq_some_iff.1 hbuilt
        obtain ⟨rowName, items, hitems⟩ := h.rowTypes r (mem_of_slot? hr)
        exact ⟨rowName, items, r, name, index, hitems, hindex⟩
    · intro t ht
      obtain ⟨type, -, hanswer⟩ := built_eq_table ht
      cases hanswer
  | row i values =>
    refine ⟨⟨h.rowTypes, h.tableTypes, h.tables⟩, ?_⟩
    intro t ht
    obtain ⟨r, -, hanswer⟩ := built_eq_table ht
    cases hanswer
  | table i =>
    have filled {t : Table} (hbuilt : (slot? w.tableTypes i).map
        (fun type => (.ok (Table.empty type) : Except SchemaError Table)) = some (.ok t)) :
        t.Filled := by
      obtain ⟨type, htype, hempty⟩ := Option.map_eq_some_iff.1 hbuilt
      cases hempty
      exact h.empty htype
    refine ⟨⟨h.rowTypes, h.tableTypes, ?_⟩, ?_⟩
    · intro t ht
      rcases List.mem_append.1 ht with ht | ht
      · exact h.tables t ht
      · exact filled (built_eq_some (List.mem_singleton.1 ht))
    · intro t ht
      obtain ⟨t', hbuilt, hanswer⟩ := built_eq_table ht
      cases hanswer
      exact filled hbuilt
  | put i j =>
    rw [Workbench.step]
    split
    · next t row ht hrow =>
      have filled := (h.tables t (mem_of_slot? ht)).offer row
      -- A row that is refused changes nothing, so only an accepted one leaves another table.
      cases hput : t.put row with
      | ok t' =>
        rw [offer_of_ok hput] at filled
        refine ⟨⟨h.rowTypes, h.tableTypes, ?_⟩, ?_⟩
        · intro u hu
          rcases List.mem_or_eq_of_mem_set hu with hu | hu
          · exact h.tables u hu
          · cases hu
            exact filled
        · intro u hu
          cases hu
          exact filled
      | error e => exact ⟨h, nofun⟩
    · exact ⟨h, nofun⟩
  | get i j item =>
    rw [Workbench.step]
    split
    · exact ⟨h, nofun⟩
    · exact ⟨h, nofun⟩
  | compare i j =>
    rw [Workbench.step]
    split
    · exact ⟨h, nofun⟩
    · exact ⟨h, nofun⟩

theorem sound_first : Sound {} where
  rowTypes := nofun
  tableTypes := nofun
  tables := nofun

/-- Every table that a workbench shows has been filled, with a type that has been accepted. -/
theorem filled_of_play (steps : List Step) (t : Table) (h : .table t ∈ play steps) : t.Filled := by
  have from_here : ∀ (steps : List Step) (w : Workbench), w.Sound →
      ∀ answer ∈ play.go w steps, answer.IsSound := by
    intro steps
    induction steps with
    | nil =>
      intro w hw answer ha
      cases ha
    | cons s rest ih =>
      intro w hw answer ha
      obtain ⟨hstep, hanswer⟩ := hw.step s
      rcases List.mem_cons.1 ha with rfl | ha
      · exact hanswer
      · exact ih _ hstep answer ha
  exact from_here steps {} sound_first _ h t rfl

end Workbench

end RemoteRecorder.Table
