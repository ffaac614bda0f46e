import Mathlib.Data.List.DropRight
import RemoteRecorder.Proofs.Text.Occurrence
import RemoteRecorder.Text.Blank

/-!
# RemoteRecorder.Proofs.Text.Blank

**Trimmed texts.** `Trimmed` says what is left of a text when white space is cut off at both ends,
and trimming comes to this (`trimChars_eq_iff`). A text without white space is left as it is, and so
is one that has been trimmed.
-/

namespace RemoteRecorder.Text

variable {cs : List Char}

/-- White space is cut off at the beginning, then at the end. -/
theorem trimChars_eq (cs : List Char) :
    trimChars cs = (cs.dropWhile isBlank).rdropWhile isBlank := rfl

/-- What is left of a text without the white space around it: a part that neither begins nor ends
with white space. It is empty if the text is nothing but white space. -/
inductive Trimmed : List Char → List Char → Prop
  | cut {before rest after : List Char} (hb : ∀ c ∈ before, isBlank c = true)
      (ha : ∀ c ∈ after, isBlank c = true) (first : ∀ c ∈ rest.head?, isBlank c = false)
      (last : ∀ c ∈ rest.getLast?, isBlank c = false) : Trimmed (before ++ (rest ++ after)) rest

/-- What has been trimmed has nothing more to be cut off. -/
theorem Trimmed.again {ds : List Char} (h : Trimmed cs ds) : Trimmed ds ds := by
  obtain ⟨-, -, first, last⟩ := h
  simpa using @Trimmed.cut [] ds [] nofun nofun first last

/-- Where a cut at the beginning ends, there is no white space. -/
theorem isBlank_of_head {c : Char} (h : c ∈ (cs.dropWhile isBlank).head?) : isBlank c = false := by
  have found := List.head?_dropWhile_not isBlank cs
  rw [h] at found
  simpa using found

theorem trimmed_trimChars (cs : List Char) : Trimmed cs (trimChars cs) := by
  obtain ⟨after, hafter⟩ := List.rdropWhile_prefix isBlank (cs.dropWhile isBlank)
  have first : ∀ c ∈ (trimChars cs).head?, isBlank c = false := by
    intro c hc
    obtain ⟨rest, hrest⟩ := List.head?_eq_some_iff.1 hc
    -- The cut at the end leaves the beginning as the first cut has made it.
    have whole : cs.dropWhile isBlank = c :: (rest ++ after) := by
      rw [← hafter, ← trimChars_eq, hrest, List.cons_append]
    exact isBlank_of_head (List.head?_eq_some_iff.2 ⟨_, whole⟩)
  have last : ∀ c ∈ (trimChars cs).getLast?, isBlank c = false := by
    intro c hc
    rw [trimChars, List.getLast?_reverse] at hc
    exact isBlank_of_head hc
  have cut : cs.takeWhile isBlank ++
      (trimChars cs ++ (cs.dropWhile isBlank).rtakeWhile isBlank) = cs := by
    rw [trimChars_eq, List.rdropWhile_append_rtakeWhile, List.takeWhile_append_dropWhile]
  have trimmed := @Trimmed.cut (cs.takeWhile isBlank) (trimChars cs)
    ((cs.dropWhile isBlank).rtakeWhile isBlank) (fun c hc => List.mem_takeWhile_imp hc)
    (fun c hc => List.mem_rtakeWhile_imp hc) first last
  rwa [cut] at trimmed

/-- Trimming cuts off all the white space at both ends, and nothing else. -/
theorem trimChars_eq_iff {ds : List Char} : trimChars cs = ds ↔ Trimmed cs ds := by
  refine ⟨fun h => h ▸ trimmed_trimChars cs, ?_⟩
  rintro @⟨before, _, after, hb, ha, first, last⟩
  cases ds with
  | nil =>
    have blank : (before ++ ([] ++ after)).dropWhile isBlank = [] := by
      rw [List.dropWhile_append_of_pos hb, List.nil_append]
      simpa using ha
    rw [trimChars_eq, blank]
    rfl
  | cons d ds =>
    have next : ∀ c ∈ (d :: ds ++ after).head?, isBlank c = false := first
    have front : (before ++ (d :: ds ++ after)).dropWhile isBlank = d :: ds ++ after :=
      (takeWhile_append_of_head hb next).2
    have back : (after.reverse ++ (d :: ds).reverse).dropWhile isBlank = (d :: ds).reverse := by
      refine (takeWhile_append_of_head (fun c hc => ha c (List.mem_reverse.1 hc)) ?_).2
      rwa [List.head?_reverse]
    rw [trimChars, front, List.reverse_append, back, List.reverse_reverse]

/-- A text without white space is left as it is. -/
theorem trimChars_eq_self (h : ∀ c ∈ cs, isBlank c = false) : trimChars cs = cs := by
  refine trimChars_eq_iff.2 ?_
  have whole := @Trimmed.cut [] cs [] nofun nofun (fun c hc => h c (List.mem_of_mem_head? hc))
    (fun c hc => h c (List.mem_of_mem_getLast? hc))
  simpa using whole

theorem trimChars_trimChars (cs : List Char) : trimChars (trimChars cs) = trimChars cs :=
  trimChars_eq_iff.2 (trimmed_trimChars cs).again

theorem trim_trim (s : String) : trim (trim s) = trim s := by
  rw [trim, toList_trim, trimChars_trimChars]
  rfl

/-- The same for texts that are not taken apart into characters. -/
theorem trim_eq_iff {s t : String} : trim s = t ↔ Trimmed s.toList t.toList := by
  rw [← trimChars_eq_iff, ← toList_trim, String.toList_inj]

/-- A text without white space is left as it is. -/
theorem trim_eq_self {s : String} (h : ∀ c ∈ s.toList, isBlank c = false) : trim s = s := by
  rw [trim, trimChars_eq_self h, String.ofList_toList]

end RemoteRecorder.Text
