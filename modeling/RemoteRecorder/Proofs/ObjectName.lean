import RemoteRecorder.ObjectName

/-!
# RemoteRecorder.Proofs.ObjectName

**Which texts name management objects.** A name is proper if its parts could not be taken apart in
another way: the domain holds no colon, a key no equals sign, no part of a property a comma, and
none of them is empty (`ObjectName.IsProper`).

* Exactly the texts of proper names are read, each as its name (`read_eq_ok_iff`). So a text has
  one domain and one list of properties, or none.
* What is wrong with any other text is reported (`Faulty`), and the message quotes the text.
* A text begins with the bytes of its domain, and its first character after them is a colon.
-/

namespace RemoteRecorder

/-! ## Cutting at every separator

A text is cut into pieces in one way, if none of them may hold the separator. The pieces are those
that put together make up the text, and this is how they are used. -/

namespace Text

variable {sep : Char} {cs : List Char} {ps : List (List Char)}

/-- The pieces are those of `List.splitOn`. -/
theorem pieces_eq_splitOn (sep : Char) (cs : List Char) : pieces sep cs = cs.splitOn sep := by
  induction cs with
  | nil => rw [pieces, List.splitOn_nil]
  | cons c cs ih =>
    rw [pieces, List.splitOn_cons_eq_if_modifyHead, ← ih]
    by_cases h : c = sep
    · simp [h]
    · cases hp : pieces sep cs with
      | nil => exact absurd hp (pieces_ne_nil sep cs)
      | cons p ps => simp [h]

theorem not_mem_of_mem_pieces {p : List Char} (h : p ∈ pieces sep cs) : sep ∉ p := by
  induction cs generalizing p with
  | nil => simp_all [pieces]
  | cons c cs ih =>
    rw [pieces] at h
    split at h
    · rcases List.mem_cons.1 h with rfl | h
      · simp
      · exact ih h
    · next hc =>
      split at h
      · next hp => exact absurd hp (pieces_ne_nil sep cs)
      · next q qs hp =>
        rw [hp] at ih
        rcases List.mem_cons.1 h with rfl | h
        · simp [ih List.mem_cons_self, Ne.symm hc]
        · exact ih (List.mem_cons_of_mem _ h)

/-- A text is cut into the parts that make it up and do not hold the separator. -/
theorem pieces_eq_iff :
    pieces sep cs = ps ↔ ps ≠ [] ∧ (∀ p ∈ ps, sep ∉ p) ∧ cs = [sep].intercalate ps := by
  constructor
  · rintro rfl
    refine ⟨pieces_ne_nil sep cs, fun p => not_mem_of_mem_pieces, ?_⟩
    rw [pieces_eq_splitOn, List.intercalate_splitOn]
  · rintro ⟨hne, hsep, rfl⟩
    rw [pieces_eq_splitOn, List.splitOn_intercalate sep hsep hne]

end Text

open Text (cut? cut?_eq_some_iff cut?_eq_none_iff pieces pieces_eq_iff)

/-! ## Proper names

A name could be written that is not read back, such as one with an equals sign in a key. Such names
are not proper; the conditions are just what makes the cuts of a text fall where its parts end. -/

/-- Whether a key and a value are the parts of a property. -/
structure KeyProperty.IsProper (p : KeyProperty) : Prop where
  key_ne_empty : p.key ≠ ""
  value_ne_empty : p.value ≠ ""
  equals_not_mem : '=' ∉ p.key.toList
  comma_not_mem_key : ',' ∉ p.key.toList
  comma_not_mem_value : ',' ∉ p.value.toList

namespace ObjectName

/-- Whether a domain and properties are the parts of a name. -/
structure IsProper (n : ObjectName) : Prop where
  domain_ne_empty : n.domain ≠ ""
  colon_not_mem : ':' ∉ n.domain.toList
  properties_ne_nil : n.properties ≠ []
  properties : ∀ p ∈ n.properties, p.IsProper

/-- What is wrong with a text, and that nothing in front of it is. -/
inductive Faulty : String → Invalid → Prop
  | noColon {raw : String} (h : ':' ∉ raw.toList) : Faulty raw (.noColon raw)
  | noDomain (rest : String) : Faulty (":" ++ rest) (.noDomain (":" ++ rest))
  | noProperties {domain : String} (h : domain ≠ "") (hc : ':' ∉ domain.toList) :
      Faulty (domain ++ ":") (.noProperties (domain ++ ":"))
  | badProperty {domain property : String} {before : List KeyProperty} {after : List String}
      {raw : String} (h : domain ≠ "") (hc : ':' ∉ domain.toList)
      (hb : ∀ p ∈ before, p.IsProper)
      (hp : ∀ p : KeyProperty, p.IsProper → propertyText p ≠ property)
      (ha : ∀ s ∈ property :: after, ',' ∉ s.toList)
      (heq : raw =
        domain ++ ":" ++ ",".intercalate (before.map propertyText ++ property :: after)) :
      Faulty raw (.badProperty property raw)

variable {raw : String} {cs : List Char} {css : List (List Char)} {p : KeyProperty}
  {ps : List KeyProperty}

/-! ## Reading properties

The properties are read from left to right, and the first text that is none is reported. This is a
dichotomy: either all are texts of properties, or there is a first that is not. -/

theorem toList_ne_nil {s : String} (h : s ≠ "") : s.toList ≠ [] := by
  intro hs
  exact h (String.toList_inj.1 hs)

theorem toList_propertyText (p : KeyProperty) :
    (propertyText p).toList = p.key.toList ++ '=' :: p.value.toList := by
  simp [propertyText]

theorem comma_not_mem_propertyText (h : p.IsProper) : ',' ∉ (propertyText p).toList := by
  simp [toList_propertyText, h.comma_not_mem_key, h.comma_not_mem_value]

/-- A part without a comma is read as the property whose text it is. -/
theorem readProperty?_eq_some_iff (hc : ',' ∉ cs) :
    readProperty? cs = some p ↔ p.IsProper ∧ (propertyText p).toList = cs := by
  constructor
  · intro h
    unfold readProperty? at h
    split at h
    · next k key v value hcut =>
      obtain ⟨rfl, hkey⟩ := cut?_eq_some_iff.1 hcut
      cases h
      simp only [List.mem_append, not_or] at hc
      refine ⟨⟨by simp [← String.toList_inj], by simp [← String.toList_inj], ?_, ?_, ?_⟩, ?_⟩
      · simpa using hkey
      · simpa using hc.1
      · simpa using hc.2
      · simp [toList_propertyText]
    · cases h
  · rintro ⟨⟨hk, hv, hkey, -, -⟩, rfl⟩
    obtain ⟨k, key, heq⟩ := List.exists_cons_of_ne_nil (toList_ne_nil hk)
    obtain ⟨v, value, heq'⟩ := List.exists_cons_of_ne_nil (toList_ne_nil hv)
    rw [toList_propertyText, readProperty?, cut?_eq_some_iff.2 ⟨rfl, hkey⟩, heq, heq']
    simp only [← heq, ← heq', String.ofList_toList]

/-- The texts of properties are read as these properties. -/
theorem readProperties_map (h : ∀ p ∈ ps, p.IsProper) :
    readProperties raw (ps.map fun p => (propertyText p).toList) = .ok ps := by
  induction ps with
  | nil => rfl
  | cons p ps ih =>
    obtain ⟨hp, hps⟩ := List.forall_mem_cons.1 h
    have head := (readProperty?_eq_some_iff (comma_not_mem_propertyText hp)).2 ⟨hp, rfl⟩
    rw [List.map_cons, readProperties, head, ih hps]
    rfl

/-- Either all parts are texts of properties, or the first that is none is reported. -/
theorem readProperties_cases (raw : String) (hc : ∀ cs ∈ css, ',' ∉ cs) :
    ∃ ps, (∀ p ∈ ps, p.IsProper) ∧
      (css = ps.map (fun p => (propertyText p).toList) ∧ readProperties raw css = .ok ps ∨
      ∃ cs rest, css = ps.map (fun p => (propertyText p).toList) ++ cs :: rest ∧
        readProperty? cs = none ∧
        readProperties raw css = .error (.badProperty (String.ofList cs) raw)) := by
  induction css with
  | nil => exact ⟨[], nofun, .inl ⟨rfl, rfl⟩⟩
  | cons cs css ih =>
    obtain ⟨hcs, hcss⟩ := List.forall_mem_cons.1 hc
    rw [readProperties]
    cases hp : readProperty? cs with
    | none => exact ⟨[], nofun, .inr ⟨cs, css, rfl, hp, rfl⟩⟩
    | some p =>
      obtain ⟨hproper, rfl⟩ := (readProperty?_eq_some_iff hcs).1 hp
      obtain ⟨ps, hps, hrest⟩ := ih hcss
      refine ⟨p :: ps, List.forall_mem_cons.2 ⟨hproper, hps⟩, ?_⟩
      rcases hrest with ⟨rfl, hread⟩ | ⟨bad, rest, rfl, hbad, hread⟩
      · exact .inl ⟨rfl, by rw [hread]; rfl⟩
      · exact .inr ⟨bad, rest, rfl, hbad, by rw [hread]; rfl⟩

/-! ## Reading names

The cuts are made at the first colon, at every comma, and in each piece at the first equals sign.
Proper names are read back since none of these is in a part where it would be found too early. -/

variable {n : ObjectName}

theorem toList_text (n : ObjectName) : n.text.toList =
    n.domain.toList ++
      ':' :: [','].intercalate (n.properties.map fun p => (propertyText p).toList) := by
  simp [text, String.toList_intercalate, Function.comp_def]

/-- The text of a name is read as the name. -/
theorem read_text (h : n.IsProper) : read n.text = .ok n := by
  obtain ⟨hdomain, hcolon, hne, hproperties⟩ := h
  have texts : pieces ',' ([','].intercalate (n.properties.map fun p => (propertyText p).toList)) =
      n.properties.map fun p => (propertyText p).toList := by
    refine pieces_eq_iff.2 ⟨by simpa using hne, ?_, rfl⟩
    rintro cs hcs
    obtain ⟨p, hp, rfl⟩ := List.mem_map.1 hcs
    exact comma_not_mem_propertyText (hproperties p hp)
  have notNil : [','].intercalate (n.properties.map fun p => (propertyText p).toList) ≠ [] := by
    intro hnil
    rw [hnil] at texts
    obtain ⟨p, hp⟩ := List.exists_mem_of_ne_nil _ hne
    have empty : (propertyText p).toList ∈ [([] : List Char)] := by
      show _ ∈ pieces ',' []
      rw [texts]
      exact List.mem_map_of_mem hp
    simp [toList_propertyText] at empty
  obtain ⟨d, domain, heq⟩ := List.exists_cons_of_ne_nil (toList_ne_nil hdomain)
  obtain ⟨c, chars, heq'⟩ := List.exists_cons_of_ne_nil notNil
  rw [read, toList_text, cut?_eq_some_iff.2 ⟨rfl, hcolon⟩, heq, heq']
  simp only [← heq, ← heq', texts, readProperties_map hproperties, String.ofList_toList]
  rfl

/-- What comes of the text behind the colon. -/
theorem readProperties_pieces {domain : String} {rest : List Char} (hne : domain ≠ "")
    (hcolon : ':' ∉ domain.toList) (hraw : raw = domain ++ ":" ++ String.ofList rest) :
    (∃ ps, readProperties raw (pieces ',' rest) = .ok ps ∧
      IsProper ⟨domain, ps⟩ ∧ text ⟨domain, ps⟩ = raw) ∨
    ∃ i, readProperties raw (pieces ',' rest) = .error i ∧ Faulty raw i := by
  obtain ⟨hpieces, hcomma, hrest⟩ := pieces_eq_iff.1 (rfl : pieces ',' rest = _)
  obtain ⟨ps, hps, ⟨heq, hread⟩ | ⟨bad, after, heq, hbad, hread⟩⟩ :=
    readProperties_cases raw hcomma
  · refine .inl ⟨ps, hread, ⟨hne, hcolon, ?_, hps⟩, ?_⟩
    · rintro rfl
      exact hpieces heq
    · rw [← String.toList_inj, toList_text, ← heq, ← hrest, hraw]
      simp
  · rw [heq] at hcomma hrest
    have noComma : ',' ∉ bad := hcomma bad (by simp)
    have noProperty : ∀ p : KeyProperty, p.IsProper → propertyText p ≠ String.ofList bad := by
      intro p hp htext
      have chars : (propertyText p).toList = bad := by rw [htext, String.toList_ofList]
      have read := (readProperty?_eq_some_iff noComma).2 ⟨hp, chars⟩
      rw [hbad] at read
      cases read
    have noCommas : ∀ s ∈ String.ofList bad :: after.map String.ofList, ',' ∉ s.toList := by
      intro s hs
      rw [← List.map_cons, List.mem_map] at hs
      obtain ⟨cs, hcs, rfl⟩ := hs
      rw [String.toList_ofList]
      exact hcomma cs (List.mem_append_right _ hcs)
    have parts : raw = domain ++ ":" ++
        ",".intercalate (ps.map propertyText ++ String.ofList bad :: after.map String.ofList) := by
      rw [hraw, hrest, ← String.toList_inj]
      simp [String.toList_intercalate, Function.comp_def]
    exact .inr ⟨_, hread, .badProperty hne hcolon hps noProperty noCommas parts⟩

/-- A text is the text of a proper name, which is read, or what is wrong with it is reported. -/
theorem read_cases (raw : String) :
    (∃ n, read raw = .ok n ∧ n.IsProper ∧ n.text = raw) ∨
    ∃ i, read raw = .error i ∧ Faulty raw i := by
  rw [read]
  cases hcut : cut? ':' raw.toList with
  | none => exact .inr ⟨_, rfl, .noColon (cut?_eq_none_iff.1 hcut)⟩
  | some parts =>
    obtain ⟨domain, rest⟩ := parts
    obtain ⟨heq, hcolon⟩ := cut?_eq_some_iff.1 hcut
    have hraw : raw = String.ofList domain ++ ":" ++ String.ofList rest := by
      rw [← String.toList_inj, heq]
      simp
    rw [← String.toList_ofList (l := domain)] at hcolon
    cases domain with
    | nil =>
      have faulty : Faulty raw (.noDomain raw) := hraw ▸ .noDomain (String.ofList rest)
      exact .inr ⟨_, rfl, faulty⟩
    | cons d domain =>
      have hne : String.ofList (d :: domain) ≠ "" := by simp [← String.toList_inj]
      cases rest with
      | nil =>
        have hraw : raw = String.ofList (d :: domain) ++ ":" := by simpa using hraw
        have faulty : Faulty raw (.noProperties raw) := hraw ▸ .noProperties hne hcolon
        exact .inr ⟨_, rfl, faulty⟩
      | cons c rest =>
        rcases readProperties_pieces hne hcolon hraw with ⟨ps, hread, hps⟩ | ⟨i, hread, hi⟩
        · exact .inl ⟨_, by simp only [hread]; rfl, hps⟩
        · exact .inr ⟨i, by simp only [hread]; rfl, hi⟩

/-- Exactly the texts of proper names are read. -/
theorem read_eq_ok_iff : read raw = .ok n ↔ n.IsProper ∧ n.text = raw := by
  constructor
  · intro h
    rcases read_cases raw with ⟨m, hm, hproper⟩ | ⟨i, hi, -⟩
    · obtain rfl : m = n := Except.ok.inj (hm.symm.trans h)
      exact hproper
    · rw [hi] at h
      cases h
  · rintro ⟨h, rfl⟩
    exact read_text h

/-- Whatever is wrong with a text, the message ends with the text in quotes. -/
theorem Faulty.message {i : Invalid} (h : Faulty raw i) :
    ∃ cause, i.message = cause ++ Text.quoted raw := by
  cases h with
  | noColon | noDomain | noProperties => exact ⟨_, rfl⟩
  | @badProperty _ property =>
    exact ⟨"malformed key property " ++ Text.quoted property ++ " in ", rfl⟩

/-! ## The bytes of a domain

The domain is the beginning of the text, up to a position. Positions count bytes, and one of them
may be in the middle of a character; this one is not. -/

/-- A name begins with its domain, at whose end a character begins. -/
theorem domain_at_start (n : ObjectName) :
    n.domain.rawEndPos.IsValid n.text ∧
      n.text.toByteArray.extract 0 n.domain.utf8ByteSize = n.domain.toByteArray := by
  have parts : n.text = n.domain ++ (":" ++ ",".intercalate (n.properties.map propertyText)) := by
    rw [text, String.append_assoc]
  refine ⟨String.Pos.Raw.isValid_iff_exists_append.2 ⟨_, _, parts, rfl⟩, ?_⟩
  rw [parts, String.toByteArray_append]
  exact ByteArray.extract_append_eq_left rfl

/-- Exactly the texts are read that are a domain, a colon and properties between commas, each a key,
an equals sign and a value. The name that is read has these parts, of which the text has no others,
and the domain is what the first bytes of the text spell. For any other text there is a message
about what is wrong with it. -/
theorem proper_names_read (raw : String) :
    (∀ n : ObjectName, read raw = .ok n ↔ n.IsProper ∧ raw =
      n.domain ++ ":" ++ ",".intercalate (n.properties.map fun p => p.key ++ "=" ++ p.value)) ∧
    (∀ n : ObjectName, read raw = .ok n → n.text = raw ∧ n.domain.rawEndPos.IsValid raw ∧
      raw.toByteArray.extract 0 n.domain.utf8ByteSize = n.domain.toByteArray) ∧
    ((¬ ∃ n : ObjectName, n.IsProper ∧ n.text = raw) → ∃ i, read raw = .error i ∧ Faulty raw i ∧
      ∃ cause, i.message = cause ++ Text.quoted raw) := by
  refine ⟨?_, ?_, ?_⟩
  · intro n
    rw [read_eq_ok_iff, @eq_comm _ raw]
    rfl
  · intro n h
    obtain ⟨-, rfl⟩ := read_eq_ok_iff.1 h
    exact ⟨rfl, domain_at_start n⟩
  · intro h
    rcases read_cases raw with ⟨n, -, hproper⟩ | ⟨i, hi, hfaulty⟩
    · exact (h ⟨n, hproper⟩).elim
    · exact ⟨i, hi, hfaulty, hfaulty.message⟩

-- A value may hold a colon and an equals sign, and a domain a comma.
example : (read "a,b:key=v:w=x").toOption = some ⟨"a,b", [⟨"key", "v:w=x"⟩]⟩ := by rfl

end ObjectName

end RemoteRecorder
