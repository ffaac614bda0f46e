import RemoteRecorder.Json
import RemoteRecorder.Proofs.Json.Token

/-!
# RemoteRecorder.Proofs.Json

**Which texts spell a JSON value.** Every value has its tokens (`Json.tokens`), and a text spells
the value if it is made of these and white space (`Json.Spells`). Reading finds exactly the value
that a text spells (`parse?_eq_some_iff`), so a text spells one value at most.

The reader is a machine with a stack of open values. From any stack it takes the tokens of a value
and hands the value to the innermost open one (`foldlM_tokens`, by recursion on the value). In the
other direction, what the open values have taken is kept in step with the tokens read
(`Reader.Took`), and when nothing is open it is the tokens of the value.
-/

namespace RemoteRecorder.Json

open Token (Lays Apart)

/-! ## The tokens of a value -/

mutual

/-- The tokens of a value. -/
def tokens : Json → List Token
  | null => [.null]
  | bool b => [.bool b]
  | number spelling => [.number spelling]
  | string text => [.string text]
  | array items => .openArray :: (itemTokens items ++ [.closeArray])
  | object members => .openObject :: (memberTokens members ++ [.closeObject])

/-- The tokens of items, with commas between them. -/
def itemTokens : List Json → List Token
  | [] => []
  | [v] => v.tokens
  | v :: w :: vs => v.tokens ++ .comma :: itemTokens (w :: vs)

/-- The tokens of members, with commas between them. -/
def memberTokens : List (Option String × Json) → List Token
  | [] => []
  | [(key, v)] => .string key :: .colon :: v.tokens
  | (key, v) :: m :: ms => .string key :: .colon :: (v.tokens ++ .comma :: memberTokens (m :: ms))

end

variable {v : Json} {key : Option String} {items vs : List Json}
  {members ms : List (Option String × Json)} {fs : List Frame} {ts : List Token} {t : Token}
  {r r' : Reader}

/-- Whether a text spells a value. -/
def Spells (text : String) (v : Json) : Prop := Lays v.tokens text.toList

/-! ### Commas

A comma stands between items, and never behind the last. The open values have taken it behind each
of theirs, so the two ways to count commas have to be put together. -/

/-- The tokens of an item, and a comma. -/
def itemComma (v : Json) : List Token := v.tokens ++ [.comma]

/-- The tokens of a member, and a comma. -/
def memberComma (m : Option String × Json) : List Token :=
  .string m.1 :: .colon :: (m.2.tokens ++ [.comma])

theorem itemTokens_comma (hvs : vs ≠ []) : itemTokens vs ++ [.comma] = vs.flatMap itemComma := by
  induction vs with
  | nil => exact (hvs rfl).elim
  | cons v vs ih =>
    cases vs with
    | nil => simp [itemTokens, itemComma]
    | cons w vs =>
      rw [List.flatMap_cons, ← ih (by simp)]
      simp [itemTokens, itemComma]

theorem memberTokens_comma (hms : ms ≠ []) :
    memberTokens ms ++ [.comma] = ms.flatMap memberComma := by
  induction ms with
  | nil => exact (hms rfl).elim
  | cons m ms ih =>
    obtain ⟨key, v⟩ := m
    cases ms with
    | nil => simp [memberTokens, memberComma]
    | cons n ms =>
      rw [List.flatMap_cons, ← ih (by simp)]
      simp [memberTokens, memberComma]

/-! ## From the tokens to the value -/

/-- Where an item may come, any value may that does not close the array. -/
theorem step_firstItem (h : t ≠ .closeArray) :
    Reader.step ⟨fs, .firstItem⟩ t = Reader.value fs t := by
  unfold Reader.step
  split <;> simp_all

theorem step_firstKey (h : t ≠ .closeObject) :
    Reader.step ⟨fs, .firstKey⟩ t = Reader.key fs t := by
  unfold Reader.step
  split <;> simp_all

/-- Where the reader takes a value: anywhere but at the end of an array. -/
def TakesValue (fs : List Frame) (e : Expected) : Prop :=
  ∀ t ≠ Token.closeArray, Reader.step ⟨fs, e⟩ t = Reader.value fs t

/-- Where the reader takes a key: anywhere but at the end of an object. -/
def TakesKey (fs : List Frame) (e : Expected) : Prop :=
  ∀ t ≠ Token.closeObject, Reader.step ⟨fs, e⟩ t = Reader.key fs t

theorem takesValue_value (fs : List Frame) : TakesValue fs .value := fun _ _ => rfl

theorem takesValue_firstItem (fs : List Frame) : TakesValue fs .firstItem :=
  fun _ => step_firstItem

theorem takesKey_key (fs : List Frame) : TakesKey fs .key := fun _ _ => rfl

theorem takesKey_firstKey (fs : List Frame) : TakesKey fs .firstKey := fun _ => step_firstKey

mutual

/-- The tokens of a value are handed on as the value. -/
theorem foldlM_tokens : ∀ (v : Json) (fs : List Frame) (e : Expected), TakesValue fs e →
    v.tokens.foldlM Reader.step ⟨fs, e⟩ = Reader.supply v fs
  | null, fs, e, he => by
    rw [tokens, List.foldlM_cons, he _ (by simp)]
    exact bind_pure _
  | bool b, fs, e, he => by
    rw [tokens, List.foldlM_cons, he _ (by simp)]
    exact bind_pure _
  | number spelling, fs, e, he => by
    rw [tokens, List.foldlM_cons, he _ (by simp)]
    exact bind_pure _
  | string text, fs, e, he => by
    rw [tokens, List.foldlM_cons, he _ (by simp)]
    exact bind_pure _
  | array [], fs, e, he => by
    rw [tokens, itemTokens, List.nil_append, List.foldlM_cons, he _ (by simp)]
    exact bind_pure (Reader.supply (.array []) fs)
  | array (v :: vs), fs, e, he => by
    have items := foldlM_itemTokens (v :: vs) [] fs .firstItem (by simp) (takesValue_firstItem _)
    rw [tokens, List.foldlM_cons, he _ (by simp)]
    show (itemTokens (v :: vs) ++ [Token.closeArray]).foldlM Reader.step ⟨.array [] :: fs, _⟩ = _
    rw [List.foldlM_append, items, List.append_nil]
    show Reader.supply (.array (v :: vs).reverse.reverse) fs >>= pure = _
    rw [List.reverse_reverse, bind_pure]
  | object [], fs, e, he => by
    rw [tokens, memberTokens, List.nil_append, List.foldlM_cons, he _ (by simp)]
    exact bind_pure (Reader.supply (.object []) fs)
  | object (m :: ms), fs, e, he => by
    have members := foldlM_memberTokens (m :: ms) [] fs .firstKey (by simp) (takesKey_firstKey _)
    rw [tokens, List.foldlM_cons, he _ (by simp)]
    show (memberTokens (m :: ms) ++ [Token.closeObject]).foldlM Reader.step ⟨.object [] :: fs, _⟩ =
      _
    rw [List.foldlM_append, members, List.append_nil]
    show Reader.supply (.object (m :: ms).reverse.reverse) fs >>= pure = _
    rw [List.reverse_reverse, bind_pure]

/-- The tokens of items are taken by the open array. -/
theorem foldlM_itemTokens : ∀ (vs taken : List Json) (fs : List Frame) (e : Expected), vs ≠ [] →
    TakesValue (.array taken :: fs) e →
    (itemTokens vs).foldlM Reader.step ⟨.array taken :: fs, e⟩ =
      some ⟨.array (vs.reverse ++ taken) :: fs, .separator⟩
  | [], _, _, _, hvs, _ => (hvs rfl).elim
  | [v], taken, fs, e, _, he => foldlM_tokens v (.array taken :: fs) e he
  | v :: w :: vs, taken, fs, e, _, he => by
    have rest := foldlM_itemTokens (w :: vs) (v :: taken) fs .value (by simp) (takesValue_value _)
    rw [itemTokens, List.foldlM_append, foldlM_tokens v _ e he]
    show (itemTokens (w :: vs)).foldlM Reader.step ⟨.array (v :: taken) :: fs, .value⟩ = _
    rw [rest]
    simp

/-- The tokens of members are taken by the open object. -/
theorem foldlM_memberTokens : ∀ (ms taken : List (Option String × Json)) (fs : List Frame)
    (e : Expected), ms ≠ [] → TakesKey (.object taken :: fs) e →
    (memberTokens ms).foldlM Reader.step ⟨.object taken :: fs, e⟩ =
      some ⟨.object (ms.reverse ++ taken) :: fs, .separator⟩
  | [], _, _, _, hms, _ => (hms rfl).elim
  | [(key, v)], taken, fs, e, _, he => by
    rw [memberTokens, List.foldlM_cons, he _ (by simp)]
    exact foldlM_tokens v (.member taken key :: fs) .value (takesValue_value _)
  | (key, v) :: n :: ms, taken, fs, e, _, he => by
    have value := foldlM_tokens v (.member taken key :: fs) .value (takesValue_value _)
    have rest := foldlM_memberTokens (n :: ms) ((key, v) :: taken) fs .key (by simp)
      (takesKey_key _)
    rw [memberTokens, List.foldlM_cons, he _ (by simp)]
    show (v.tokens ++ Token.comma :: memberTokens (n :: ms)).foldlM Reader.step
      ⟨.member taken key :: fs, .value⟩ = _
    rw [List.foldlM_append, value]
    show (memberTokens (n :: ms)).foldlM Reader.step ⟨.object ((key, v) :: taken) :: fs, .key⟩ = _
    rw [rest]
    simp

end

/-! ## No two words side by side

The scanner would take two words for one if nothing stood between them. In a value something always
does: a comma, a colon or a bracket, none of which goes on with what is before it. -/

variable {us : List Token}

/-- A token that is no word may come before any other. -/
theorem isChain_apart_cons (ht : t.isLoose = false) (h : ts.IsChain Apart) :
    (t :: ts).IsChain Apart :=
  List.isChain_cons.2 ⟨fun _ _ loose => Bool.false_ne_true (ht.symm.trans loose.1), h⟩

/-- Wherever it stands, nothing goes on behind it that was begun before it. -/
theorem isChain_apart_append (ht : t.isLoose = false) (hl : ts.IsChain Apart)
    (hr : us.IsChain Apart) : (ts ++ t :: us).IsChain Apart := by
  refine List.isChain_append.2 ⟨hl, isChain_apart_cons ht hr, ?_⟩
  rintro u - w hw loose
  obtain rfl := Option.some.inj hw
  exact Bool.false_ne_true (ht.symm.trans loose.2)

mutual

/-- The tokens of a value are apart. -/
theorem isChain_tokens : ∀ v : Json, v.tokens.IsChain Apart
  | null => .singleton _
  | bool _ => .singleton _
  | number _ => .singleton _
  | string _ => .singleton _
  | array items => isChain_apart_cons rfl (isChain_apart_append rfl (isChain_itemTokens items) .nil)
  | object members =>
    isChain_apart_cons rfl (isChain_apart_append rfl (isChain_memberTokens members) .nil)

theorem isChain_itemTokens : ∀ vs : List Json, (itemTokens vs).IsChain Apart
  | [] => .nil
  | [v] => isChain_tokens v
  | v :: w :: vs => isChain_apart_append rfl (isChain_tokens v) (isChain_itemTokens (w :: vs))

theorem isChain_memberTokens : ∀ ms : List (Option String × Json), (memberTokens ms).IsChain Apart
  | [] => .nil
  | [(_, v)] => isChain_apart_cons rfl (isChain_apart_cons rfl (isChain_tokens v))
  | (_, v) :: m :: ms =>
    isChain_apart_cons rfl (isChain_apart_cons rfl
      (isChain_apart_append rfl (isChain_tokens v) (isChain_memberTokens (m :: ms))))

end

/-! ## From the value to the tokens

At any time the tokens read are those of the open values, from the outermost in. Where something has
to come yet, a comma or a colon, it is counted as if it had come. -/

/-- What an open value has taken, if a comma stands behind each of its items or members. -/
def Frame.opened : Frame → List Token
  | .array items => .openArray :: items.reverse.flatMap itemComma
  | .object members => .openObject :: members.reverse.flatMap memberComma
  | .member members key =>
    .openObject :: (members.reverse.flatMap memberComma ++ [.string key, .colon])

/-- What the open values have taken, from the outermost in. -/
def opened (fs : List Frame) : List Token := fs.reverse.flatMap Frame.opened

/-- What the reader has taken, by what may come next. -/
inductive Reader.Took : Reader → List Token → Prop
  | value (fs : List Frame) : Took ⟨fs, .value⟩ (opened fs)
  | firstItem (fs : List Frame) : Took ⟨.array [] :: fs, .firstItem⟩ (opened (.array [] :: fs))
  | key (fs : List Frame) : Took ⟨fs, .key⟩ (opened fs)
  | firstKey (fs : List Frame) : Took ⟨.object [] :: fs, .firstKey⟩ (opened (.object [] :: fs))
  | colon {fs : List Frame} {ts : List Token} (h : ts ++ [.colon] = opened fs) :
      Took ⟨fs, .colon⟩ ts
  | item {v : Json} {items : List Json} {fs : List Frame} {ts : List Token}
      (h : ts ++ [.comma] = opened (.array (v :: items) :: fs)) :
      Took ⟨.array (v :: items) :: fs, .separator⟩ ts
  | member {m : Option String × Json} {ms : List (Option String × Json)} {fs : List Frame}
      {ts : List Token} (h : ts ++ [.comma] = opened (.object (m :: ms) :: fs)) :
      Took ⟨.object (m :: ms) :: fs, .separator⟩ ts
  | done (v : Json) : Took ⟨[], .done v⟩ v.tokens

@[simp] theorem opened_cons (f : Frame) (fs : List Frame) :
    opened (f :: fs) = opened fs ++ f.opened := by
  simp [opened]

/-- A value that is handed on has been taken by the innermost open one. -/
theorem took_supply (h : Reader.supply v fs = some r) : r.Took (opened fs ++ v.tokens) := by
  unfold Reader.supply at h
  split at h <;> cases h
  · exact .done v
  · exact .item (by simp [Frame.opened, itemComma])
  · exact .member (by simp [Frame.opened, memberComma])

theorem took_value (h : Reader.value fs t = some r) : r.Took (opened fs ++ [t]) := by
  unfold Reader.value at h
  split at h
  · exact took_supply (v := .null) h
  · exact took_supply (v := .bool _) h
  · exact took_supply (v := .number _) h
  · exact took_supply (v := .string _) h
  · cases h
    simpa [Frame.opened] using Reader.Took.firstItem fs
  · cases h
    simpa [Frame.opened] using Reader.Took.firstKey fs
  · cases h

theorem took_key (h : Reader.key fs t = some r) : r.Took (opened fs ++ [t]) := by
  unfold Reader.key at h
  split at h <;> cases h
  exact .colon (by simp [Frame.opened])

/-- An array is closed in the place of the last comma. -/
theorem closed_array (hi : items ≠ []) (h : ts ++ [.comma] = opened (.array items :: fs)) :
    ts ++ [.closeArray] = opened fs ++ (array items.reverse).tokens := by
  rw [opened_cons, Frame.opened, ← itemTokens_comma (by simpa using hi)] at h
  have front : ts = opened fs ++ .openArray :: itemTokens items.reverse :=
    List.append_cancel_right  (by simpa using h)
  simp [front, tokens]

theorem closed_object (hm : members ≠ []) (h : ts ++ [.comma] = opened (.object members :: fs)) :
    ts ++ [.closeObject] = opened fs ++ (object members.reverse).tokens := by
  rw [opened_cons, Frame.opened, ← memberTokens_comma (by simpa using hm)] at h
  have front : ts = opened fs ++ .openObject :: memberTokens members.reverse :=
    List.append_cancel_right  (by simpa using h)
  simp [front, tokens]

namespace Reader

/-- Every token keeps what the reader has taken. -/
theorem Took.step (h : r.Took ts) (hs : r.step t = some r') : r'.Took (ts ++ [t]) := by
  cases h with
  | value fs => exact took_value hs
  | firstItem fs =>
    by_cases ht : t = .closeArray
    · subst ht
      simpa [tokens, itemTokens, Frame.opened] using took_supply (v := .array []) hs
    · rw [step_firstItem ht] at hs
      exact took_value hs
  | key fs => exact took_key hs
  | firstKey fs =>
    by_cases ht : t = .closeObject
    · subst ht
      simpa [tokens, memberTokens, Frame.opened] using took_supply (v := .object []) hs
    · rw [step_firstKey ht] at hs
      exact took_key hs
  | @colon fs _ h =>
    cases t with
    | colon =>
      cases hs
      exact h ▸ .value fs
    | _ => simp [Reader.step] at hs
  | @item v items fs _ h =>
    cases t with
    | comma =>
      cases hs
      exact h ▸ .value _
    | closeArray =>
      rw [closed_array (by simp) h]
      exact took_supply hs
    | _ => simp [Reader.step] at hs
  | @member m ms fs _ h =>
    cases t with
    | comma =>
      cases hs
      exact h ▸ .key _
    | closeObject =>
      rw [closed_object (by simp) h]
      exact took_supply hs
    | _ => simp [Reader.step] at hs
  | done v => cases hs

theorem Took.run (h : r.Took ts) (hs : us.foldlM Reader.step r = some r') : r'.Took (ts ++ us) := by
  induction us generalizing r ts with
  | nil =>
    obtain rfl := Option.some.inj hs
    rwa [List.append_nil]
  | cons t us ih =>
    rw [List.foldlM_cons] at hs
    obtain ⟨r₁, hstep, hs⟩ := Option.bind_eq_some_iff.1 hs
    simpa using ih (h.step hstep) hs

/-- When a value is complete, nothing but its tokens has been read. -/
theorem tokens_of_run (h : us.foldlM Reader.step ⟨[], .value⟩ = some r)
    (hv : r.expected = .done v) : us = v.tokens := by
  have took : r.Took us := Took.run (.value []) h
  cases took with
  | done w =>
    cases hv
    rfl
  | _ => cases hv

end Reader

/-- The value that is read from a text is the one that the text spells. -/
theorem parse?_eq_some_iff {text : String} : parse? text = some v ↔ Spells text v := by
  unfold parse? Spells
  constructor
  · intro h
    obtain ⟨ts, hscan, h⟩ := Option.bind_eq_some_iff.1 h
    obtain ⟨r, hrun, h⟩ := Option.bind_eq_some_iff.1 h
    split at h
    · next w hw =>
      obtain rfl := Option.some.inj h
      exact Reader.tokens_of_run hrun hw ▸ Token.lays_of_scan hscan
    · cases h
  · intro h
    have scanned := Token.scan_of_lays h (isChain_tokens v)
    have read : v.tokens.foldlM Reader.step ⟨[], .value⟩ = some ⟨[], .done v⟩ :=
      foldlM_tokens v [] .value (takesValue_value [])
    simp [scanned, read]

end RemoteRecorder.Json
