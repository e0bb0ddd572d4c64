/-
Finite maps that remember the order in which their keys first arrived.

A schema keeps every category in declaration order, and the symbol table keeps the order in which
symbols were first mentioned, so the order of the keys is part of the answer and not an accident of
storage. `insert` keeps the place of a key that is already there and gives it the new value;
`extend` is `insert` for every entry of a list, in order.

The statements that later files cite describe the two views of a map, its keys and its lookup:
* `keys_insert`: a new key goes to the end, a known key moves nothing.
* `get?_insert`: a lookup sees the last value written under its key.
* `mem_keys_iff`: a key is listed exactly when its lookup answers.
* `get?_eq_some_iff`: lookup answers with the value that is listed under the key.
* `keys_prefix_extend`: growing a map neither loses nor moves a key.
* `keys_extend`, `get?_extend`: of the entries of a list, the first one under a key gives its place
  and the last one its value.
-/

namespace IdlLink

universe u v w

/-- A finite map with its keys in order of first insertion. -/
structure OrderedMap (κ : Type u) (β : Type v) where
  /-- The entries, oldest key first. -/
  entries : List (κ × β)
  /-- No key is listed twice. -/
  nodup : (entries.map Prod.fst).Nodup

namespace OrderedMap

variable {κ : Type u} {β : Type v} {γ : Type w}

/-- Two maps with the same entries in the same order are equal. -/
@[ext]
theorem ext {m n : OrderedMap κ β} (h : m.entries = n.entries) : m = n := by
  cases m; cases n; simp_all

instance [DecidableEq κ] [DecidableEq β] : DecidableEq (OrderedMap κ β) := fun m n =>
  if h : m.entries = n.entries then isTrue (ext h) else isFalse fun e => h (e ▸ rfl)

/-- The map without entries. -/
def empty : OrderedMap κ β := ⟨[], List.nodup_nil⟩

instance : EmptyCollection (OrderedMap κ β) := ⟨empty⟩

instance : Inhabited (OrderedMap κ β) := ⟨empty⟩

/-- The keys, oldest first. -/
def keys (m : OrderedMap κ β) : List κ := m.entries.map Prod.fst

/-- The values, in the order of their keys. -/
def values (m : OrderedMap κ β) : List β := m.entries.map Prod.snd

/-- Whether the map has no entry. -/
def isEmpty (m : OrderedMap κ β) : Bool := m.entries.isEmpty

/-- The same keys with every value replaced by its image. -/
def map (f : β → γ) (m : OrderedMap κ β) : OrderedMap κ γ :=
  ⟨m.entries.map fun e => (e.1, f e.2), by
    have h : (m.entries.map fun e => (e.1, f e.2)).map Prod.fst = m.entries.map Prod.fst := by
      simp [List.map_map, Function.comp_def]
    rw [h]; exact m.nodup⟩

@[simp]
theorem keys_empty : (empty : OrderedMap κ β).keys = [] := rfl

theorem nodup_keys (m : OrderedMap κ β) : m.keys.Nodup := m.nodup

variable [DecidableEq κ]

/-- The value under a key. -/
def get? (m : OrderedMap κ β) (k : κ) : Option β :=
  (m.entries.find? fun e => e.1 = k).map Prod.snd

/-- Whether a key has a value. -/
def contains (m : OrderedMap κ β) (k : κ) : Bool := m.keys.contains k

/-- Overwrite the entry of `k`, or append one when there is none. -/
def upsert (k : κ) (v : β) : List (κ × β) → List (κ × β)
  | [] => [(k, v)]
  | e :: rest => if e.1 = k then (k, v) :: rest else e :: upsert k v rest

theorem map_fst_upsert (k : κ) (v : β) (es : List (κ × β)) :
    (upsert k v es).map Prod.fst =
      if k ∈ es.map Prod.fst then es.map Prod.fst else es.map Prod.fst ++ [k] := by
  induction es with
  | nil => simp [upsert]
  | cons e rest ih =>
    by_cases h : e.1 = k
    · simp [upsert, h]
    · -- the first entry stays, so all depends on the rest
      have h' : ¬ k = e.1 := fun hk => h hk.symm
      by_cases hm : k ∈ rest.map Prod.fst
      · simp only [upsert, if_neg h, List.map_cons, ih, List.mem_cons, h', hm, or_true, if_true]
      · simp only [upsert, if_neg h, List.map_cons, ih, List.mem_cons, h', hm, or_self,
          if_false, List.cons_append]

theorem nodup_upsert {es : List (κ × β)} (h : (es.map Prod.fst).Nodup) (k : κ) (v : β) :
    ((upsert k v es).map Prod.fst).Nodup := by
  rw [map_fst_upsert]
  by_cases hk : k ∈ es.map Prod.fst
  · rw [if_pos hk]; exact h
  · rw [if_neg hk, List.nodup_append]
    refine ⟨h, by simp, ?_⟩
    intro a ha b hb hab
    rw [List.mem_singleton] at hb
    exact hk (hb ▸ hab ▸ ha)

/-- Write a value under a key: a known key keeps its place, a new one goes to the end. -/
def insert (m : OrderedMap κ β) (k : κ) (v : β) : OrderedMap κ β :=
  ⟨upsert k v m.entries, nodup_upsert m.nodup k v⟩

/-- Insert the entries of a list, first to last. -/
def extend (m : OrderedMap κ β) (es : List (κ × β)) : OrderedMap κ β :=
  es.foldl (fun acc e => acc.insert e.1 e.2) m

/-- The map that a list of entries builds up; of several entries under one key the last counts. -/
def ofList (es : List (κ × β)) : OrderedMap κ β := empty.extend es

/-! ### What each operation does to the keys and to lookup -/

@[simp]
theorem get?_empty (k : κ) : (empty : OrderedMap κ β).get? k = none := rfl

@[simp]
theorem contains_iff {m : OrderedMap κ β} {k : κ} : m.contains k = true ↔ k ∈ m.keys := by
  simp [contains]

theorem keys_insert (m : OrderedMap κ β) (k : κ) (v : β) :
    (m.insert k v).keys = if k ∈ m.keys then m.keys else m.keys ++ [k] :=
  map_fst_upsert k v m.entries

@[simp]
theorem mem_keys_insert {m : OrderedMap κ β} {k j : κ} {v : β} :
    j ∈ (m.insert k v).keys ↔ j = k ∨ j ∈ m.keys := by
  rw [keys_insert]
  by_cases h : k ∈ m.keys
  · rw [if_pos h]
    exact ⟨Or.inr, fun hj => hj.elim (fun e => e ▸ h) id⟩
  · rw [if_neg h]
    simp [or_comm]

theorem find?_upsert (k j : κ) (v : β) (es : List (κ × β)) :
    ((upsert k v es).find? fun e => e.1 = j).map Prod.snd =
      if j = k then some v else (es.find? fun e => e.1 = j).map Prod.snd := by
  induction es with
  | nil =>
    by_cases h : j = k
    · subst h; simp [upsert]
    · have h' : ¬ k = j := fun hk => h hk.symm
      simp [upsert, h, h']
  | cons e rest ih =>
    by_cases he : e.1 = k
    · by_cases h : j = k
      · subst h; simp [upsert, he]
      · have h' : ¬ k = j := fun hk => h hk.symm
        simp [upsert, he, h, h']
    · -- an entry of another key is kept, and is found before and after alike
      by_cases hj : e.1 = j
      · have h' : ¬ j = k := fun hk => he (hj.trans hk)
        simp [upsert, hj, h']
      · simp only [upsert, if_neg he, List.find?_cons, decide_eq_false hj]
        exact ih

theorem get?_insert (m : OrderedMap κ β) (k j : κ) (v : β) :
    (m.insert k v).get? j = if j = k then some v else m.get? j :=
  find?_upsert k j v m.entries

theorem mem_keys_iff {m : OrderedMap κ β} {k : κ} : k ∈ m.keys ↔ ∃ v, m.get? k = some v := by
  constructor
  · intro h
    obtain ⟨e, he, rfl⟩ := List.mem_map.1 h
    cases hf : m.entries.find? (fun x => decide (x.1 = e.1)) with
    | some x => exact ⟨x.2, by simp [get?, hf]⟩
    | none => exact absurd (List.find?_eq_none.1 hf e he) (by simp)
  · rintro ⟨v, hv⟩
    obtain ⟨x, hx, rfl⟩ := Option.map_eq_some_iff.1 hv
    have h1 := List.find?_some hx
    have h2 := List.mem_of_find?_eq_some hx
    have h3 : x.1 = k := by simpa using h1
    exact List.mem_map.2 ⟨x, h2, h3⟩

theorem get?_eq_none_iff {m : OrderedMap κ β} {k : κ} : m.get? k = none ↔ k ∉ m.keys := by
  rw [mem_keys_iff]
  cases m.get? k <;> simp

@[simp]
theorem extend_nil (m : OrderedMap κ β) : m.extend [] = m := rfl

@[simp]
theorem extend_cons (m : OrderedMap κ β) (e : κ × β) (es : List (κ × β)) :
    m.extend (e :: es) = (m.insert e.1 e.2).extend es := rfl

/-- A key stands where it was first entered. -/
theorem keys_extend (m : OrderedMap κ β) (es : List (κ × β)) :
    (m.extend es).keys =
      (es.map Prod.fst).foldl (fun ks k => if k ∈ ks then ks else ks ++ [k]) m.keys := by
  induction es generalizing m with
  | nil => rfl
  | cons e rest ih => rw [extend_cons, ih, keys_insert, List.map_cons, List.foldl_cons]

theorem mem_keys_extend {m : OrderedMap κ β} {es : List (κ × β)} {j : κ} :
    j ∈ (m.extend es).keys ↔ j ∈ m.keys ∨ j ∈ es.map Prod.fst := by
  induction es generalizing m with
  | nil => simp
  | cons e rest ih =>
    rw [extend_cons, ih]
    simp only [mem_keys_insert, List.map_cons, List.mem_cons]
    constructor
    · rintro ((h | h) | h)
      · exact .inr (.inl h)
      · exact .inl h
      · exact .inr (.inr h)
    · rintro (h | h | h)
      · exact .inl (.inr h)
      · exact .inl (.inl h)
      · exact .inr h

omit [DecidableEq κ] in
theorem value_unique {es : List (κ × β)} (hes : (es.map Prod.fst).Nodup) {k : κ} {v v' : β}
    (hv : (k, v) ∈ es) (hv' : (k, v') ∈ es) : v = v' := by
  induction es with
  | nil => cases hv
  | cons e rest ih =>
    obtain ⟨hfst, hrest⟩ := List.nodup_cons.1 hes
    have habsent : ∀ {u}, e = (k, u) → ∀ {u'}, (k, u') ∉ rest := by
      rintro u rfl u' hu'
      exact hfst (List.mem_map.2 ⟨(k, u'), hu', rfl⟩)
    rcases List.mem_cons.1 hv with h | h
    · rcases List.mem_cons.1 hv' with h' | h'
      · exact (Prod.mk.inj (h.trans h'.symm)).2
      · exact absurd h' (habsent h.symm)
    · rcases List.mem_cons.1 hv' with h' | h'
      · exact absurd h (habsent h'.symm)
      · exact ih hrest h h'

/-- Lookup answers with the value that is listed under the key. -/
theorem get?_eq_some_iff {m : OrderedMap κ β} {k : κ} {v : β} :
    m.get? k = some v ↔ (k, v) ∈ m.entries := by
  have hmem : ∀ {u}, m.get? k = some u → (k, u) ∈ m.entries := by
    intro u hu
    obtain ⟨e, he, rfl⟩ := Option.map_eq_some_iff.1 hu
    have hk : e.1 = k := by simpa using List.find?_some he
    exact hk ▸ List.mem_of_find?_eq_some he
  refine ⟨hmem, fun h => ?_⟩
  -- the key is listed, so lookup has an answer, and the entry has no rival
  obtain ⟨u, hu⟩ := mem_keys_iff.1 (List.mem_map_of_mem h : k ∈ m.keys)
  rw [hu, value_unique m.nodup h (hmem hu)]

theorem mem_keys_of_get? {m : OrderedMap κ β} {k : κ} {v : β} (h : m.get? k = some v) :
    k ∈ m.keys := mem_keys_iff.2 ⟨v, h⟩

omit [DecidableEq κ] in
@[simp]
theorem keys_map (f : β → γ) (m : OrderedMap κ β) : (m.map f).keys = m.keys := by
  simp [keys, map, List.map_map, Function.comp_def]

theorem get?_map (f : β → γ) (m : OrderedMap κ β) (k : κ) : (m.map f).get? k = (m.get? k).map f := by
  simp [get?, map, List.find?_map, Function.comp_def, Option.map_map]

/-! ### A map keeps the order of its keys as it grows -/

theorem keys_insert_of_not_mem {m : OrderedMap κ β} {k : κ} (h : k ∉ m.keys) (v : β) :
    (m.insert k v).keys = m.keys ++ [k] := by
  rw [keys_insert, if_neg h]

theorem keys_prefix_insert (m : OrderedMap κ β) (k : κ) (v : β) : m.keys <+: (m.insert k v).keys := by
  by_cases h : k ∈ m.keys
  · exact ⟨[], by rw [keys_insert, if_pos h, List.append_nil]⟩
  · exact ⟨[k], (keys_insert_of_not_mem h v).symm⟩

theorem keys_prefix_extend (m : OrderedMap κ β) (es : List (κ × β)) :
    m.keys <+: (m.extend es).keys := by
  induction es generalizing m with
  | nil => exact List.prefix_refl _
  | cons e rest ih =>
    rw [extend_cons]
    exact (keys_prefix_insert m e.1 e.2).trans (ih _)

/-- Of several entries under one key the last counts. -/
theorem get?_extend (m : OrderedMap κ β) (es : List (κ × β)) (k : κ) :
    (m.extend es).get? k = ((es.reverse.find? fun e => e.1 = k).map Prod.snd).or (m.get? k) := by
  induction es generalizing m with
  | nil => rfl
  | cons e rest ih =>
    rw [extend_cons, ih, get?_insert, List.reverse_cons, List.find?_append, Option.map_or,
      Option.or_assoc]
    by_cases hk : k = e.1
    · simp [hk]
    · have hk' : ¬ e.1 = k := fun he => hk he.symm
      simp [hk, hk']

theorem get?_extend_of_not_mem {m : OrderedMap κ β} {es : List (κ × β)} {k : κ}
    (h : k ∉ es.map Prod.fst) : (m.extend es).get? k = m.get? k := by
  have hnone : es.reverse.find? (fun e => e.1 = k) = none := by
    refine List.find?_eq_none.2 fun e he hk => ?_
    exact h (of_decide_eq_true hk ▸ List.mem_map_of_mem (List.mem_reverse.1 he))
  rw [get?_extend, hnone, Option.map_none, Option.none_or]

/-- What a lookup finds after an extension was in the list or was there before. -/
theorem mem_or_get?_of_get?_extend {m : OrderedMap κ β} {es : List (κ × β)} {k : κ} {v : β}
    (h : (m.extend es).get? k = some v) : (k, v) ∈ es ∨ m.get? k = some v := by
  rw [get?_extend] at h
  rcases Option.or_eq_some_iff.1 h with hlast | ⟨_, hbefore⟩
  · obtain ⟨e, he, rfl⟩ := Option.map_eq_some_iff.1 hlast
    have hk := List.find?_some he
    exact .inl (of_decide_eq_true hk ▸ List.mem_reverse.1 (List.mem_of_find?_eq_some he))
  · exact .inr hbefore

theorem get?_ofList (es : List (κ × β)) (k : κ) :
    (ofList es).get? k = (es.reverse.find? fun e => e.1 = k).map Prod.snd := by
  rw [ofList, get?_extend, get?_empty, Option.or_none]

theorem mem_of_get?_ofList {es : List (κ × β)} {k : κ} {v : β}
    (h : (ofList es).get? k = some v) : (k, v) ∈ es := by
  rcases mem_or_get?_of_get?_extend h with hm | he
  · exact hm
  · rw [get?_empty] at he
    cases he

theorem mem_keys_ofList {es : List (κ × β)} {k : κ} : k ∈ (ofList es).keys ↔ k ∈ es.map Prod.fst := by
  rw [ofList, mem_keys_extend]
  simp

/-- A list that never gives one key two values is the graph of its map. -/
theorem get?_ofList_eq_some_iff {es : List (κ × β)}
    (hes : ∀ {k v v'}, (k, v) ∈ es → (k, v') ∈ es → v = v') {k : κ} {v : β} :
    (ofList es).get? k = some v ↔ (k, v) ∈ es := by
  constructor
  · exact mem_of_get?_ofList
  · intro h
    obtain ⟨v', hv'⟩ := mem_keys_iff.1 (mem_keys_ofList.2 (List.mem_map_of_mem h))
    rw [hv', hes h (mem_of_get?_ofList hv')]

theorem upsert_of_not_mem {es : List (κ × β)} {k : κ} (h : k ∉ es.map Prod.fst) (v : β) :
    upsert k v es = es ++ [(k, v)] := by
  induction es with
  | nil => rfl
  | cons e rest ih =>
    rw [List.map_cons, List.mem_cons, not_or] at h
    rw [upsert, if_neg (fun he => h.1 he.symm), ih h.2, List.cons_append]

theorem entries_insert_of_not_mem {m : OrderedMap κ β} {k : κ} (h : k ∉ m.keys) (v : β) :
    (m.insert k v).entries = m.entries ++ [(k, v)] := upsert_of_not_mem h v

/-- Entries under new keys go to the end, in order. -/
theorem entries_extend_of_not_mem {m : OrderedMap κ β} {es : List (κ × β)}
    (hes : (es.map Prod.fst).Nodup) (h : ∀ e ∈ es, e.1 ∉ m.keys) :
    (m.extend es).entries = m.entries ++ es := by
  induction es generalizing m with
  | nil => exact (List.append_nil _).symm
  | cons e rest ih =>
    obtain ⟨hfst, hrest⟩ := List.nodup_cons.1 hes
    have hnew : ∀ e' ∈ rest, e'.1 ∉ (m.insert e.1 e.2).keys := by
      intro e' he' hk
      rcases mem_keys_insert.1 hk with hk | hk
      · exact hfst (hk ▸ List.mem_map_of_mem he')
      · exact h e' (List.mem_cons_of_mem _ he') hk
    rw [extend_cons, ih hrest hnew, entries_insert_of_not_mem (h e List.mem_cons_self),
      List.append_assoc, List.singleton_append]

/-- A map is built up from its entries. -/
theorem ofList_entries (m : OrderedMap κ β) : ofList m.entries = m :=
  ext (entries_extend_of_not_mem m.nodup fun _ _ hk => by cases hk)

/-- No entry has a rival, so the last one under a key is the only one. -/
theorem find?_reverse_entries (m : OrderedMap κ β) (k : κ) :
    (m.entries.reverse.find? fun e => e.1 = k).map Prod.snd = m.get? k := by
  rw [← get?_ofList, ofList_entries]

/-! ### What is written again -/

theorem upsert_of_mem {es : List (κ × β)} (hes : (es.map Prod.fst).Nodup) {k : κ} {v : β}
    (h : (k, v) ∈ es) : upsert k v es = es := by
  induction es with
  | nil => cases h
  | cons e rest ih =>
    obtain ⟨hfst, hrest⟩ := List.nodup_cons.1 hes
    rcases List.mem_cons.1 h with rfl | h
    · rw [upsert, if_pos rfl]
    · -- the key comes later, so the first entry has another one
      have hne : ¬ e.1 = k := fun he => hfst (he ▸ List.mem_map_of_mem h)
      rw [upsert, if_neg hne, ih hrest h]

/-- A value that is there already can be written again. -/
theorem insert_of_get? {m : OrderedMap κ β} {k : κ} {v : β} (h : m.get? k = some v) :
    m.insert k v = m :=
  ext (upsert_of_mem m.nodup (get?_eq_some_iff.1 h))

theorem extend_of_get? {m : OrderedMap κ β} {es : List (κ × β)}
    (h : ∀ e ∈ es, m.get? e.1 = some e.2) : m.extend es = m := by
  induction es with
  | nil => rfl
  | cons e rest ih =>
    rw [extend_cons, insert_of_get? (h e List.mem_cons_self)]
    exact ih fun e' he' => h e' (List.mem_cons_of_mem _ he')

/-- Where the entries of a map are entered, lookup answers as that map does. -/
theorem get?_extend_of_mem {m : OrderedMap κ β} {es : List (κ × β)}
    (hes : (es.map Prod.fst).Nodup) {k : κ} {v : β} (h : (k, v) ∈ es) :
    (m.extend es).get? k = some v := by
  have hentered : (es.reverse.find? fun e => e.1 = k).map Prod.snd = some v := by
    rw [← get?_ofList, get?_ofList_eq_some_iff fun h h' => value_unique hes h h']
    exact h
  rw [get?_extend, hentered, Option.some_or]

end OrderedMap

end IdlLink
