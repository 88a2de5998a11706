import SqlStore.Table
import Mathlib.Data.List.Perm.Basic

/-!
# Indexes over lists

A key index mirrors a list of keys when it has under each key the position of that key, and
nothing else; two keys of the list are then never the same. A set of values covers a list when its
members are the values of the list. The lemmas say which change of the index follows which change
of the list.
-/

namespace SqlStore

namespace KeyIndex

/-- The index has, under every key of the list, the position of that key, and nothing else. -/
def Mirrors (m : KeyIndex) (keys : List Value) : Prop :=
  ∀ (v : Value) (i : Nat), m[v]? = some i ↔ ∃ k : Value, keys[i]? = some k ∧ k.same v = true

theorem getElem?_insert (m : KeyIndex) (k v : Value) (i : Nat) :
    (m.insert k i)[v]? = if k.same v = true then some i else m[v]? := by
  simp only [Std.TreeMap.getElem?_insert, Value.order_eq_iff_same]

theorem getElem?_erase (m : KeyIndex) (k v : Value) :
    (m.erase k)[v]? = if k.same v = true then none else m[v]? := by
  simp only [Std.TreeMap.getElem?_erase, Value.order_eq_iff_same]

theorem mirrors_empty : Mirrors ∅ [] := by
  intro v i
  simp

variable {m : KeyIndex} {keys : List Value}

theorem Mirrors.contains_iff (h : Mirrors m keys) (v : Value) :
    m.contains v = true ↔ ∃ k ∈ keys, k.same v = true := by
  rw [Std.TreeMap.contains_eq_isSome_getElem?, Option.isSome_iff_exists]
  constructor
  · rintro ⟨i, hi⟩
    obtain ⟨k, hk, hs⟩ := (h v i).mp hi
    exact ⟨k, List.mem_of_getElem? hk, hs⟩
  · rintro ⟨k, hk, hs⟩
    obtain ⟨i, hi⟩ := List.mem_iff_getElem?.mp hk
    exact ⟨i, (h v i).mpr ⟨k, hi, hs⟩⟩

theorem Mirrors.position_unique (h : Mirrors m keys) {i j : Nat} {k l : Value}
    (hi : keys[i]? = some k) (hj : keys[j]? = some l) (hs : k.same l = true) : i = j := by
  have at_i : m[l]? = some i := (h l i).mpr ⟨k, hi, hs⟩
  have at_j : m[l]? = some j := (h l j).mpr ⟨l, hj, l.same_refl⟩
  exact Option.some.inj (at_i.symm.trans at_j)

/-- A lookup is a search for the first key that is the same. -/
theorem Mirrors.getElem?_eq_findIdx? (h : Mirrors m keys) (v : Value) :
    m[v]? = keys.findIdx? fun k => k.same v := by
  apply Option.ext
  intro i
  rw [h v i, List.findIdx?_eq_some_iff_getElem]
  constructor
  · rintro ⟨k, hk, hs⟩
    obtain ⟨hi, rfl⟩ := List.getElem?_eq_some_iff.mp hk
    refine ⟨hi, hs, ?_⟩
    intro j hj hsj
    have := h.position_unique (List.getElem?_eq_getElem (by omega)) hk
      (Value.same_trans hsj (Value.same_symm hs))
    omega
  · rintro ⟨hi, hs, -⟩
    exact ⟨_, List.getElem?_eq_getElem hi, hs⟩

theorem Mirrors.pairwise (h : Mirrors m keys) :
    keys.Pairwise fun k l => ¬ k.same l = true := by
  rw [List.pairwise_iff_getElem]
  intro i j hi hj hij hs
  have := h.position_unique (List.getElem?_eq_getElem hi) (List.getElem?_eq_getElem hj) hs
  omega

/-- A new key goes to the end. -/
theorem Mirrors.insert (h : Mirrors m keys) {k : Value} (fresh : m.contains k = false) :
    Mirrors (m.insert k keys.length) (keys ++ [k]) := by
  have fresh : ∀ l ∈ keys, ¬ l.same k = true := fun l hl hs => by
    rw [(h.contains_iff k).mpr ⟨l, hl, hs⟩] at fresh
    cases fresh
  intro v i
  rw [getElem?_insert, List.getElem?_append]
  by_cases hv : k.same v = true
  · rw [if_pos hv]
    constructor
    · intro hi
      obtain rfl := Option.some.inj hi
      exact ⟨k, by simp, hv⟩
    · rintro ⟨l, hl, hs⟩
      split at hl
      · have hm := List.mem_of_getElem? hl
        exact absurd (Value.same_trans hs (Value.same_symm hv)) (fresh l hm)
      · rw [List.getElem?_singleton] at hl
        split at hl
        · congr 1
          omega
        · cases hl
  · rw [if_neg hv, h v i]
    constructor
    · rintro ⟨l, hl, hs⟩
      have hi : i < keys.length := (List.getElem?_eq_some_iff.mp hl).1
      exact ⟨l, by rw [if_pos hi, hl], hs⟩
    · rintro ⟨l, hl, hs⟩
      split at hl
      · exact ⟨l, hl, hs⟩
      · obtain rfl := List.mem_singleton.mp (List.mem_of_getElem? hl)
        exact absurd hs hv

/-- A key may be replaced by one that is the same. -/
theorem Mirrors.set_same (h : Mirrors m keys) {p : Nat} {k l : Value} (hp : keys[p]? = some k)
    (hs : k.same l = true) : Mirrors m (keys.set p l) := by
  intro v i
  rw [h v i, List.getElem?_set]
  have inside : p < keys.length := (List.getElem?_eq_some_iff.mp hp).1
  by_cases hi : p = i
  · subst hi
    simp only [if_true, if_pos inside, hp, Option.some.injEq, exists_eq_left']
    exact ⟨Value.same_trans (Value.same_symm hs), Value.same_trans hs⟩
  · rw [if_neg hi]

/-- A key may be replaced by a new one: its entry goes and the new one's takes its place. -/
theorem Mirrors.replace (h : Mirrors m keys) {p : Nat} {key k : Value} (hp : m[key]? = some p)
    (fresh : m.contains k = false) : Mirrors ((m.erase key).insert k p) (keys.set p k) := by
  obtain ⟨l, hl, hs⟩ := (h key p).mp hp
  have inside : p < keys.length := (List.getElem?_eq_some_iff.mp hl).1
  intro v i
  rw [getElem?_insert, getElem?_erase, List.getElem?_set]
  by_cases hv : k.same v = true
  · rw [if_pos hv]
    by_cases hi : p = i
    · simp [hi, hi ▸ inside, hv]
    · rw [if_neg hi]
      refine ⟨fun hip => absurd (Option.some.inj hip) hi, ?_⟩
      rintro ⟨l', hl', hs'⟩
      have taken := (h.contains_iff k).mpr
        ⟨l', List.mem_of_getElem? hl', Value.same_trans hs' (Value.same_symm hv)⟩
      rw [fresh] at taken
      cases taken
  · rw [if_neg hv]
    by_cases hi : p = i
    · subst hi
      simp only [if_true, if_pos inside, Option.some.injEq, exists_eq_left', hv]
      refine ⟨fun hvp => ?_, fun hf => absurd hf (by simp)⟩
      split at hvp
      · cases hvp
      · next hkey =>
        obtain ⟨l', hl', hs'⟩ := (h v p).mp hvp
        obtain rfl := Option.some.inj (hl.symm.trans hl')
        exact absurd (Value.same_trans (Value.same_symm hs) hs') hkey
    · rw [if_neg hi]
      split
      · next hkey =>
        refine ⟨fun hn => absurd hn (by simp), ?_⟩
        rintro ⟨l', hl', hs'⟩
        exact absurd (h.position_unique hl hl'
          (Value.same_trans hs (Value.same_trans hkey (Value.same_symm hs')))) hi
      · exact h v i

/-- An index made from keys of which no two are the same mirrors them. -/
theorem mirrors_ofList (distinct : keys.Pairwise fun k l => ¬ k.same l = true) :
    Mirrors (.ofList keys.zipIdx _) keys := by
  let _ : BEq Value := ⟨Value.same⟩
  have : Std.LawfulBEqCmp Value.order := ⟨fun {a b} => Value.order_eq_iff_same a b⟩
  have entries : keys.zipIdx.Pairwise fun a b => ¬ Value.order a.1 b.1 = .eq := by
    rw [← List.pairwise_map (f := Prod.fst) (R := fun k l => ¬ Value.order k l = .eq),
      List.zipIdx_map_fst]
    simpa only [Value.order_eq_iff_same] using distinct
  have found : ∀ {i : Nat} {k v : Value}, keys[i]? = some k → k.same v = true →
      (Std.TreeMap.ofList keys.zipIdx Value.order)[v]? = some i := fun hk hs =>
    Std.TreeMap.getElem?_ofList_of_mem ((Value.order_eq_iff_same _ _).mpr hs) entries
      (List.mk_mem_zipIdx_iff_getElem?.mpr hk)
  intro v i
  constructor
  · intro hi
    by_cases hv : ∃ k ∈ keys, k.same v = true
    · obtain ⟨k, hk, hs⟩ := hv
      obtain ⟨j, hj⟩ := List.mem_iff_getElem?.mp hk
      obtain rfl := Option.some.inj (hi.symm.trans (found hj hs))
      exact ⟨k, hj, hs⟩
    · have absent : (keys.zipIdx.map Prod.fst).contains v = false := by
        rw [List.zipIdx_map_fst, ← Bool.not_eq_true, List.contains_eq_any_beq, List.any_eq_true]
        rintro ⟨k, hk, hs⟩
        exact hv ⟨k, hk, Value.same_symm hs⟩
      have free : (Std.TreeMap.ofList keys.zipIdx Value.order)[v]? = none :=
        Std.TreeMap.getElem?_ofList_of_contains_eq_false absent
      exact absurd (hi.symm.trans free) (by simp)
  · rintro ⟨k, hk, hs⟩
    exact found hk hs

/-- A mirror has as many entries as there are keys. -/
theorem Mirrors.size_eq (h : Mirrors m keys) : m.size = keys.length := by
  have position : ∀ {e : Value × Nat}, e ∈ m.toList →
      ∃ k, keys[e.2]? = some k ∧ k.same e.1 = true := fun {e} he =>
    (h e.1 e.2).mp <|
      Std.TreeMap.getElem?_eq_some_iff_exists_compare_eq_eq_and_mem_toList.mpr
        ⟨e.1, (Value.order_eq_iff_same _ _).mpr e.1.same_refl, he⟩
  have distinct : (m.toList.map Prod.snd).Nodup := by
    rw [List.Nodup, List.pairwise_map]
    refine Std.TreeMap.distinct_keys_toList.imp_of_mem ?_
    intro a b ha hb hab he
    obtain ⟨k, hk, hka⟩ := position ha
    obtain ⟨l, hl, hlb⟩ := position hb
    rw [he] at hk
    obtain rfl := Option.some.inj (hk.symm.trans hl)
    exact hab ((Value.order_eq_iff_same _ _).mpr (Value.same_trans (Value.same_symm hka) hlb))
  have positions : (m.toList.map Prod.snd).Perm (List.range keys.length) := by
    rw [List.perm_ext_iff_of_nodup distinct List.nodup_range]
    intro i
    rw [List.mem_map, List.mem_range]
    constructor
    · rintro ⟨e, he, rfl⟩
      obtain ⟨k, hk, -⟩ := position he
      exact (List.getElem?_eq_some_iff.mp hk).1
    · intro hi
      have at_i := (h keys[i] i).mpr ⟨_, List.getElem?_eq_getElem hi, keys[i].same_refl⟩
      obtain ⟨k, -, hk⟩ :=
        Std.TreeMap.getElem?_eq_some_iff_exists_compare_eq_eq_and_mem_toList.mp at_i
      exact ⟨(k, i), hk, rfl⟩
  calc
    m.size = (m.toList.map Prod.snd).length := by
      rw [List.length_map, Std.TreeMap.length_toList]
    _ = keys.length := by rw [positions.length_eq, List.length_range]

end KeyIndex

namespace ValueSet

/-- The members of the set are the values of the list. -/
def Covers (s : ValueSet) (values : List Value) : Prop :=
  ∀ v : Value, s.contains v = true ↔ ∃ w ∈ values, w.same v = true

theorem covers_empty : Covers ∅ [] := by
  intro v
  simp

theorem Covers.insert {s : ValueSet} {values : List Value} (h : Covers s values) (w : Value) :
    Covers (s.insert w) (values ++ [w]) := by
  intro v
  have same : (Value.order w v == .eq) = true ↔ w.same v = true := by
    rw [beq_iff_eq, Value.order_eq_iff_same]
  rw [Std.TreeSet.contains_insert, Bool.or_eq_true, same, h v]
  simp only [List.mem_append, List.mem_singleton, or_and_right, exists_or, exists_eq_left]
  exact or_comm

theorem covers_indexValues (column : String) (rows : Array Row) :
    Covers (Table.indexValues column rows) (rows.toList.map (·.get column)) := by
  intro v
  rw [Table.contains_indexValues, List.any_eq_true]
  simp

end ValueSet

end SqlStore
