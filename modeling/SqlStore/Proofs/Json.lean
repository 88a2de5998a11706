import Mathlib.Data.List.Nodup
import SqlStore.Json

/-!
# Reading JSON text back

A string can be told from its JSON text. What stands between the quotes for one character never
begins what stands there for another, so the text is read back one character at a time. The text of
a row tells the order of its fields.
-/

namespace SqlStore.Json

/-! ## Strings -/

/-- The code points of the characters that are written with a backslash. -/
def escaped : List Nat :=
  List.range 32 ++ [0x22, 0x5c]

theorem escapeChar_of_not_mem {c : Char} (plain : c.toNat ∉ escaped) : escapeChar c = [c] := by
  have large : ¬ c.toNat < 32 := fun lt => plain (by simp [escaped, lt])
  unfold escapeChar
  split
  case h_8 => exact if_neg large
  all_goals exact absurd (by decide) plain

theorem head?_escapeChar_of_mem {c : Char} (listed : c.toNat ∈ escaped) :
    (escapeChar c).head? = some '\\' := by
  have all : ∀ n ∈ escaped, (escapeChar (Char.ofNat n)).head? = some '\\' := by decide +kernel
  simpa using all _ listed

/-- No escape begins another. -/
theorem eq_of_escape_begins {c d : Char} (hc : c.toNat ∈ escaped) (hd : d.toNat ∈ escaped)
    (h : escapeChar c <+: escapeChar d) : c = d := by
  have all : ∀ m ∈ escaped, ∀ n ∈ escaped,
      escapeChar (Char.ofNat m) <+: escapeChar (Char.ofNat n) → m = n := by decide +kernel
  have same := all _ hc _ hd (by simpa using h)
  rw [← Char.ofNat_toNat c, same, Char.ofNat_toNat]

/-- The character in front can be told. -/
theorem escapeChar_append_inj {c d : Char} {x y : List Char}
    (h : escapeChar c ++ x = escapeChar d ++ y) : c = d := by
  have mixed : ∀ {c d : Char} {x y : List Char}, c.toNat ∉ escaped → d.toNat ∈ escaped →
      escapeChar c ++ x = escapeChar d ++ y → False := by
    intro c d x y hc hd h
    have backslash : c = '\\' := by
      simpa [escapeChar_of_not_mem hc, head?_escapeChar_of_mem hd] using congrArg List.head? h
    exact hc (backslash ▸ by decide)
  by_cases hc : c.toNat ∈ escaped <;> by_cases hd : d.toNat ∈ escaped
  · have front : escapeChar c <+: escapeChar d ++ y := ⟨x, h⟩
    rcases List.prefix_or_prefix_of_prefix front ⟨y, rfl⟩ with shorter | longer
    · exact eq_of_escape_begins hc hd shorter
    · exact (eq_of_escape_begins hd hc longer).symm
  · exact (mixed hd hc h.symm).elim
  · exact (mixed hc hd h).elim
  · rw [escapeChar_of_not_mem hc, escapeChar_of_not_mem hd] at h
    exact (List.cons.inj h).1

/-- No escape begins with the quote that closes a string. -/
theorem escapeChar_append_ne_quote (c : Char) (x y : List Char) :
    escapeChar c ++ x ≠ '\x22' :: y := by
  intro same
  by_cases h : c.toNat ∈ escaped
  · simpa [head?_escapeChar_of_mem h] using congrArg List.head? same
  · rw [escapeChar_of_not_mem h] at same
    obtain ⟨rfl, -⟩ := List.cons.inj same
    exact h (by decide)

/-- Where a string ends can be told whatever follows it. -/
theorem flatMap_escapeChar_quote_inj {cs ds x y : List Char}
    (h : cs.flatMap escapeChar ++ '\x22' :: x = ds.flatMap escapeChar ++ '\x22' :: y) :
    cs = ds := by
  induction cs generalizing ds with
  | nil =>
    cases ds with
    | nil => rfl
    | cons d ds =>
      rw [List.flatMap_cons, List.append_assoc] at h
      exact absurd h.symm (escapeChar_append_ne_quote d _ _)
  | cons c cs ih =>
    cases ds with
    | nil =>
      rw [List.flatMap_cons, List.append_assoc] at h
      exact absurd h (escapeChar_append_ne_quote c _ _)
    | cons d ds =>
      rw [List.flatMap_cons, List.flatMap_cons, List.append_assoc, List.append_assoc] at h
      obtain rfl := escapeChar_append_inj h
      rw [ih (List.append_cancel_left h)]

/-- The string in front can be told. -/
theorem string_append_inj {s t : String} {x y : List Char}
    (h : (string s).toList ++ x = (string t).toList ++ y) : s = t := by
  have inner : s.toList.flatMap escapeChar ++ '\x22' :: x =
      t.toList.flatMap escapeChar ++ '\x22' :: y := by
    simpa [string] using h
  exact String.toList_injective (flatMap_escapeChar_quote_inj inner)

/-- The JSON texts of two strings are the same only if the strings are. -/
theorem string_inj {s t : String} (h : string s = string t) : s = t := by
  have texts : (string s).toList ++ [] = (string t).toList ++ [] := by rw [h]
  exact string_append_inj texts

/-! ## Objects -/

/-- Items between separators can be told if each of them can. -/
theorem intercalate_append_inj {α : Type} {text : α → String} {separator : String} {as bs : List α}
    (told : List.Forall₂
      (fun a b => ∀ x y, (text a).toList ++ x = (text b).toList ++ y → a = b) as bs)
    {x y : List Char}
    (h : (separator.intercalate (as.map text)).toList ++ x =
      (separator.intercalate (bs.map text)).toList ++ y) : as = bs := by
  rw [String.toList_intercalate, String.toList_intercalate] at h
  induction told with
  | nil => rfl
  | @cons a b as bs first rest ih =>
    cases rest with
    | nil =>
      simp only [List.map_cons, List.map_nil, List.intercalate_singleton] at h
      rw [first _ _ h]
    | cons =>
      simp only [List.map_cons, List.intercalate_cons_cons, List.append_assoc] at h ih
      obtain rfl := first _ _ h
      rw [ih (List.append_cancel_left (List.append_cancel_left h))]

theorem object_singleton_inj {name x y : String} (h : object [(name, x)] = object [(name, y)]) :
    x = y := by
  have texts := congrArg String.toList h
  simp only [object, List.map_cons, List.map_nil, String.intercalate_singleton,
    String.toList_append, List.append_assoc, List.append_cancel_left_eq] at texts
  exact String.toList_injective (List.append_cancel_right texts)

/-- Two orders of the same fields have different texts. -/
theorem fields_append_inj {fs gs : List (String × Value)} (nodup : (fs.map Prod.fst).Nodup)
    (perm : fs.Perm gs) {x y : List Char}
    (h : (fields fs).toList ++ x = (fields gs).toList ++ y) : fs = gs := by
  have told : List.Forall₂ (fun f g : String × Value => ∀ x y : List Char,
      (string f.1 ++ ":" ++ value f.2).toList ++ x = (string g.1 ++ ":" ++ value g.2).toList ++ y →
        f = g) fs gs := by
    refine List.forall₂_iff_zip.mpr ⟨perm.length_eq, fun {f g} pair x y same => ?_⟩
    obtain ⟨hf, hg⟩ := List.of_mem_zip pair
    have names : f.1 = g.1 := by
      simp only [String.toList_append, List.append_assoc] at same
      exact string_append_inj same
    exact List.inj_on_of_nodup_map nodup hf (perm.mem_iff.mpr hg) names
  have items : (",".intercalate (fs.map fun f => string f.1 ++ ":" ++ value f.2)).toList ++
      '\x7d' :: x =
        (",".intercalate (gs.map fun f => string f.1 ++ ":" ++ value f.2)).toList ++
          '\x7d' :: y := by
    simpa [fields, object, Function.comp_def] using h
  exact intercalate_append_inj told items

end SqlStore.Json
