import Mathlib.Data.List.Infix
import Mathlib.Data.List.Forall2
import SqlStore.Proofs.Token.Scanned
import SqlStore.Proofs.Token.Written

/-!
# Which words are reserved

Reserved words are compared by uppercase form, and the uppercase form of ten characters that are not
ASCII is made of ASCII letters. Eight of them become two letters or three, none of which stand side
by side in a reserved word. The long s and the dotless i become one, so they may stand for S and I.
Any other word is an identifier and keeps its letters.
-/

namespace SqlStore

namespace Text

/-- The uppercase form of the character is the one letter, which is an ASCII letter. -/
def StandsFor (c l : Char) : Prop :=
  c.toUpper = l ∨ (c = '\u017f' ∧ l = 'S') ∨ (c = '\u0131' ∧ l = 'I')

instance (c l : Char) : Decidable (StandsFor c l) :=
  inferInstanceAs (Decidable (_ ∨ _))

/-- The pairs of letters with which the uppercase forms of ligatures begin. -/
def ligatures : List (List Char) :=
  [['S', 'S'], ['S', 'T'], ['F', 'F'], ['F', 'I'], ['F', 'L']]

/-- Uppercase ASCII letters that no ligature stands for, not even in part. -/
structure Plain (u : List Char) : Prop where
  letters : ∀ l ∈ u, l.isUpper = true
  apart : ∀ p ∈ ligatures, ¬ p <:+: u

theorem Plain.tail {l : Char} {u : List Char} (plain : Plain (l :: u)) : Plain u where
  letters := fun c hc => plain.letters c (List.mem_cons_of_mem _ hc)
  apart := fun p hp inside =>
    plain.apart p hp (inside.trans (List.suffix_cons l u).isInfix)

theorem upperChar_cases (c : Char) :
    (∃ l, upperChar c = [l] ∧ StandsFor c l) ∨ ∃ p ∈ ligatures, p <+: upperChar c := by
  unfold upperChar
  split
  case h_2 => exact Or.inl ⟨'I', rfl, Or.inr (Or.inr ⟨rfl, rfl⟩)⟩
  case h_3 => exact Or.inl ⟨'S', rfl, Or.inr (Or.inl ⟨rfl, rfl⟩)⟩
  case h_11 => exact Or.inl ⟨_, rfl, Or.inl rfl⟩
  all_goals exact Or.inr (by decide)

theorem upperChar_of_standsFor {c l : Char} (letter : l.isUpper = true) (h : StandsFor c l) :
    upperChar c = [l] := by
  obtain rfl | ⟨rfl, rfl⟩ | ⟨rfl, rfl⟩ := h
  · -- the other ten characters are their own ASCII uppercase form, which is no ASCII letter
    unfold upperChar
    split
    case h_11 => rfl
    all_goals cases letter
  · rfl
  · rfl

/-- Plain letters are the uppercase form of the words that spell them one by one. -/
theorem upper_eq_iff {w u : List Char} (plain : Plain u) :
    upper w = u ↔ List.Forall₂ StandsFor w u := by
  induction w generalizing u with
  | nil => cases u <;> simp [upper]
  | cons c w ih =>
    have front : upper (c :: w) = upperChar c ++ upper w := List.flatMap_cons
    constructor
    · rintro rfl
      rw [front] at plain ⊢
      obtain ⟨l, single, stands⟩ | ⟨p, listed, several⟩ := upperChar_cases c
      · rw [single] at plain ⊢
        exact .cons stands ((ih plain.tail).mp rfl)
      · exact absurd (several.trans (List.prefix_append _ _)).isInfix (plain.apart p listed)
    · rintro (_ | ⟨stands, later⟩)
      rw [front, upperChar_of_standsFor (plain.letters _ List.mem_cons_self) stands,
        (ih plain.tail).mpr later]
      rfl

end Text

namespace Token

/-- The word spells the letters up to case, the long s and the dotless i taken for S and I. -/
def Variant (w : List Char) (u : String) : Prop :=
  List.Forall₂ Text.StandsFor w u.toList

instance (w : List Char) (u : String) : Decidable (Variant w u) :=
  inferInstanceAs (Decidable (List.Forall₂ _ _ _))

theorem plain_of_mem_reserved : ∀ p ∈ reserved, Text.Plain p.1.toList := by
  have letters : ∀ p ∈ reserved, p.1.toList.all Char.isUpper = true := by decide
  have apart : ∀ p ∈ reserved, ∀ l ∈ Text.ligatures, ¬ l <:+: p.1.toList := by decide
  exact fun p hp => ⟨List.all_eq_true.mp (letters p hp), apart p hp⟩

section

variable {w v : List Char} {p : String × Token}

theorem upper_eq_iff_variant (listed : p ∈ reserved) : Text.upper w = p.1.toList ↔ Variant w p.1 :=
  Text.upper_eq_iff (plain_of_mem_reserved p listed)

/-- Reserved words are told apart by their tokens. -/
theorem eq_of_mem_reserved {q : String × Token} (hp : p ∈ reserved) (hq : q ∈ reserved)
    (h : p.2 = q.2) : p = q := by
  have tokens : (reserved.map Prod.snd).Nodup := by decide
  exact List.inj_on_of_nodup_map tokens hp hq h

/-- A word is a variant of a reserved one and read as its token, or keeps its letters. -/
theorem ofWord_cases (w : List Char) :
    (∃ p ∈ reserved, Variant w p.1 ∧ ofWord w = p.2) ∨
      (∀ p ∈ reserved, ¬ Variant w p.1) ∧ ofWord w = ident (String.ofList w) := by
  by_cases spelled : ∃ p ∈ reserved, Variant w p.1
  · obtain ⟨p, listed, variant⟩ := spelled
    exact Or.inl ⟨p, listed, variant,
      ofWord_of_reserved listed ((upper_eq_iff_variant listed).mpr variant)⟩
  · have free : ∀ p ∈ reserved, ¬ Variant w p.1 := fun p listed h => spelled ⟨p, listed, h⟩
    exact Or.inr ⟨free, ofWord_of_free fun p listed =>
      (upper_eq_iff_variant listed).not.mpr (free p listed)⟩

theorem ofWord_eq_iff_variant (listed : p ∈ reserved) : ofWord w = p.2 ↔ Variant w p.1 := by
  refine ⟨fun h => ?_, fun variant => ?_⟩
  · obtain ⟨q, hq, variant, read⟩ | ⟨-, read⟩ := ofWord_cases w
    · obtain rfl := eq_of_mem_reserved listed hq (h.symm.trans read)
      exact variant
    · have noIdent : ∀ q ∈ reserved, ∀ s, q.2 ≠ ident s := by
        unfold reserved
        simp
      exact absurd (h.symm.trans read) (noIdent p listed _)
  · exact ofWord_of_reserved listed ((upper_eq_iff_variant listed).mpr variant)

/-- A reserved word is read as a name in one of its own variants. -/
theorem variant_of_name? (listed : p ∈ reserved) {n : String} (name : p.2.name? = some n) :
    Variant n.toList p.1 := by
  have upper : ∀ p ∈ reserved, ∀ n ∈ p.2.name?, Text.upper n.toList = p.1.toList := by decide
  exact (upper_eq_iff_variant listed).mp (upper p listed n name)

/-- Words with a name in common are the same word or variants of the same reserved one. -/
theorem variants_of_common_name {n : String} (left : (ofWord v).name? = some n)
    (right : (ofWord w).name? = some n) (other : v ≠ w) :
    ∃ p ∈ reserved, Variant v p.1 ∧ Variant w p.1 := by
  have named : ∀ {u : List Char}, (ident (String.ofList u)).name? = some n → u = n.toList := by
    rintro u ⟨⟩
    exact String.toList_ofList.symm
  obtain ⟨p, hp, variantV, readV⟩ | ⟨-, readV⟩ := ofWord_cases v <;>
    obtain ⟨q, hq, variantW, readW⟩ | ⟨-, readW⟩ := ofWord_cases w <;>
    rw [readV] at left <;> rw [readW] at right
  · have apart : ∀ p ∈ reserved, ∀ q ∈ reserved, ∀ n ∈ p.2.name?, n ∈ q.2.name? → p = q := by
      decide
    obtain rfl := apart p hp q hq n left right
    exact ⟨p, hp, variantV, variantW⟩
  · exact ⟨p, hp, variantV, named right ▸ variant_of_name? hp left⟩
  · exact ⟨q, hq, named left ▸ variant_of_name? hq right, variantW⟩
  · exact absurd ((named left).trans (named right).symm) other

end

/-- Only variants of a reserved word are read as its token. Every other word is an identifier with
the letters it has, so it is no literal, and different words have a name in common only as variants
of one reserved word. -/
theorem reserved_iff_variant (w : List Char) (word : IsWord w) :
    (∀ rest, (∀ c ∈ rest.head?, Text.isWordChar c = false) →
      scan (w ++ rest) = (scan rest).map (ofWord w :: ·)) ∧
    (∀ p ∈ reserved, ofWord w = p.2 ↔ Variant w p.1) ∧
    ((∀ p ∈ reserved, ¬ Variant w p.1) →
      ofWord w = ident (String.ofList w) ∧ (ofWord w).literal? = none) ∧
    ∀ v n, v ≠ w → (ofWord v).name? = some n → (ofWord w).name? = some n →
      ∃ p ∈ reserved, Variant v p.1 ∧ Variant w p.1 := by
  refine ⟨fun rest stop => ?_, fun p => ofWord_eq_iff_variant, fun free => ?_,
    fun v n other left right => variants_of_common_name left right other⟩
  · have ends : Ends (ofWord w) rest := by
      rw [Ends, goesOn_ofWord]
      exact stop
    exact (Scanned.of_spells (List.forall_mem_nil _) (spells_ofWord word) ends).scan_eq
  · obtain ⟨p, listed, variant, -⟩ | ⟨-, read⟩ := ofWord_cases w
    · exact absurd variant (free p listed)
    · exact ⟨read, read ▸ rfl⟩

/-- The long s stands for S, while the ligature of f and i stands for no two letters. -/
theorem reserved_iff_variant_long_s :
    scan ['\u017f', 'e', 't', ' '] = .ok [keyword .set, eof] ∧
      ofWord ['\ufb01', 'x'] = ident (String.ofList ['\ufb01', 'x']) ∧
      ∃ p ∈ reserved, Variant ['s', 'e', 't'] p.1 ∧ Variant ['\u017f', 'e', 't'] p.1 := by
  obtain ⟨reads, iff, -, names⟩ := reserved_iff_variant ['\u017f', 'e', 't'] (by decide)
  obtain ⟨-, -, free, -⟩ := reserved_iff_variant ['\ufb01', 'x'] (by decide +kernel)
  have set : ofWord ['\u017f', 'e', 't'] = keyword .set :=
    (iff ("SET", keyword .set) (by decide)).mpr (by decide)
  have plain : ofWord ['s', 'e', 't'] = keyword .set := by decide
  refine ⟨?_, (free (by decide)).1, names ['s', 'e', 't'] "set" (by decide) ?_ ?_⟩
  · rw [← set]
    have blank : scan [' '] = .ok [eof] := scan_of_blank rfl
    exact (reads [' '] (by simpa using by decide)).trans (by rw [blank]; rfl)
  · rw [plain]
    rfl
  · rw [set]
    rfl

/-- With a long s in front, `SET` stays a keyword. -/
theorem reserved_beyond_letter_case :
    ¬ ∀ w, IsWord w → ∀ p ∈ reserved,
      (scan w = .ok [p.2, eof] ↔ w.map Char.toUpper = p.1.toList) := by
  intro h
  have word : IsWord ['\u017f', 'e', 't'] := by decide
  have read : scan ['\u017f', 'e', 't'] = .ok [keyword .set, eof] := by decide +kernel
  have upper := (h _ word ("SET", keyword .set) (by decide)).mp read
  revert upper
  decide

end Token

end SqlStore
