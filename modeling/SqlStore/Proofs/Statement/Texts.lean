import SqlStore.Proofs.Statement.Grammar
import SqlStore.Proofs.Token.Written

/-!
# Statements that some text is

Lexemes with spaces between them are a text, whatever they are. So a phrase is read from some text
as soon as each of its tokens has a spelling: a statement can be made from a name that can be
written and values that have literals.
-/

namespace SqlStore

open Phrase (CommaList Literal Derives)

namespace Token

def Spelled (t : Token) : Prop :=
  ∃ w, Spells w t

theorem spelled_keyword (k : Keyword) : Spelled (keyword k) := by
  have reads : ofWord k.letters = keyword k := by
    cases k <;> decide
  have word : IsWord k.letters := by
    cases k <;> decide
  exact ⟨k.letters, reads ▸ spells_ofWord word⟩

theorem spelled_symbol {c : Char} {t : Token} (listed : (c, t) ∈ symbols) : Spelled t :=
  ⟨[c], .symbol listed⟩

/-- Lexemes with a space in front of each can be cut apart again. -/
theorem exists_cut {ts : List Token} (spelled : ∀ t ∈ ts, Spelled t) :
    ∃ cs, Cut (' ' :: cs) (ts ++ [eof]) := by
  have space : ∀ c ∈ [' '], Text.isBlank c = true := List.forall_mem_singleton.mpr (by decide)
  induction ts with
  | nil => exact ⟨[], .done space⟩
  | cons t ts ih =>
    obtain ⟨w, first⟩ := spelled t List.mem_cons_self
    obtain ⟨cs, later⟩ := ih fun u hu => spelled u (List.mem_cons_of_mem _ hu)
    have ends : Ends t (' ' :: cs) := ends_of_blank t (by simpa using space)
    exact ⟨w ++ ' ' :: cs, .next space first ends later⟩

end Token

open Token (Spelled)

namespace Phrase

/-- A list of values that have literals can be written. -/
theorem CommaList.exists_of_literals {vs : List Value} (nonempty : vs ≠ [])
    (literals : ∀ v ∈ vs, ∃ t, Spelled t ∧ t.Denotes v) :
    ∃ ts, CommaList Literal ts vs ∧ ∀ t ∈ ts, Spelled t := by
  induction vs with
  | nil => exact absurd rfl nonempty
  | cons v vs ih =>
    obtain ⟨t, spelled, denotes⟩ := literals v List.mem_cons_self
    cases vs with
    | nil => exact ⟨[t], .one ⟨denotes⟩, List.forall_mem_singleton.mpr spelled⟩
    | cons w vs =>
      obtain ⟨ts, list, all⟩ :=
        ih (List.cons_ne_nil _ _) fun u hu => literals u (List.mem_cons_of_mem _ hu)
      have comma : Spelled .comma := Token.spelled_symbol (c := ',') (by decide)
      exact ⟨[t] ++ .comma :: ts, .more ⟨denotes⟩ list,
        List.forall_mem_cons.mpr ⟨spelled, List.forall_mem_cons.mpr ⟨comma, all⟩⟩⟩

end Phrase

namespace Statement

/-- A phrase whose tokens can be spelled is read from some text. -/
theorem exists_text_of_derives {ts : List Token} {s : Statement} (derives : Derives ts s)
    (spelled : ∀ t ∈ ts, Spelled t) : ∃ sql, ofText sql = .ok s := by
  obtain ⟨cs, cut⟩ := Token.exists_cut spelled
  have tokens : Token.ofText (String.ofList (' ' :: cs)) = .ok (ts ++ [.eof]) := by
    rw [Token.ofText, String.toList_ofList]
    exact Token.scan_eq_ok_iff.mpr cut
  refine ⟨String.ofList (' ' :: cs), ?_⟩
  rw [ofText, tokens]
  exact ofTokens_of_whole (.bare derives)

section

variable {n : String} (table : ∃ t, Spelled t ∧ t.Names n)

include table

/-- Values that have literals can be inserted by a text. -/
theorem exists_text_of_insert {vs : List Value} (nonempty : vs ≠ [])
    (literals : ∀ v ∈ vs, ∃ t, Spelled t ∧ t.Denotes v) :
    ∃ sql, ofText sql = .ok (.insert n vs) := by
  obtain ⟨t, spelled, names⟩ := table
  obtain ⟨ts, list, all⟩ := CommaList.exists_of_literals nonempty literals
  refine exists_text_of_derives (.insert names list) ?_
  have left : Spelled .leftParen := Token.spelled_symbol (c := '(') (by decide)
  have right : Spelled .rightParen := Token.spelled_symbol (c := ')') (by decide)
  simp only [List.forall_mem_cons, List.forall_mem_append]
  exact ⟨Token.spelled_keyword _, Token.spelled_keyword _, spelled, Token.spelled_keyword _, left,
    all, right, List.forall_mem_nil _⟩

/-- One column can be set by a text, in the row that a key addresses. -/
theorem exists_text_of_update {c k : String} {v w : Value} (column : ∃ t, Spelled t ∧ t.Names c)
    (value : ∃ t, Spelled t ∧ t.Denotes v) (keyColumn : ∃ t, Spelled t ∧ t.Names k)
    (key : ∃ t, Spelled t ∧ t.Denotes w) :
    ∃ sql, ofText sql = .ok (.update ⟨n, Row.ofList [(c, v)], k, w⟩) := by
  obtain ⟨t, spelledTable, names⟩ := table
  obtain ⟨tc, spelledColumn, namesColumn⟩ := column
  obtain ⟨tv, spelledValue, denotes⟩ := value
  obtain ⟨tk, spelledKey, namesKey⟩ := keyColumn
  obtain ⟨tw, spelledKeyValue, denotesKey⟩ := key
  refine exists_text_of_derives (.update names (.one (.mk namesColumn denotes))
    (Phrase.assigned_iff.mpr rfl) (.mk namesKey denotesKey)) ?_
  have equal : Spelled .equal := Token.spelled_symbol (c := '=') (by decide)
  simp only [List.forall_mem_cons, List.forall_mem_append]
  exact ⟨Token.spelled_keyword _, spelledTable, Token.spelled_keyword _,
    ⟨spelledColumn, equal, spelledValue, List.forall_mem_nil _⟩, Token.spelled_keyword _,
    spelledKey, equal, spelledKeyValue, List.forall_mem_nil _⟩

end

end Statement

end SqlStore
