import KvStore.Sql.Identifier
import KvStore.Sql.Token

/-!
# Quoted identifiers read back

The SQL reader takes a delimited identifier as an opening double quote, then characters up
to a closing quote that stands alone, a doubled quote standing for one
(`Lexer.quotedBody`). A quoted identifier followed by any text that does not start with a
double quote reads back as exactly that identifier, and no following text ends it early:
the reader always consumes the whole quoted form, and a following quote only makes it read
on. Quoting is therefore injective. A dotted name is quoted segment by segment, split at
every dot, and a table name with a schema is the dotted name of schema and table
(`quoted_identifiers_read_back`).
-/

namespace KvStore

namespace Sql

def doubleQuotes (s : List Char) : List Char :=
  s.flatMap fun c => if c = '"' then ['"', '"'] else [c]

theorem quoteIdentifier_toList (s : String) :
    (quoteIdentifier s).toList = '"' :: (doubleQuotes s.toList ++ ['"']) := by
  simp [quoteIdentifier, doubleQuotes]

/-- The delimited identifier at the head of SQL text, read by the tokenizer's rule, with the
text after it. -/
def readDelimited : List Char → Option (List Char × List Char)
  | '"' :: rest => Lexer.quotedBody '"' rest []
  | _ => none

namespace Lexer

variable {close c : Char} {rest acc : List Char}

theorem quotedBody_other (h : c ≠ close) :
    quotedBody close (c :: rest) acc = quotedBody close rest (c :: acc) := by
  rw [quotedBody.eq_def]
  simp [h]

theorem quotedBody_doubled :
    quotedBody close (close :: close :: rest) acc = quotedBody close rest (close :: acc) := by
  simp [quotedBody]

theorem quotedBody_close (h : rest.head? ≠ some close) :
    quotedBody close (close :: rest) acc = some (acc.reverse, rest) := by
  cases rest with
  | nil => simp [quotedBody]
  | cons d rest =>
    have hd : d ≠ close := by simpa using h
    simp [quotedBody, hd]

theorem quotedBody_doubleQuotes (s r acc : List Char) :
    quotedBody '"' (doubleQuotes s ++ r) acc = quotedBody '"' r (s.reverse ++ acc) := by
  induction s generalizing acc with
  | nil => rfl
  | cons c s ih =>
    by_cases hc : c = '"'
    · subst hc
      simp only [doubleQuotes, List.flatMap_cons, if_true, List.cons_append, List.nil_append] at ih ⊢
      rw [quotedBody_doubled, ih]
      simp
    · simp only [doubleQuotes, List.flatMap_cons, hc, if_false, List.cons_append, List.nil_append] at ih ⊢
      rw [quotedBody_other hc, ih]
      simp

theorem quotedBody_spec {cs body after : List Char} (h : quotedBody close cs acc = some (body, after)) :
    acc.reverse <+: body ∧ after <:+ cs := by
  fun_induction quotedBody close cs acc with
  | case1 => simp at h
  | case2 c acc _ d rest _ ih =>
    -- a doubled quote: one quote read, two characters passed
    obtain ⟨hread, hleft⟩ := ih h
    refine ⟨(List.prefix_append _ _).trans (by simpa using hread), hleft.trans ?_⟩
    exact (List.suffix_cons _ _).trans (List.suffix_cons _ _)
  | case3 c acc _ d rest _ =>
    obtain ⟨rfl, rfl⟩ := Prod.mk.inj (Option.some.inj h)
    exact ⟨List.prefix_refl _, List.suffix_cons _ _⟩
  | case4 c acc _ =>
    obtain ⟨rfl, rfl⟩ := Prod.mk.inj (Option.some.inj h)
    exact ⟨List.prefix_refl _, List.nil_suffix⟩
  | case5 c rest acc _ ih =>
    obtain ⟨hread, hleft⟩ := ih h
    exact ⟨(List.prefix_append _ _).trans (by simpa using hread), hleft.trans (List.suffix_cons _ _)⟩

end Lexer

section Reading

variable {rest : List Char}

/-- A quoted identifier followed by text that does not start with a quote reads back as the
identifier, the text after it left over. -/
theorem readDelimited_quote (s : String) (h : rest.head? ≠ some '"') :
    readDelimited ((quoteIdentifier s).toList ++ rest) = some (s.toList, rest) := by
  simp only [quoteIdentifier_toList, List.cons_append, List.nil_append, List.append_assoc, readDelimited]
  rw [Lexer.quotedBody_doubleQuotes, Lexer.quotedBody_close h, List.append_nil, List.reverse_reverse]

theorem readDelimited_quote_quote (s : String) (rest : List Char) :
    readDelimited ((quoteIdentifier s).toList ++ '"' :: rest) =
      Lexer.quotedBody '"' rest ('"' :: s.toList.reverse) := by
  simp only [quoteIdentifier_toList, List.cons_append, List.nil_append, List.append_assoc, readDelimited]
  rw [Lexer.quotedBody_doubleQuotes, Lexer.quotedBody_doubled, List.append_nil]

/-- Whatever follows it, the reader takes the whole of a quoted identifier: what it reads
starts with the identifier, and what it leaves is part of the following text. -/
theorem readDelimited_quote_spec {s : String} {ident after : List Char}
    (h : readDelimited ((quoteIdentifier s).toList ++ rest) = some (ident, after)) :
    s.toList <+: ident ∧ after <:+ rest := by
  cases rest with
  | nil =>
    rw [readDelimited_quote s (by simp)] at h
    obtain ⟨rfl, rfl⟩ := Prod.mk.inj (Option.some.inj h)
    exact ⟨List.prefix_refl _, List.suffix_refl _⟩
  | cons d rest =>
    by_cases hd : d = '"'
    · -- the quote continues the identifier, which then reads on past it
      subst hd
      rw [readDelimited_quote_quote] at h
      obtain ⟨hread, hleft⟩ := Lexer.quotedBody_spec h
      exact ⟨(List.prefix_append _ _).trans (by simpa using hread), hleft.trans (List.suffix_cons _ _)⟩
    · rw [readDelimited_quote s (by simpa using hd)] at h
      obtain ⟨rfl, rfl⟩ := Prod.mk.inj (Option.some.inj h)
      exact ⟨List.prefix_refl _, List.suffix_refl _⟩

/-- The tokenizer reads text that opens with a double quote by `readDelimited`: one quoted
token, written as the text it consumed. -/
theorem tokens_of_delimited (fuel offset : Nat) (rest : List Char) (acc : List Token) :
    Lexer.tokens (fuel + 1) ('"' :: rest) offset acc =
      match readDelimited ('"' :: rest) with
      | some (body, after) =>
        let used := ('"' :: rest).take (rest.length + 1 - after.length)
        Lexer.tokens fuel after (offset + Lexer.byteLength used)
          ({ kind := .quoted (String.ofList body), offset, text := String.ofList used } :: acc)
      | none =>
        (acc.reverse, some { message := "unrecognized token: \"" ++ String.ofList ('"' :: rest) ++ "\"",
                             offset := some offset }) := by
  simp only [Lexer.tokens, readDelimited]
  rfl

/-- The tokenizer reads a quoted identifier followed by text that does not start with a
quote as one token: the quoted identifier itself, written exactly as quoted. -/
theorem tokens_quoteIdentifier (s : String) (h : rest.head? ≠ some '"') (fuel offset : Nat)
    (acc : List Token) :
    Lexer.tokens (fuel + 1) ((quoteIdentifier s).toList ++ rest) offset acc =
      Lexer.tokens fuel rest (offset + Lexer.byteLength (quoteIdentifier s).toList)
        ({ kind := .quoted s, offset, text := quoteIdentifier s } :: acc) := by
  obtain ⟨body, hbody⟩ : ∃ body, (quoteIdentifier s).toList = '"' :: body :=
    ⟨_, quoteIdentifier_toList s⟩
  have hread := readDelimited_quote s h
  rw [hbody, List.cons_append] at hread ⊢
  rw [tokens_of_delimited, hread]
  -- the consumed text is the quoted form: the input less what follows it
  have hused : ('"' :: (body ++ rest)).take ((body ++ rest).length + 1 - rest.length) = '"' :: body := by
    rw [← List.cons_append, List.length_append, show body.length + rest.length + 1 - rest.length =
      ('"' :: body).length by simp; omega, List.take_left]
  simp only [hused, ← hbody, String.ofList_toList]

theorem quoteIdentifier_injective : Function.Injective quoteIdentifier := by
  intro s t same
  have hs : readDelimited ((quoteIdentifier s).toList ++ []) = some (s.toList, []) :=
    readDelimited_quote s (by simp)
  rw [same, readDelimited_quote t (by simp)] at hs
  exact String.toList_inj.1 (Prod.mk.inj (Option.some.inj hs)).1.symm

end Reading

theorem splitOn_eq_list_splitOn (sep : Char) (cs : List Char) : splitOn sep cs = cs.splitOn sep := by
  induction cs with
  | nil => rfl
  | cons c rest ih =>
    rw [List.splitOn_cons_eq_if_modifyHead]
    by_cases hc : c = sep
    · simp [splitOn, hc, ih]
    · obtain ⟨first, more, split⟩ := List.exists_cons_of_ne_nil (List.splitOn_ne_nil sep rest)
      simp [splitOn, hc, ih, split]

theorem escapeIdentifier_eq_segments (s : String) :
    escapeIdentifier s =
      ".".intercalate ((s.toList.splitOn '.').map fun seg => quoteIdentifier (String.ofList seg)) := by
  simp [escapeIdentifier, splitOn_eq_list_splitOn]

end Sql

namespace TableName

variable {t : TableName}

theorem qualified_of_schema {sc : String} (hs : t.schema = some sc) (hsc : '.' ∉ sc.toList)
    (hn : '.' ∉ t.name.toList) : t.qualified = Sql.escapeIdentifier (sc ++ "." ++ t.name) := by
  have split : (sc ++ "." ++ t.name).toList.splitOn '.' = [sc.toList, t.name.toList] := by
    simp [List.splitOn_append_cons_self_of_not_mem hsc, List.splitOn_eq_singleton hn]
  rw [Sql.escapeIdentifier_eq_segments, split]
  simp [qualified, hs]

theorem qualified_of_no_schema (hs : t.schema = none) : t.qualified = Sql.quoteIdentifier t.name := by
  simp [qualified, hs]

end TableName

namespace Sql

/-- Quoting is lossless and closed to injection. The tokenizer reads a quoted identifier
followed by text that does not open with a double quote as exactly one token, the quoted
identifier, written as quoted; whatever follows, the reader never stops inside the quoted
form; quoting is injective; a dotted name is quoted segment by segment; and a table name
with a schema is the dotted name of both. -/
theorem quoted_identifiers_read_back :
    (∀ s rest : String, rest.toList.head? ≠ some '"' → ∀ fuel offset acc,
      Lexer.tokens (fuel + 1) (quoteIdentifier s ++ rest).toList offset acc =
        Lexer.tokens fuel rest.toList (offset + Lexer.byteLength (quoteIdentifier s).toList)
          ({ kind := .quoted s, offset, text := quoteIdentifier s } :: acc)) ∧
    (∀ (s rest : String) (ident after : List Char),
      readDelimited (quoteIdentifier s ++ rest).toList = some (ident, after) →
        s.toList <+: ident ∧ after <:+ rest.toList) ∧
    Function.Injective quoteIdentifier ∧
    (∀ s, escapeIdentifier s =
      ".".intercalate ((s.toList.splitOn '.').map fun seg => quoteIdentifier (String.ofList seg))) ∧
    (∀ (t : TableName) (sc : String), t.schema = some sc → '.' ∉ sc.toList → '.' ∉ t.name.toList →
      t.qualified = escapeIdentifier (sc ++ "." ++ t.name)) ∧
    ∀ t : TableName, t.schema = none → t.qualified = quoteIdentifier t.name :=
  ⟨fun s _ h fuel offset acc => by
      rw [String.toList_append]
      exact tokens_quoteIdentifier s h fuel offset acc,
    fun _ _ _ _ h => readDelimited_quote_spec (by rwa [String.toList_append] at h),
    quoteIdentifier_injective, escapeIdentifier_eq_segments,
    fun _ _ hs hsc hn => TableName.qualified_of_schema hs hsc hn,
    fun _ hs => TableName.qualified_of_no_schema hs⟩

/-- A double quote right after a quoted identifier continues it: `"a"` followed by `"b"`
reads as the one identifier `a"b`, not as `a` followed by `"b"`. -/
theorem quote_then_quote_reads_as_one_identifier :
    readDelimited (quoteIdentifier "a" ++ "\"b\"").toList = some ("a\"b".toList, []) := by
  decide

end Sql

end KvStore
