import SqlMapper.Proofs.Sql.Lexing
import SqlMapper.Sql.StatementReader

/-!
# What is left of a text

Whatever token is read off the front of a text, a part at the end of the text is left (`suffix_lexeme`). So each
token of a text stands before such a part (`suffix_of_mem_placedTokens`), and what tokens are spelled with are
characters of the text (`mem_of_mem_spelling`). A text without semicolons is one segment (`segments_open`).
-/

namespace SqlMapper

namespace Sql

variable {cs rest : List Char}

/-! ## Lexemes -/

/-- Where nothing can be read, nothing of the text is left. -/
theorem suffix_noLexeme (cs : List Char) : noLexeme.2 <:+ cs := List.nil_suffix

/-- What follows a quoted text is an end of what followed its first mark. -/
theorem suffix_scan {mark : Char} {text : List Char} (h : Quoted.scan mark cs = some (text, rest)) : rest <:+ cs := by
  fun_induction Quoted.scan mark cs generalizing text with
  | case1 => cases h
  | case2 =>
    obtain ⟨-, rfl⟩ := Prod.mk.inj (Option.some.inj h)
    exact List.nil_suffix
  | case3 => cases h
  | case4 others ih =>
    obtain ⟨⟨_, _⟩, hscan, he⟩ := Option.map_eq_some_iff.1 h
    obtain ⟨-, rfl⟩ := Prod.mk.inj he
    exact (ih hscan).trans ((List.suffix_cons _ _).trans (List.suffix_cons _ _))
  | case5 d others =>
    obtain ⟨-, rfl⟩ := Prod.mk.inj (Option.some.inj h)
    exact List.suffix_cons _ _
  | case6 c d others hc ih =>
    obtain ⟨⟨_, _⟩, hscan, he⟩ := Option.map_eq_some_iff.1 h
    obtain ⟨-, rfl⟩ := Prod.mk.inj he
    exact (ih hscan).trans (List.suffix_cons _ _)

/-- What follows a comment is an end of the text. -/
theorem suffix_afterComment (cs : List Char) : afterComment cs <:+ cs := by
  fun_induction afterComment cs with
  | case1 others => exact (List.suffix_cons _ _).trans (List.suffix_cons _ _)
  | case2 c others _ ih => exact ih.trans (List.suffix_cons _ _)
  | case3 => exact List.suffix_refl []

/-- A quoted piece takes characters from the front, whether it is closed or not. -/
theorem suffix_quotedLexeme (mark : Char) (make : String → Token) (cs : List Char) :
    (quotedLexeme mark make cs).2 <:+ cs := by
  unfold quotedLexeme
  split
  · exact suffix_scan ‹_›
  · exact suffix_noLexeme cs

theorem suffix_bracketLexeme (cs : List Char) : (bracketLexeme cs).2 <:+ cs := by
  unfold bracketLexeme
  dsimp only
  split
  · rename_i hrest
    exact (List.suffix_cons _ _).trans (hrest ▸ List.drop_suffix _ cs)
  · exact suffix_noLexeme cs

theorem suffix_blobLexeme (cs : List Char) : (blobLexeme cs).2 <:+ cs := by
  unfold blobLexeme
  dsimp only
  split
  · rename_i hrest _
    exact (List.suffix_cons _ _).trans (hrest ▸ List.drop_suffix _ cs)
  · exact suffix_noLexeme cs

/-- So does a number, with its fraction and its exponent. -/
theorem suffix_decimalLexeme (cs : List Char) : (decimalLexeme cs).2 <:+ cs := by
  unfold decimalLexeme
  dsimp only
  split
  · exact suffix_noLexeme cs
  · exact List.drop_suffix _ cs

theorem suffix_hexLexeme (cs : List Char) : (hexLexeme cs).2 <:+ cs := by
  unfold hexLexeme
  dsimp only
  split
  · exact suffix_noLexeme cs
  · exact List.drop_suffix _ cs

theorem suffix_numberLexeme (cs : List Char) : (numberLexeme cs).2 <:+ cs := by
  unfold numberLexeme
  split
  · split
    · exact (suffix_hexLexeme _).trans ((List.suffix_cons _ _).trans (List.suffix_cons _ _))
    · exact suffix_decimalLexeme _
  · exact suffix_decimalLexeme _

/-- The name of a parameter takes characters from the front, with what may stand in parentheses after it. -/
theorem suffix_parameterName {named : Bool} {name : List Char} (h : parameterName named cs = some (name, rest)) :
    rest <:+ cs := by
  fun_induction parameterName named cs generalizing name with
  | case1 named others ih =>
    obtain ⟨⟨_, _⟩, hname, he⟩ := Option.map_eq_some_iff.1 h
    obtain ⟨-, rfl⟩ := Prod.mk.inj he
    exact (ih hname).trans ((List.suffix_cons _ _).trans (List.suffix_cons _ _))
  | case2 named c others _ _ ih =>
    obtain ⟨⟨_, _⟩, hname, he⟩ := Option.map_eq_some_iff.1 h
    obtain ⟨-, rfl⟩ := Prod.mk.inj he
    exact (ih hname).trans (List.suffix_cons _ _)
  | case4 named others _ inner left hleft =>
    obtain ⟨-, rfl⟩ := Prod.mk.inj (Option.some.inj h)
    exact ((List.suffix_cons _ _).trans (hleft ▸ List.drop_suffix _ others)).trans (List.suffix_cons _ _)
  | case6 named c others =>
    obtain ⟨-, rfl⟩ := Prod.mk.inj (Option.some.inj h)
    exact List.suffix_refl _
  | case7 =>
    obtain ⟨-, rfl⟩ := Prod.mk.inj (Option.some.inj h)
    exact List.suffix_refl []
  | _ => cases h

theorem suffix_namedLexeme (mark : Char) (cs : List Char) : (namedLexeme mark cs).2 <:+ cs := by
  unfold namedLexeme
  split
  · exact suffix_parameterName ‹_›
  · exact suffix_noLexeme cs

theorem suffix_placeLexeme (cs : List Char) : (placeLexeme cs).2 <:+ cs := by
  unfold placeLexeme
  dsimp only
  split
  · exact List.suffix_refl cs
  · split
    · exact List.drop_suffix _ cs
    · exact suffix_noLexeme cs

theorem suffix_symbolLexeme (c : Char) (cs : List Char) : (symbolLexeme c cs).2 <:+ cs := by
  unfold symbolLexeme
  split
  · exact List.drop_suffix _ cs
  · split
    · exact List.suffix_refl cs
    · exact suffix_noLexeme cs

/-- A token leaves a part at the end of the text. -/
theorem suffix_lexeme (c : Char) (cs : List Char) : (lexeme c cs).2 <:+ c :: cs := by
  have hcons : ∀ {us : List Char}, us <:+ cs → us <:+ c :: cs := fun h => h.trans (List.suffix_cons c cs)
  have hite : ∀ {p : Prop} [Decidable p] {a b : Lexeme}, a.2 <:+ c :: cs → b.2 <:+ c :: cs →
      (if p then a else b).2 <:+ c :: cs := by
    intro p _ a b ha hb
    split
    · exact ha
    · exact hb
  unfold lexeme
  refine hite (hcons (List.dropWhile_suffix _)) ?_
  refine hite (hcons (suffix_quotedLexeme _ _ cs))
    (hite (hcons (suffix_quotedLexeme _ _ cs)) (hite (hcons (suffix_quotedLexeme _ _ cs)) ?_))
  refine hite (hcons (suffix_bracketLexeme cs)) (hite (hcons ((suffix_blobLexeme _).trans (List.drop_suffix _ cs))) ?_)
  refine hite (hcons (List.suffix_refl cs)) ?_
  refine hite (List.drop_suffix _ _) (hite (suffix_numberLexeme _) ?_)
  refine hite (hcons (suffix_placeLexeme cs)) (hite (hcons (suffix_namedLexeme c cs)) ?_)
  refine hite (hcons (List.dropWhile_suffix _))
    (hite (hcons ((suffix_afterComment _).trans (List.drop_suffix _ cs))) ?_)
  exact hcons (suffix_symbolLexeme c cs)

/-! ## Texts -/

/-- A token of a text stands before a part at the end of the text. -/
theorem suffix_of_mem_placedTokens {p : Token × List Char} (h : p ∈ placedTokens cs) : p.2 <:+ cs := by
  induction cs using placedTokens.induct with
  | case1 => simp [placedTokens] at h
  | case2 c cs ih =>
    rw [placedTokens] at h
    rcases List.mem_append.1 h with h | h
    · obtain ⟨t, -, rfl⟩ := List.mem_map.1 h
      exact List.suffix_refl _
    · split at h
      · rename_i hle
        exact (ih hle h).trans (suffix_lexeme c cs)
      · cases h

/-- White space that is cut off brings in no characters. -/
theorem mem_trimSpacing {c : Char} (h : c ∈ trimSpacing cs) : c ∈ cs := by
  have hmem : c ∈ ((cs.dropWhile isSpacing).reverse).dropWhile isSpacing := List.mem_reverse.1 h
  have hback : c ∈ cs.dropWhile isSpacing := List.mem_reverse.1 ((List.dropWhile_suffix _).subset hmem)
  exact (List.dropWhile_suffix _).subset hback

/-- Tokens are spelled with characters of the text. -/
theorem mem_of_mem_spelling {starts : List (List Char)} (hstarts : ∀ start ∈ starts, start <:+ cs) {stop : List Char}
    (hstop : stop <:+ cs) (first last : Nat) {c : Char}
    (h : c ∈ (Spelling.ofStarts starts stop first last).toList) : c ∈ cs := by
  simp only [Spelling.ofStarts, String.toList_ofList] at h
  have htext := (List.take_prefix _ _).subset (mem_trimSpacing h)
  cases honwards : (stop :: starts.reverse)[first]? with
  | none =>
    rw [honwards] at htext
    cases htext
  | some text =>
    rw [honwards] at htext
    have hsuffix : text <:+ cs := by
      rcases List.mem_cons.1 (List.mem_of_getElem? honwards) with rfl | hmem
      · exact hstop
      · exact hstarts text (List.mem_reverse.1 hmem)
    exact hsuffix.subset htext

/-- Tokens without a semicolon are one segment, which is not closed. -/
theorem segments_open {ts : List (Token × List Char)} (h : .symbol .semicolon ∉ ts.map Prod.fst) :
    segments ts = [⟨ts, [], false⟩] := by
  induction ts with
  | nil => rfl
  | cons t ts ih =>
    simp only [List.map_cons, List.mem_cons, not_or] at h
    rw [segments, if_neg (Ne.symm h.1), ih h.2]

end Sql

end SqlMapper
