import Mathlib.Data.List.Infix
import Mathlib.Data.List.TakeWhile
import SqlMapper.Engine.Pattern

/-!
# Searching with patterns

A pattern that is put together of two matches the texts that are put together of what the two match
(`patternMatches_append`). So a needle with a percent sign on one side or on both matches a text if and only if it
matches an end of the text, or a part of it (`Search.isLike_pattern_iff`). That is the needle itself, up to case, if
and only if there is no wildcard in the needle (`Search.finds_iff_plain`): a needle with wildcards is also found
where it does not stand.
-/

namespace SqlMapper

/-! ## What a pattern matches -/

/-- A percent sign matches any run of characters. -/
theorem patternMatches_percent {p text : List Char} :
    patternMatches ('%' :: p) text = true ↔ ∃ u v, text = u ++ v ∧ patternMatches p v = true := by
  simp only [patternMatches, if_true, List.any_eq_true]
  constructor
  · rintro ⟨v, hv, hmatches⟩
    obtain ⟨u, rfl⟩ := mem_endings.1 hv
    exact ⟨u, v, rfl, hmatches⟩
  · rintro ⟨u, v, rfl, hmatches⟩
    exact ⟨v, mem_endings.2 (List.suffix_append u v), hmatches⟩

/-- Any other sign matches one character. -/
theorem patternMatches_cons {c : Char} (h : c ≠ '%') {p text : List Char} :
    patternMatches (c :: p) text = true ↔ ∃ d rest, text = d :: rest ∧ standsFor c d = true ∧
      patternMatches p rest = true := by
  simp only [patternMatches, if_neg h]
  cases text <;> simp

/-- A pattern that is put together of two matches what is put together of texts that they match. -/
theorem patternMatches_append {p q text : List Char} :
    patternMatches (p ++ q) text = true ↔ ∃ u v, text = u ++ v ∧ patternMatches p u = true ∧
      patternMatches q v = true := by
  induction p generalizing text with
  | nil => simp [patternMatches]
  | cons c p ih =>
    rw [List.cons_append]
    by_cases hc : c = '%'
    · subst hc
      simp only [patternMatches_percent, ih]
      constructor
      · rintro ⟨w, _, rfl, u, v, rfl, hu, hv⟩
        exact ⟨w ++ u, v, (List.append_assoc ..).symm, ⟨w, u, rfl, hu⟩, hv⟩
      · rintro ⟨_, v, rfl, ⟨w, u, rfl, hu⟩, hv⟩
        exact ⟨w, u ++ v, List.append_assoc .., u, v, rfl, hu, hv⟩
    · simp only [patternMatches_cons hc, ih]
      constructor
      · rintro ⟨d, _, rfl, hd, u, v, rfl, hu, hv⟩
        exact ⟨d :: u, v, rfl, ⟨d, u, rfl, hd, hu⟩, hv⟩
      · rintro ⟨_, v, rfl, ⟨d, u, rfl, hd, hu⟩, hv⟩
        exact ⟨d, u ++ v, rfl, hd, u, v, rfl, hu, hv⟩

theorem patternMatches_anything (text : List Char) : patternMatches ['%'] text = true :=
  patternMatches_percent.2 ⟨text, [], (List.append_nil text).symm, rfl⟩

/-! ## Wildcards -/

/-- The signs that stand for other characters. -/
def isWildcard (c : Char) : Bool := c == '%' || c == '_'

/-- A pattern without wildcards matches the texts that are the same up to case. -/
theorem patternMatches_plain {p text : List Char} (h : ∀ c ∈ p, isWildcard c = false) :
    patternMatches p text = true ↔ text.map Char.toLower = p.map Char.toLower := by
  induction p generalizing text with
  | nil => simp [patternMatches]
  | cons c p ih =>
    obtain ⟨hc, hp⟩ := List.forall_mem_cons.1 h
    rw [isWildcard, Bool.or_eq_false_iff, beq_eq_false_iff_ne, beq_eq_false_iff_ne] at hc
    rw [patternMatches_cons hc.1, List.map_cons, List.map_eq_cons_iff]
    simp only [ih hp, standsFor, sameLetter, Bool.or_eq_true, beq_iff_eq, hc.2, false_or]
    constructor
    · rintro ⟨d, rest, rfl, hd, hrest⟩
      exact ⟨d, rest, rfl, hd.symm, hrest⟩
    · rintro ⟨d, rest, rfl, hd, hrest⟩
      exact ⟨d, rest, rfl, hd.symm, hrest⟩

/-- A text that a pattern matches: nothing for each percent sign, and a letter for each underscore. -/
def sampleOf (p : List Char) : List Char := (p.filter fun c => c != '%').map fun c => if c = '_' then 'a' else c

theorem patternMatches_sampleOf (p : List Char) : patternMatches p (sampleOf p) = true := by
  induction p with
  | nil => rfl
  | cons c p ih =>
    by_cases hc : c = '%'
    · subst hc
      exact patternMatches_percent.2 ⟨[], sampleOf p, rfl, ih⟩
    · have hsample : sampleOf (c :: p) = (if c = '_' then 'a' else c) :: sampleOf p := by simp [sampleOf, hc]
      rw [hsample]
      refine (patternMatches_cons hc).2 ⟨_, _, rfl, ?_, ih⟩
      by_cases hunderscore : c = '_'
      · simp [standsFor, hunderscore]
      · simp [standsFor, sameLetter, hunderscore]

/-- There are no wildcards in the sample. -/
theorem isWildcard_of_mem_sampleOf {p : List Char} {c : Char} (hc : c ∈ sampleOf p) : isWildcard c = false := by
  obtain ⟨d, hd, rfl⟩ := List.mem_map.1 hc
  have hpercent : d ≠ '%' := by simpa using (List.mem_filter.1 hd).2
  split
  · decide
  · rename_i hunderscore
    simp [isWildcard, hpercent, hunderscore]

/-- No capital letter has a wildcard for its small one. -/
theorem isWildcard_toLower {c : Char} (h : isWildcard c.toLower = true) : isWildcard c = true := by
  unfold Char.toLower at h
  split at h
  · rename_i hupper
    have hlow : 65 ≤ c.val.toNat := UInt32.le_iff_toNat_le.1 hupper.1
    have hhigh : c.val.toNat ≤ 90 := UInt32.le_iff_toNat_le.1 hupper.2
    rw [isWildcard, Bool.or_eq_true, beq_iff_eq, beq_iff_eq] at h
    have hval : (c.val + ('a'.val - 'A'.val)).toNat = 37 ∨ (c.val + ('a'.val - 'A'.val)).toNat = 95 := by
      rcases h with h | h
      · exact .inl (congrArg (fun d : Char => d.val.toNat) h)
      · exact .inr (congrArg (fun d : Char => d.val.toNat) h)
    have hadd : (c.val + ('a'.val - 'A'.val)).toNat = (c.val.toNat + 32) % 2 ^ 32 := UInt32.toNat_add ..
    omega
  · exact h

/-! ## Texts without null characters -/

/-- A text that does not end early. -/
def WithoutNull (s : String) : Prop := ∀ c ∈ s.toList, c.toNat ≠ 0

-- The list is gone through: there is also an instance for a statement about all characters.
instance (s : String) : Decidable (WithoutNull s) := s.toList.decidableBAll fun c : Char => c.toNat ≠ 0

theorem upToNull_eq {s : String} (h : WithoutNull s) : upToNull s = s.toList := by
  rw [upToNull, List.takeWhile_eq_self_iff]
  exact fun c hc => by simpa using h c hc

/-! ## Searching -/

/-- The three ways of searching a text for a needle: anywhere, at the beginning, at the end. -/
inductive Search where
  | contains | startsWith | endsWith

namespace Search

/-- The pattern of a search: the needle as it is, with percent signs where other characters may stand. -/
def pattern (k : Search) (needle : String) : String :=
  match k with
  | .contains => "%" ++ needle ++ "%"
  | .startsWith => needle ++ "%"
  | .endsWith => "%" ++ needle

/-- A needle stands in a text: anywhere, at the beginning, or at the end. -/
def Finds (k : Search) (needle text : List Char) : Prop :=
  match k with
  | .contains => needle <:+: text
  | .startsWith => needle <+: text
  | .endsWith => needle <:+ text

instance (k : Search) (needle text : List Char) : Decidable (k.Finds needle text) :=
  match k with
  | .contains => inferInstanceAs (Decidable (needle <:+: text))
  | .startsWith => inferInstanceAs (Decidable (needle <+: text))
  | .endsWith => inferInstanceAs (Decidable (needle <:+ text))

/-- A needle stands in a text up to something that is done to all characters if and only if something stands there
that becomes the same. -/
theorem finds_map_iff (k : Search) (f : Char → Char) {needle text : List Char} :
    k.Finds (needle.map f) (text.map f) ↔ ∃ v, k.Finds v text ∧ v.map f = needle.map f := by
  cases k with
  | contains =>
    constructor
    · rintro ⟨a, b, h⟩
      obtain ⟨uv, w, rfl, huv, -⟩ := List.map_eq_append_iff.1 h.symm
      obtain ⟨u, v, rfl, -, hv⟩ := List.map_eq_append_iff.1 huv
      exact ⟨v, List.infix_append u v w, hv⟩
    · rintro ⟨v, hv, heq⟩
      exact heq ▸ hv.map f
  | startsWith =>
    constructor
    · rintro ⟨b, h⟩
      obtain ⟨v, w, rfl, hv, -⟩ := List.map_eq_append_iff.1 h.symm
      exact ⟨v, List.prefix_append v w, hv⟩
    · rintro ⟨v, hv, heq⟩
      exact heq ▸ hv.map f
  | endsWith =>
    constructor
    · rintro ⟨a, h⟩
      obtain ⟨u, v, rfl, -, hv⟩ := List.map_eq_append_iff.1 h.symm
      exact ⟨v, List.suffix_append u v, hv⟩
    · rintro ⟨v, hv, heq⟩
      exact heq ▸ hv.map f

/-- What stands in a text is made of characters of the text. -/
theorem mem_of_finds {k : Search} {needle text : List Char} (h : k.Finds needle text) {c : Char} (hc : c ∈ needle) :
    c ∈ text := by
  cases k with
  | contains => exact h.subset hc
  | startsWith => exact h.subset hc
  | endsWith => exact h.subset hc

theorem finds_self (k : Search) (text : List Char) : k.Finds text text := by
  cases k with
  | contains => exact List.infix_rfl
  | startsWith => exact List.prefix_rfl
  | endsWith => exact List.suffix_rfl

/-- The pattern of a search matches the texts in which something stands that the needle matches. -/
theorem isLike_pattern_iff (k : Search) {needle text : String} (hneedle : WithoutNull needle)
    (htext : WithoutNull text) :
    isLike text (k.pattern needle) = true ↔ ∃ v, k.Finds v text.toList ∧ patternMatches needle.toList v = true := by
  have hpattern : WithoutNull (k.pattern needle) := by
    intro c hc
    have hmem : c ∈ needle.toList ∨ c = '%' := by cases k <;> simp [pattern] at hc <;> tauto
    rcases hmem with hmem | rfl
    · exact hneedle c hmem
    · decide
  rw [isLike_eq, upToNull_eq hpattern, upToNull_eq htext]
  cases k with
  | contains =>
    rw [show (pattern .contains needle).toList = '%' :: (needle.toList ++ ['%']) by simp [pattern]]
    simp only [patternMatches_percent, patternMatches_append, patternMatches_anything, and_true]
    constructor
    · rintro ⟨u, _, htext, v, w, rfl, hv⟩
      exact ⟨v, ⟨u, w, by rw [htext, List.append_assoc]⟩, hv⟩
    · rintro ⟨v, ⟨u, w, htext⟩, hv⟩
      exact ⟨u, v ++ w, by rw [← htext, List.append_assoc], v, w, rfl, hv⟩
  | startsWith =>
    rw [show (pattern .startsWith needle).toList = needle.toList ++ ['%'] by simp [pattern]]
    simp only [patternMatches_append, patternMatches_anything, and_true]
    constructor
    · rintro ⟨v, w, htext, hv⟩
      exact ⟨v, ⟨w, htext.symm⟩, hv⟩
    · rintro ⟨v, ⟨w, htext⟩, hv⟩
      exact ⟨v, w, htext.symm, hv⟩
  | endsWith =>
    rw [show (pattern .endsWith needle).toList = '%' :: needle.toList by simp [pattern]]
    simp only [patternMatches_percent]
    constructor
    · rintro ⟨u, v, htext, hv⟩
      exact ⟨v, ⟨u, htext.symm⟩, hv⟩
    · rintro ⟨v, ⟨u, htext⟩, hv⟩
      exact ⟨u, v, htext.symm, hv⟩

/-- A search tells of every text whether the needle stands in it, up to case, if and only if the needle has no
wildcards. -/
theorem finds_iff_plain (k : Search) {needle : String} (hneedle : WithoutNull needle) :
    (∀ text, WithoutNull text →
        (isLike text (k.pattern needle) = true ↔
          k.Finds (needle.toList.map Char.toLower) (text.toList.map Char.toLower))) ↔
      ∀ c ∈ needle.toList, isWildcard c = false := by
  constructor
  · intro h c hc
    by_contra hwildcard
    -- The sample is matched, but none of its characters has a wildcard for its small letter.
    let sample := String.ofList (sampleOf needle.toList)
    have hsample : WithoutNull sample := by
      intro d hd
      simp only [sample, String.toList_ofList] at hd
      obtain ⟨e, he, rfl⟩ := List.mem_map.1 hd
      split
      · decide
      · exact hneedle e (List.mem_filter.1 he).1
    have hlike : isLike sample (k.pattern needle) = true :=
      (k.isLike_pattern_iff hneedle hsample).2 ⟨_, k.finds_self _, by
        simpa only [sample, String.toList_ofList] using patternMatches_sampleOf needle.toList⟩
    have hfinds := (h sample hsample).1 hlike
    obtain ⟨d, hd, hlower⟩ := List.mem_map.1 (mem_of_finds hfinds (List.mem_map_of_mem (f := Char.toLower) hc))
    simp only [sample, String.toList_ofList] at hd
    have hself : isWildcard c.toLower = true := by
      rw [Bool.not_eq_false, isWildcard, Bool.or_eq_true, beq_iff_eq, beq_iff_eq] at hwildcard
      rcases hwildcard with rfl | rfl <;> decide
    rw [← hlower] at hself
    exact absurd (isWildcard_toLower hself) (ne_true_of_eq_false (isWildcard_of_mem_sampleOf hd))
  · intro hplain text htext
    rw [k.isLike_pattern_iff hneedle htext, k.finds_map_iff]
    exact exists_congr fun v => and_congr_right fun _ => patternMatches_plain hplain

end Search

end SqlMapper
