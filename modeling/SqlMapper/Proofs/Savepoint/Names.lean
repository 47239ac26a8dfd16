import SqlMapper.Savepoint.Session
import SqlMapper.Sql.TermReader
import SqlMapper.Engine.Database

/-!
# Names of savepoints are told apart by the engine

The engine compares names without regard to the case of their letters, and reads no text that holds a null
character. Minted names suffer from neither: two of them that the engine takes for one are the same name, of the
same number and depth (`sameWord_savepointName`), and each can be sent (`isSendable_savepointName`).
-/

namespace SqlMapper

/-- A name that was minted for a depth. -/
def MintedAt (depth : Nat) (name : String) : Prop := ∃ number, name = savepointName number depth

/-- A minted name, whatever its depth. -/
def Minted (name : String) : Prop := ∃ depth, MintedAt depth name

namespace SavepointName

/-- Digits determine the number. -/
theorem toDigits_injective {a b : Nat} (h : Nat.toDigits 10 a = Nat.toDigits 10 b) : a = b := by
  have ha : Nat.ofDigitChars 10 (Nat.toDigits 10 a) 0 = a := Nat.ofDigitChars_ten_toDigits
  rw [h, Nat.ofDigitChars_ten_toDigits] at ha
  exact ha.symm

/-- The characters of a minted name. -/
theorem toList_savepointName (number depth : Nat) :
    (savepointName number depth).toList = 'S' :: (Nat.toDigits 10 number ++ 'D' :: Nat.toDigits 10 depth) := by
  simp [savepointName]

/-- A digit is no letter, so it has no lower case of its own. -/
theorem toLower_of_isDigit {c : Char} (h : c.isDigit = true) : c.toLower = c := by
  simp only [Char.isDigit, Bool.and_eq_true, decide_eq_true_eq] at h
  unfold Char.toLower
  rw [dif_neg]
  intro hc
  have h1 := h.2
  have h2 := hc.1
  exact absurd (UInt32.le_trans h2 h1) (by decide)

theorem map_toLower_toDigits (n : Nat) : (Nat.toDigits 10 n).map Char.toLower = Nat.toDigits 10 n := by
  have h : (Nat.toDigits 10 n).map Char.toLower = (Nat.toDigits 10 n).map id :=
    List.map_congr_left fun c hc => toLower_of_isDigit (Nat.isDigit_of_mem_toDigits (by decide) (by decide) hc)
  rw [h, List.map_id]

/-- Digits before a character that is no digit are all the digits there are. -/
theorem takeWhile_toDigits (n : Nat) (c : Char) (rest : List Char) (hc : c.isDigit = false) :
    (Nat.toDigits 10 n ++ c :: rest).takeWhile Char.isDigit = Nat.toDigits 10 n := by
  have hdigits : ∀ d ∈ Nat.toDigits 10 n, d.isDigit = true :=
    fun d hd => Nat.isDigit_of_mem_toDigits (by decide) (by decide) hd
  rw [List.takeWhile_append_of_pos hdigits, List.takeWhile_cons_of_neg (by simp [hc]), List.append_nil]

end SavepointName

open SavepointName

/-- Two minted names that differ at most in the case of their letters have one number and one depth. -/
theorem sameWord_savepointName {n d n' d' : Nat}
    (h : Sql.sameWord (savepointName n d) (savepointName n' d') = true) : n = n' ∧ d = d' := by
  unfold Sql.sameWord at h
  rw [beq_iff_eq, toList_savepointName, toList_savepointName] at h
  simp only [List.map_cons, List.map_append, map_toLower_toDigits, List.cons.injEq] at h
  have hword := h.2
  have hn : Nat.toDigits 10 n = Nat.toDigits 10 n' := by
    have := congrArg (List.takeWhile Char.isDigit) hword
    rwa [takeWhile_toDigits _ _ _ (by decide), takeWhile_toDigits _ _ _ (by decide)] at this
  rw [hn] at hword
  have hd := List.append_cancel_left hword
  exact ⟨toDigits_injective hn, toDigits_injective (List.cons.inj hd).2⟩

/-- The engine takes two minted names for one only if they are one. -/
theorem sameWord_iff_eq_of_minted {a b : String} (ha : Minted a) (hb : Minted b) :
    Sql.sameWord a b = true ↔ a = b := by
  obtain ⟨d, n, rfl⟩ := ha
  obtain ⟨d', n', rfl⟩ := hb
  constructor
  · intro h
    obtain ⟨rfl, rfl⟩ := sameWord_savepointName h
    rfl
  · rintro h
    simp [h, Sql.sameWord]

/-- Names minted for different depths are different names, for the engine too. -/
theorem not_sameWord_of_mintedAt {a b : String} {d d' : Nat} (ha : MintedAt d a) (hb : MintedAt d' b) (h : d ≠ d') :
    Sql.sameWord a b = false := by
  obtain ⟨n, rfl⟩ := ha
  obtain ⟨n', rfl⟩ := hb
  rw [Bool.eq_false_iff]
  intro hs
  exact h (sameWord_savepointName hs).2

/-- Every name that is minted for a depth carries that depth, however many names in use were passed over. -/
theorem mintedAt_mint (depth : Nat) (inUse : String → Bool) (attempts : Nat) (source : NameSource) :
    MintedAt depth (source.mint depth inUse attempts).1 := by
  induction attempts generalizing source with
  | zero => exact ⟨source.next.1, rfl⟩
  | succ attempts ih =>
    simp only [NameSource.mint]
    split
    · exact ih _
    · exact ⟨source.next.1, rfl⟩

/-! ## The text that carries a name -/

/-- A digit is not the null character. -/
theorem toNat_ne_zero_of_isDigit {c : Char} (h : c.isDigit = true) : c.toNat ≠ 0 := by
  have hlow : 48 ≤ c.toNat := (Char.isDigit_iff_toNat.1 h).1
  omega

/-- A minted name holds no null character. -/
theorem isSendable_savepointName {name : String} (h : Minted name) : isSendable name = true := by
  obtain ⟨depth, number, rfl⟩ := h
  have hdigit : ∀ (n : Nat) (c : Char), c ∈ Nat.toDigits 10 n → c.toNat ≠ 0 := fun n c hc =>
    toNat_ne_zero_of_isDigit (Nat.isDigit_of_mem_toDigits (by decide) (by decide) hc)
  simp only [isSendable, toList_savepointName, List.all_eq_true, List.mem_cons, List.mem_append, bne_iff_ne]
  rintro c (rfl | hc | rfl | hc)
  · decide
  · exact hdigit _ _ hc
  · decide
  · exact hdigit _ _ hc

/-- Quoting doubles marks and adds no other character. -/
theorem mem_double {mark c : Char} {cs : List Char} (h : c ∈ Quoted.double mark cs) : c ∈ cs := by
  induction cs with
  | nil => exact h
  | cons d cs ih =>
    unfold Quoted.double at h
    split at h
    · rename_i hd
      simp only [List.mem_cons] at h ⊢
      rcases h with rfl | rfl | h
      · exact Or.inl hd.symm
      · exact Or.inl hd.symm
      · exact Or.inr (ih h)
    · simp only [List.mem_cons] at h ⊢
      exact h.imp id ih

/-- A quoted name can be sent when the name can. -/
theorem isSendable_quoteIdentifier {name : String} (h : isSendable name = true) :
    isSendable (quoteIdentifier name) = true := by
  simp only [isSendable, List.all_eq_true, bne_iff_ne] at h ⊢
  intro c hc
  simp only [quoteIdentifier, Quoted.write, Quoted.chars, String.toList_ofList, List.mem_cons, List.mem_append,
    List.not_mem_nil, or_false] at hc
  rcases hc with rfl | hc | rfl
  · decide
  · exact h c (mem_double hc)
  · decide

theorem isSendable_append {a b : String} (ha : isSendable a = true) (hb : isSendable b = true) :
    isSendable (a ++ b) = true := by
  simp only [isSendable, String.toList_append, List.all_append, Bool.and_eq_true] at ha hb ⊢
  exact ⟨ha, hb⟩

end SqlMapper
