import Mathlib.Data.List.Forall2
import SqlMapper.Sql.Place

/-!
# Numbers of places

Where no place asks for a number of its own, the parameters of a statement are its places from left to right, each
name once. The number of a place is where the place stands among them (`places_numbered`), so places of one name
share a number, and places without a name take the numbers of the parameters without one, in order
(`valuesOfAnonymous_numbered`).
-/

namespace SqlMapper

namespace Sql

/-- A place that asks for no number of its own. -/
def Place.Unnumbered (p : Place) : Prop := ∀ n, p ≠ .numbered n

/-- The values that stand at places without a name, in order. -/
def valuesOfAnonymous (places : List Place) (values : List Native) : List Native :=
  ((places.zip values).filter fun p => p.1 = .anonymous).map Prod.snd

@[simp] theorem valuesOfAnonymous_nil (values : List Native) : valuesOfAnonymous [] values = [] := rfl

@[simp] theorem valuesOfAnonymous_anonymous (places : List Place) (v : Native) (values : List Native) :
    valuesOfAnonymous (.anonymous :: places) (v :: values) = v :: valuesOfAnonymous places values := by
  simp [valuesOfAnonymous]

@[simp] theorem valuesOfAnonymous_named (mark : Char) (name : String) (places : List Place) (v : Native)
    (values : List Native) :
    valuesOfAnonymous (.named mark name :: places) (v :: values) = valuesOfAnonymous places values := by
  simp [valuesOfAnonymous]

/-- Values for places that come one after another are taken one after another. -/
theorem valuesOfAnonymous_append {places : List Place} {values : List Native} (h : places.length = values.length)
    (more : List Place) (others : List Native) :
    valuesOfAnonymous (places ++ more) (values ++ others) = valuesOfAnonymous places values ++
      valuesOfAnonymous more others := by
  simp [valuesOfAnonymous, List.zip_append h]

/-- There are as many of them as places without a name. -/
theorem length_valuesOfAnonymous {places : List Place} {values : List Native} (h : places.length = values.length) :
    (valuesOfAnonymous places values).length = places.count .anonymous := by
  induction places generalizing values with
  | nil => rfl
  | cons p places ih =>
    obtain ⟨v, values, rfl⟩ := List.exists_cons_of_length_eq_add_one h.symm
    have hrest := ih (Nat.succ.inj h)
    by_cases hp : p = .anonymous
    · subst hp
      rw [valuesOfAnonymous_anonymous, List.length_cons, hrest, List.count_cons_self]
    · rw [List.count_cons_of_ne hp, ← hrest]
      simp [valuesOfAnonymous, hp]

/-- Parameters that are numbered stay where they are. -/
theorem prefix_parametersFrom (seen places : List Place) : seen <+: parametersFrom seen places := by
  induction places generalizing seen with
  | nil => exact List.prefix_refl _
  | cons p rest ih =>
    cases p with
    | anonymous => exact (List.prefix_append _ _).trans (ih _)
    | numbered n => exact (List.prefix_append _ _).trans (ih _)
    | named mark name =>
      rw [parametersFrom]
      split
      · exact ih _
      · exact (List.prefix_append _ _).trans (ih _)

/-- The next parameter stands after those that are numbered. -/
theorem getElem?_parametersFrom (seen : List Place) (p : Place) (places : List Place) :
    (parametersFrom (seen ++ [p]) places)[seen.length]? = some p := by
  obtain ⟨rest, hrest⟩ := prefix_parametersFrom (seen ++ [p]) places
  rw [← hrest]
  simp

/-- Where the first place of a name is among the parameters. -/
theorem getElem?_of_idxOf? {seen : List Place} {p : Place} {i : Nat} (h : seen.idxOf? p = some i) :
    seen[i]? = some p := by
  rw [List.idxOf?, List.findIdx?_eq_some_iff_getElem] at h
  obtain ⟨hi, heq, -⟩ := h
  rw [List.getElem?_eq_getElem hi, beq_iff_eq.1 heq]

/-- The number of a place is where the place stands among the parameters. -/
theorem places_numbered {places : List Place} (h : ∀ p ∈ places, p.Unnumbered) (seen : List Place) :
    List.Forall₂ (fun p n => (parametersFrom seen places)[n]? = some p) places (numbersFrom seen places) := by
  induction places generalizing seen with
  | nil => exact .nil
  | cons p rest ih =>
    have hrest := ih fun q hq => h q (List.mem_cons_of_mem _ hq)
    cases p with
    | numbered n => exact absurd rfl (h _ List.mem_cons_self n)
    | anonymous => exact .cons (getElem?_parametersFrom seen .anonymous rest) (hrest _)
    | named mark name =>
      rw [numbersFrom, parametersFrom]
      cases hfound : seen.idxOf? (.named mark name) with
      | some i =>
        have hi := getElem?_of_idxOf? hfound
        have hmem : seen.contains (Place.named mark name) = true := by simpa using List.mem_of_getElem? hi
        rw [if_pos hmem]
        obtain ⟨added, hadded⟩ := prefix_parametersFrom seen rest
        refine .cons ?_ (hrest _)
        rw [← hadded, List.getElem?_append_left (List.getElem?_eq_some_iff.1 hi).1, hi]
      | none =>
        have hmem : ¬ seen.contains (Place.named mark name) = true := by simpa using List.idxOf?_eq_none_iff.1 hfound
        rw [if_neg hmem]
        exact .cons (getElem?_parametersFrom seen (.named mark name) rest) (hrest _)

/-- Every place has a parameter. -/
theorem mem_parametersFrom {places : List Place} (h : ∀ p ∈ places, p.Unnumbered) (seen : List Place) {p : Place}
    (hp : p ∈ places) :
    p ∈ parametersFrom seen places := by
  obtain ⟨i, hi, rfl⟩ := List.mem_iff_getElem.1 hp
  obtain ⟨hlength, hall⟩ := List.forall₂_iff_get.1 (places_numbered h seen)
  exact List.mem_of_getElem? (hall i hi (hlength ▸ hi))

/-- What holds of each parameter and its value holds of each place and the value there. -/
theorem forall₂_arrange {places : List Place} (h : ∀ p ∈ places, p.Unnumbered) {R : Place → Native → Prop}
    {values : List Native} (hvalues : List.Forall₂ R (parametersFrom [] places) values) :
    List.Forall₂ R places (arrange places values) := by
  rw [arrange, List.forall₂_map_right_iff]
  refine (places_numbered h []).imp fun p n hp => ?_
  obtain ⟨hlength, hall⟩ := List.forall₂_iff_get.1 hvalues
  obtain ⟨hn, rfl⟩ := List.getElem?_eq_some_iff.1 hp
  have hn' : n < values.length := hlength ▸ hn
  rw [List.getElem?_eq_getElem hn']
  exact hall n hn hn'

/-- Dropping the parameters that were numbered before the next one. -/
theorem drop_parametersFrom (seen : List Place) (p : Place) (places : List Place) :
    (parametersFrom (seen ++ [p]) places).drop seen.length =
      p :: (parametersFrom (seen ++ [p]) places).drop (seen ++ [p]).length := by
  obtain ⟨rest, hrest⟩ := prefix_parametersFrom (seen ++ [p]) places
  rw [← hrest]
  simp

/-- The places without a name take the values of the parameters without one, in order. -/
theorem valuesOfAnonymous_numbered {places : List Place} (h : ∀ p ∈ places, p.Unnumbered) (seen : List Place)
    {values : List Native} (hlength : values.length = (parametersFrom seen places).length) :
    valuesOfAnonymous places ((numbersFrom seen places).map fun i => values[i]?.getD .null) =
      valuesOfAnonymous ((parametersFrom seen places).drop seen.length) (values.drop seen.length) := by
  induction places generalizing seen with
  | nil => simp [numbersFrom, parametersFrom]
  | cons p rest ih =>
    have hrest := ih fun q hq => h q (List.mem_cons_of_mem _ hq)
    -- The value of a parameter that is numbered here is the first of the values that are left.
    have hnext : ∀ q : Place, values.length = (parametersFrom (seen ++ [q]) rest).length →
        values.drop seen.length = values[seen.length]?.getD .null :: values.drop (seen ++ [q]).length := by
      intro q hq
      have hlt : seen.length < values.length := by
        rw [hq]
        exact (List.getElem?_eq_some_iff.1 (getElem?_parametersFrom seen q rest)).1
      rw [List.drop_eq_getElem_cons hlt, List.getElem?_eq_getElem hlt, Option.getD_some, List.length_append,
        List.length_singleton]
    cases p with
    | numbered n => exact absurd rfl (h _ List.mem_cons_self n)
    | anonymous =>
      rw [numbersFrom, parametersFrom, List.map_cons, valuesOfAnonymous_anonymous, hrest _ hlength,
        drop_parametersFrom, hnext _ hlength, valuesOfAnonymous_anonymous]
    | named mark name =>
      rw [parametersFrom] at hlength
      rw [numbersFrom, parametersFrom]
      cases hfound : seen.idxOf? (.named mark name) with
      | some i =>
        have hmem : seen.contains (Place.named mark name) = true := by
          simpa using List.mem_of_getElem? (getElem?_of_idxOf? hfound)
        rw [if_pos hmem] at hlength ⊢
        rw [List.map_cons, valuesOfAnonymous_named, hrest _ hlength]
      | none =>
        have hmem : ¬ seen.contains (Place.named mark name) = true := by simpa using List.idxOf?_eq_none_iff.1 hfound
        rw [if_neg hmem] at hlength ⊢
        rw [List.map_cons, valuesOfAnonymous_named, hrest _ hlength, drop_parametersFrom, hnext _ hlength,
          valuesOfAnonymous_named]

/-- A parameter is one of the places. -/
theorem mem_of_mem_parametersFrom {places : List Place} (h : ∀ p ∈ places, p.Unnumbered) {seen : List Place} {q : Place}
    (hq : q ∈ parametersFrom seen places) : q ∈ seen ∨ q ∈ places := by
  induction places generalizing seen with
  | nil => exact Or.inl hq
  | cons p rest ih =>
    have hnext : ∀ {seen' : List Place}, q ∈ parametersFrom seen' rest → (q ∈ seen' → q ∈ seen ∨ q = p) →
        q ∈ seen ∨ q ∈ p :: rest := by
      intro seen' hq' hseen
      rcases ih (fun r hr => h r (List.mem_cons_of_mem _ hr)) hq' with hq' | hq'
      · rcases hseen hq' with hq' | rfl
        · exact Or.inl hq'
        · exact Or.inr List.mem_cons_self
      · exact Or.inr (List.mem_cons_of_mem _ hq')
    cases p with
    | anonymous => exact hnext hq fun hmem => by simpa using hmem
    | numbered n => exact absurd rfl (h _ List.mem_cons_self n)
    | named mark name =>
      rw [parametersFrom] at hq
      split at hq
      · exact hnext hq Or.inl
      · exact hnext hq fun hmem => by simpa using hmem

/-- Every place without a name is a parameter of its own. -/
theorem count_parametersFrom {places : List Place} (h : ∀ p ∈ places, p.Unnumbered) (seen : List Place) :
    (parametersFrom seen places).count .anonymous = seen.count .anonymous + places.count .anonymous := by
  induction places generalizing seen with
  | nil => simp [parametersFrom]
  | cons p rest ih =>
    have hrest := ih fun q hq => h q (List.mem_cons_of_mem _ hq)
    cases p with
    | anonymous =>
      rw [parametersFrom, hrest]
      simp only [List.count_append, List.count_cons_self, List.count_nil]
      omega
    | numbered n => exact absurd rfl (h _ List.mem_cons_self n)
    | named mark name =>
      rw [parametersFrom, hrest]
      split <;> simp

/-! ## Places without names -/

/-- Places without names are the parameters, one by one. -/
theorem parametersFrom_of_anonymous {places : List Place} (h : ∀ p ∈ places, p = .anonymous) (seen : List Place) :
    parametersFrom seen places = seen ++ places := by
  induction places generalizing seen with
  | nil => simp [parametersFrom]
  | cons p rest ih =>
    obtain rfl := h p List.mem_cons_self
    rw [parametersFrom, ih fun q hq => h q (List.mem_cons_of_mem _ hq)]
    simp

/-- So they take their values one by one. -/
theorem valuesOfAnonymous_of_anonymous {places : List Place} (h : ∀ p ∈ places, p = .anonymous) {values : List Native}
    (hlength : values.length = places.length) : valuesOfAnonymous places values = values := by
  induction places generalizing values with
  | nil => exact (List.length_eq_zero_iff.1 hlength).symm
  | cons p rest ih =>
    obtain rfl := h p List.mem_cons_self
    obtain ⟨v, values, rfl⟩ := List.exists_cons_of_length_eq_add_one hlength
    rw [valuesOfAnonymous_anonymous, ih (fun q hq => h q (List.mem_cons_of_mem _ hq)) (by simpa using hlength)]

theorem length_numbersFrom (seen places : List Place) : (numbersFrom seen places).length = places.length := by
  induction places generalizing seen with
  | nil => rfl
  | cons p rest ih =>
    cases p with
    | anonymous => rw [numbersFrom, List.length_cons, List.length_cons, ih]
    | numbered n => rw [numbersFrom, List.length_cons, List.length_cons, ih]
    | named mark name =>
      rw [numbersFrom]
      split <;> rw [List.length_cons, List.length_cons, ih]

/-- Each place has a value. -/
theorem length_arrange (places : List Place) (values : List Native) :
    (arrange places values).length = places.length := by
  rw [arrange, List.length_map, length_numbersFrom]

/-- Values for places without names stay in their order. -/
theorem arrange_of_anonymous {places : List Place} (h : ∀ p ∈ places, p = .anonymous) {values : List Native}
    (hlength : values.length = places.length) : arrange places values = values := by
  have hunnumbered : ∀ p ∈ places, p.Unnumbered := fun p hp => by rw [h p hp]; exact nofun
  have hparameters := parametersFrom_of_anonymous h []
  have hcount : values.length = (parametersFrom [] places).length := by simpa [hparameters] using hlength
  have harranged := valuesOfAnonymous_numbered hunnumbered [] hcount
  rw [hparameters] at harranged
  calc arrange places values
      = valuesOfAnonymous places (arrange places values) := (valuesOfAnonymous_of_anonymous h (length_arrange _ _)).symm
    _ = valuesOfAnonymous places values := harranged
    _ = values := valuesOfAnonymous_of_anonymous h hlength

end Sql

end SqlMapper
