import SqlMapper.Proofs.Connection.Binding
import SqlMapper.Proofs.Query.Emitted

/-!
# Statements that are sent

The values that the places of a statement take are settled by the values that are given for names and by the
rendered constants (`Sql.Supplies.unique`), whatever else there is to the statement, so two statements that share
places share the values there (`Sql.Supplies.split`). Once it can be prepared and its places have their values, a
rendered statement is run with them (`send_supplied`); and if it succeeds, that is how (`send_ok`).
-/

namespace SqlMapper

open Sql (Place parametersFrom arrange valuesOfAnonymous)

/-! ## Values for places -/

/-- The values that places take: one with a name a value given for the name, and those without one the rendered
values in order. -/
structure Sql.Supplies (coercion : Coercion) (named : NamedValues) (places : List Place)
    (params values : List Native) : Prop where
  takes : List.Forall₂ (Place.Takes coercion named) places values
  inOrder : valuesOfAnonymous places values = params

section Places

variable {coercion : Coercion} {named : NamedValues}

/-- A name takes one value only. -/
theorem Sql.Place.Takes.unique {mark : Char} {name : String} {v w : Native}
    (h : Place.Takes coercion named (.named mark name) v) (h' : Place.Takes coercion named (.named mark name) w) :
    v = w := by
  cases h with
  | named _ hpair hvalue =>
    cases h' with
    | named _ hpair' hvalue' =>
      obtain rfl := Option.some.inj (hpair.symm.trans hpair')
      exact Except.ok.inj (hvalue.symm.trans hvalue')

/-- A place that takes a value does not refuse one. -/
theorem Sql.Place.Takes.not_refuses {p : Place} {v : Native} {e : Error} (h : p.Takes coercion named v) :
    ¬ p.Refuses coercion named e := by
  intro hrefuses
  cases hrefuses with
  | unbound mark hpair =>
    cases h with
    | named _ hpair' hvalue => cases hpair.symm.trans hpair'
  | coercion mark hpair hvalue =>
    cases h with
    | named _ hpair' hvalue' =>
      obtain rfl := Option.some.inj (hpair.symm.trans hpair')
      cases hvalue.symm.trans hvalue'

namespace Sql.Supplies

variable {places more : List Place} {params values : List Native}

theorem length_eq (h : Supplies coercion named places params values) : places.length = values.length :=
  h.takes.length_eq

/-- Places take their values in one way. -/
theorem unique {values' : List Native} (h : Supplies coercion named places params values)
    (h' : Supplies coercion named places params values') : values = values' := by
  obtain ⟨htakes, rfl⟩ := h
  obtain ⟨htakes', hinOrder⟩ := h'
  induction htakes generalizing values' with
  | nil => exact (List.forall₂_nil_left_iff.1 htakes').symm
  | @cons p v places values hp hplaces ih =>
    obtain ⟨w, rest, hp', hrest, rfl⟩ := List.forall₂_cons_left_iff.1 htakes'
    cases hp with
    | anonymous =>
      rw [valuesOfAnonymous_anonymous, valuesOfAnonymous_anonymous] at hinOrder
      obtain ⟨rfl, hothers⟩ := List.cons.inj hinOrder
      rw [ih hrest hothers]
    | named mark hpair hvalue =>
      rw [valuesOfAnonymous_named, valuesOfAnonymous_named] at hinOrder
      rw [Place.Takes.unique (.named mark hpair hvalue) hp', ih hrest hinOrder]

/-- The places after others take the values after those of the others. -/
theorem split {others : List Native} (h : Supplies coercion named (places ++ more) (params ++ others) values)
    (hcount : places.count .anonymous = params.length) :
    Supplies coercion named more others (values.drop places.length) := by
  have hfirst := List.forall₂_take places.length h.takes
  have hrest := List.forall₂_drop places.length h.takes
  rw [List.take_left] at hfirst
  rw [List.drop_left] at hrest
  refine ⟨hrest, ?_⟩
  have hvalues := h.inOrder
  rw [← List.take_append_drop places.length values, valuesOfAnonymous_append hfirst.length_eq] at hvalues
  refine (List.append_inj hvalues ?_).2
  rw [length_valuesOfAnonymous hfirst.length_eq, hcount]

end Sql.Supplies

end Places

/-! ## Statements -/

theorem of_ofEngine {α : Type} {x : Except EngineError α} {a : α} (h : Error.ofEngine x = .ok a) : x = .ok a := by
  cases x with
  | error e => cases h
  | ok b => rw [Except.ok.inj h]

section Statements

variable {c : Connection} {named : NamedValues} {k : Clause} {p : Clause.Purpose} {b : Bound Sql.Statement}

/-- Values that are laid out for the parameters of a statement are those that its places take. -/
theorem supplies_of_bindOrder (h : k.statement? c.rendering p = some (.ok b)) {values : List Native}
    (hvalues : c.bindOrder named b = .ok values) :
    values.length = b.sql.grouped.parameters.length ∧
      Sql.Supplies c.coercion named b.sql.places b.params (arrange b.sql.places values) := by
  obtain ⟨filled, hfills⟩ := Clause.statement?_fills h
  have hbinds := hfills.binds c.coercion named
  rw [bindOrder_ok hfills hvalues] at hbinds
  cases hbinds with
  | ok takes inOrder =>
    refine ⟨?_, Sql.forall₂_arrange hfills.unnumbered takes, ?_⟩
    · rw [Sql.Statement.parameters, (Clause.statement?_emitted h).1.grouped_places, List.length_map, takes.length_eq]
    · calc valuesOfAnonymous b.sql.places (arrange b.sql.places values)
          = valuesOfAnonymous (parametersFrom [] b.sql.places) values :=
            Sql.valuesOfAnonymous_numbered hfills.unnumbered [] takes.length_eq.symm
        _ = b.params := by rw [inOrder, hfills.count_parameters, List.take_length]

/-- A statement that can be prepared and whose places have their values is run with them. -/
theorem send_supplied (h : k.statement? c.rendering p = some (.ok b))
    (hprepared : c.store.prepare b.sql.grouped = .ok ()) {values : List Native}
    (hvalues : Sql.Supplies c.coercion named b.sql.places b.params values) :
    Connection.send named (.ok b) c =
      Connection.step (Database.run (c.store.titles b.sql.grouped) (b.sql.grouped.fill values)) c := by
  obtain ⟨filled, hfills⟩ := Clause.statement?_fills h
  cases hbound : c.bindOrder named b with
  | error e =>
    have hbinds := hfills.binds c.coercion named
    rw [← bindOrder_prepared hfills hprepared, hbound] at hbinds
    cases hbinds with
    | @error q _ hq hrefuses =>
      have hplace := (Sql.mem_of_mem_parametersFrom hfills.unnumbered hq).resolve_left List.not_mem_nil
      obtain ⟨i, hi, rfl⟩ := List.mem_iff_getElem.1 hplace
      have htakes := (List.forall₂_iff_get.1 hvalues.takes).2 i hi (hvalues.length_eq ▸ hi)
      exact absurd hrefuses htakes.not_refuses
  | ok bound =>
    obtain ⟨hlength, hsupplied⟩ := supplies_of_bindOrder h hbound
    have hfilled : b.sql.grouped.bind bound = b.sql.grouped.fill values := by
      rw [Sql.Statement.bind, (Clause.statement?_emitted h).1.grouped_places, hsupplied.unique hvalues]
    simp only [Connection.send, hbound, Connection.step, Database.execute, hprepared, hlength, if_true, hfilled]

/-- A statement that succeeds has been prepared, its places have taken their values, and it has been run with them. -/
theorem send_ok (h : k.statement? c.rendering p = some (.ok b)) {o : Outcome} {d : Connection}
    (hsent : Connection.send named (.ok b) c = (.ok o, d)) :
    c.store.prepare b.sql.grouped = .ok () ∧ ∃ values, Sql.Supplies c.coercion named b.sql.places b.params values ∧
      Connection.step (Database.run (c.store.titles b.sql.grouped) (b.sql.grouped.fill values)) c = (.ok o, d) := by
  cases hbound : c.bindOrder named b with
  | error e =>
    simp only [Connection.send, hbound] at hsent
    cases hsent
  | ok bound =>
    have hvalues := (supplies_of_bindOrder h hbound).2
    cases hprepared : c.store.prepare b.sql.grouped with
    | error e =>
      simp only [Connection.send, hbound, Connection.step, Database.execute, hprepared] at hsent
      cases hsent
    | ok =>
      refine ⟨rfl, _, hvalues, ?_⟩
      rw [← send_supplied h hprepared hvalues, hsent]

end Statements

end SqlMapper
