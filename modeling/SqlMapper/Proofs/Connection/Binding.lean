import SqlMapper.Connection.Basic
import SqlMapper.Proofs.Query.Places

/-!
# Values for the parameters of a query

A rendered query has question marks for its constants and names for its parameters, in any mixture, and the values
for both are laid out by the numbers of the parameters. Each place then takes the value that is its own: the
question marks take the rendered constants in their order, and a name takes the value that is given for it, wherever
it stands (`each_place_takes_its_value`).
-/

namespace SqlMapper

open Sql (Place parametersFrom numbersFrom arrange valuesOfAnonymous)

/-- A value that a place may take: a place with a name takes the first value that is given for the name. -/
inductive Sql.Place.Takes (coercion : Coercion) (named : NamedValues) : Place → Native → Prop where
  | anonymous (v : Native) : Takes coercion named .anonymous v
  | named (mark : Char) {name : String} {s : Scalar} {v : Native} (hpair : named.lookup name = some s)
    (hvalue : s.toNative coercion = .ok v) : Takes coercion named (.named mark name) v

/-- Why a place may take no value: there is none for its name, or the value cannot be stored. -/
inductive Sql.Place.Refuses (coercion : Coercion) (named : NamedValues) : Place → Error → Prop where
  | unbound (mark : Char) {name : String} (hpair : named.lookup name = none) :
    Refuses coercion named (.named mark name) (.operation (.unboundName name))
  | coercion (mark : Char) {name : String} {s : Scalar} {e : CoercionError} (hpair : named.lookup name = some s)
    (hvalue : s.toNative coercion = .error e) : Refuses coercion named (.named mark name) (.coercion e)

section Parameters

variable {coercion : Coercion} {named : NamedValues}

/-- How the binding of parameters ends: each takes the value that is its own, those without a name the values at
hand in their order; or one of them may take none. -/
inductive Sql.Binds (coercion : Coercion) (named : NamedValues) (parameters : List Place) (values : List Native) :
    Except Error (List Native) → Prop where
  | ok {bound : List Native} (takes : List.Forall₂ (Place.Takes coercion named) parameters bound)
    (inOrder : valuesOfAnonymous parameters bound = values.take (parameters.count .anonymous)) :
    Binds coercion named parameters values (.ok bound)
  | error {p : Place} {e : Error} (hp : p ∈ parameters) (h : p.Refuses coercion named e) :
    Binds coercion named parameters values (.error e)

namespace Sql.Binds

variable {parameters : List Place} {values : List Native} {v : Native} {r : Except Error (List Native)}

/-- A parameter without a name takes the first value at hand. -/
theorem ofAnonymous (h : Binds coercion named parameters values r) :
    Binds coercion named (.anonymous :: parameters) (v :: values) (r.map (v :: ·)) := by
  cases h with
  | ok takes inOrder =>
    refine .ok (.cons (.anonymous v) takes) ?_
    rw [valuesOfAnonymous_anonymous, inOrder, List.count_cons_self, List.take_succ_cons]
  | error hp h => exact .error (List.mem_cons_of_mem _ hp) h

/-- A parameter with a name leaves the values at hand to the others. -/
theorem ofNamed (mark : Char) {name : String} {s : Scalar} (hpair : named.lookup name = some s)
    (hvalue : s.toNative coercion = .ok v) (h : Binds coercion named parameters values r) :
    Binds coercion named (.named mark name :: parameters) values (r.map (v :: ·)) := by
  cases h with
  | ok takes inOrder =>
    have hnamed : Place.named mark name ≠ .anonymous := nofun
    refine .ok (.cons (.named mark hpair hvalue) takes) ?_
    rw [valuesOfAnonymous_named, inOrder, List.count_cons_of_ne hnamed]
  | error hp h => exact .error (List.mem_cons_of_mem _ hp) h

end Sql.Binds

theorem bindParameters_anonymous (index : Nat) (rest : List (Option String)) (v : Native) (values : List Native) :
    bindParameters coercion named index (none :: rest) (v :: values) =
      (bindParameters coercion named (index + 1) rest values).map (v :: ·) := by
  rw [bindParameters]
  cases bindParameters coercion named (index + 1) rest values <;> rfl

theorem bindParameters_named (index : Nat) {name : String} {s : Scalar} {v : Native}
    (hpair : named.lookup name = some s) (hvalue : s.toNative coercion = .ok v) (rest : List (Option String))
    (values : List Native) :
    bindParameters coercion named index (some name :: rest) values =
      (bindParameters coercion named (index + 1) rest values).map (v :: ·) := by
  rw [bindParameters, hpair]
  simp only [hvalue, Error.ofCoercion]
  cases bindParameters coercion named (index + 1) rest values <;> rfl

/-- With a value at hand for each parameter without a name, parameters are bound unless one of the others may take
no value. -/
theorem bindParameters_binds {parameters : List Place} (h : ∀ p ∈ parameters, p.Unnumbered) (index : Nat)
    {values : List Native} (hcount : parameters.count .anonymous ≤ values.length) :
    Sql.Binds coercion named parameters values
      (bindParameters coercion named index (parameters.map Place.name?) values) := by
  induction parameters generalizing index values with
  | nil => exact .ok .nil (by simp)
  | cons p rest ih =>
    have hrest := ih fun q hq => h q (List.mem_cons_of_mem p hq)
    cases p with
    | numbered n => exact absurd rfl (h _ List.mem_cons_self n)
    | anonymous =>
      cases values with
      | nil => simp at hcount
      | cons v values =>
        rw [List.map_cons, show Place.name? .anonymous = none from rfl, bindParameters_anonymous]
        exact (hrest (index + 1) (by simpa using hcount)).ofAnonymous
    | named mark name =>
      have hnamed : Place.named mark name ≠ .anonymous := nofun
      rw [List.count_cons_of_ne hnamed] at hcount
      rw [List.map_cons, Place.name?]
      cases hpair : named.lookup name with
      | none =>
        rw [bindParameters, hpair]
        exact .error List.mem_cons_self (.unbound mark hpair)
      | some s =>
        cases hvalue : s.toNative coercion with
        | error e =>
          rw [bindParameters, hpair]
          simp only [hvalue]
          exact .error List.mem_cons_self (.coercion mark hpair hvalue)
        | ok v =>
          rw [bindParameters_named index hpair hvalue]
          exact (hrest (index + 1) hcount).ofNamed mark hpair hvalue

end Parameters

section Statements

variable {c : Connection} {named : NamedValues} {b : Bound Sql.Statement} {filled : Sql.Statement}

namespace Sql.Statement.Fills

theorem unnumbered (h : b.sql.Fills b.params filled) : ∀ p ∈ b.sql.places, p.Unnumbered := by
  intro p hp
  rcases h.fits.form p hp with rfl | ⟨name, rfl⟩ <;> exact nofun

theorem unnumbered_parameters (h : b.sql.Fills b.params filled) : ∀ p ∈ parametersFrom [] b.sql.places,
    p.Unnumbered := by
  intro p hp
  exact h.unnumbered p ((Sql.mem_of_mem_parametersFrom h.unnumbered hp).resolve_left List.not_mem_nil)

/-- There are as many parameters without a name as rendered values. -/
theorem count_parameters (h : b.sql.Fills b.params filled) :
    (parametersFrom [] b.sql.places).count .anonymous = b.params.length := by
  rw [Sql.count_parametersFrom h.unnumbered, List.count_nil, Nat.zero_add, h.fits.count]

/-- The parameters of a rendered statement are bound with its values. -/
theorem binds (h : b.sql.Fills b.params filled) (coercion : Coercion) (named : NamedValues) :
    Sql.Binds coercion named (parametersFrom [] b.sql.places) b.params
      (bindParameters coercion named 1 b.sql.parameters b.params) :=
  bindParameters_binds h.unnumbered_parameters 1 (Nat.le_of_eq h.count_parameters)

/-- Without names, the parameters are as many as the values, and are bound to them as they are. -/
theorem bindParameters_of_anonymous (h : b.sql.Fills b.params filled) (hanonymous : ∀ p ∈ b.sql.places, p = .anonymous)
    (coercion : Coercion) (named : NamedValues) :
    b.sql.places.length = b.params.length ∧
    bindParameters coercion named 1 b.sql.parameters b.params = .ok b.params := by
  have hparameters : parametersFrom [] b.sql.places = b.sql.places := Sql.parametersFrom_of_anonymous hanonymous []
  have hbinds := h.binds coercion named
  have hcount := h.count_parameters
  rw [hparameters] at hbinds hcount
  have hlength : b.sql.places.length = b.params.length := by
    rw [← hcount, List.count_eq_length.2 fun p hp => (hanonymous p hp).symm]
  refine ⟨hlength, ?_⟩
  generalize bindParameters coercion named 1 b.sql.parameters b.params = r at hbinds ⊢
  cases hbinds with
  | error hp hrefuses =>
    rw [hanonymous _ hp] at hrefuses
    cases hrefuses
  | ok takes inOrder =>
    rw [Sql.valuesOfAnonymous_of_anonymous hanonymous takes.length_eq.symm, hcount, List.take_length] at inOrder
    rw [inOrder]

/-- So they are when the text has no colon. -/
theorem bindParameters_unnamed (h : b.sql.Fills b.params filled) (hcolon : b.sql.hasColon = false) (coercion : Coercion)
    (named : NamedValues) : bindParameters coercion named 1 b.sql.parameters b.params = .ok b.params := by
  refine (h.bindParameters_of_anonymous (fun p hp => ?_) coercion named).2
  rcases h.fits.form p hp with rfl | ⟨name, rfl⟩
  · rfl
  · simp [Sql.Statement.hasColon, h.colon_mem hp] at hcolon

end Sql.Statement.Fills

/-- Where the statement can be prepared, the early end of binding agrees with the general way. -/
theorem bindOrder_prepared (h : b.sql.Fills b.params filled) (hprepared : c.store.prepare b.sql.grouped = .ok ()) :
    c.bindOrder named b = bindParameters c.coercion named 1 b.sql.parameters b.params := by
  unfold Connection.bindOrder
  split
  · rename_i hearly
    rw [Bool.and_eq_true, Bool.not_eq_true'] at hearly
    rw [h.bindParameters_unnamed hearly.2]
  · rw [hprepared]
    rfl

/-- Values that are laid out are those of the general way, prepared or not. -/
theorem bindOrder_ok (h : b.sql.Fills b.params filled) {values : List Native}
    (hvalues : c.bindOrder named b = .ok values) :
    bindParameters c.coercion named 1 b.sql.parameters b.params = .ok values := by
  cases hprepared : c.store.prepare b.sql.grouped with
  | ok => rwa [bindOrder_prepared h hprepared] at hvalues
  | error e =>
    unfold Connection.bindOrder at hvalues
    rw [hprepared] at hvalues
    split at hvalues
    · rename_i hearly
      rw [Bool.and_eq_true, Bool.not_eq_true'] at hearly
      rw [h.bindParameters_unnamed hearly.2, hvalues]
    · cases hvalues

end Statements

/-- Each place of a rendered statement takes its own value, when values are laid out for its parameters: as many
as there are parameters, so that the question marks of the text take the rendered values one by one, and each
name takes the first value that is given for it. Where the statement can be prepared, the early end of binding
agrees with the general way, and values are laid out unless a name of the text has no value or one that cannot
be stored. -/
theorem each_place_takes_its_value (c : Connection) (k : Clause) (purpose : Clause.Purpose) (named : NamedValues)
    (b : Bound Sql.Statement) (h : k.statement? c.rendering purpose = some (.ok b)) :
    let places := Sql.textPlaces b.sql.text
    let parameters := parametersFrom [] places
    k.render? c.rendering purpose = some (.ok b.toText) ∧ b.sql.grouped.places = places ∧
      (∀ values, c.bindOrder named b = .ok values →
        values.length = parameters.length ∧ List.Forall₂ (Place.Takes c.coercion named) places (arrange places values) ∧
          valuesOfAnonymous places (arrange places values) = b.params) ∧
      (c.store.prepare b.sql.grouped = .ok () →
        c.bindOrder named b = bindParameters c.coercion named 1 (parameters.map Place.name?) b.params ∧
          ∀ e, c.bindOrder named b = .error e → ∃ p ∈ places, p.Refuses c.coercion named e) := by
  intro places parameters
  have hplaces : places = b.sql.places := textPlaces_eq h
  obtain ⟨filled, hfills⟩ := Clause.statement?_fills h
  subst parameters
  rw [hplaces]
  refine ⟨by rw [k.render?_eq, h]; rfl, (Clause.statement?_emitted h).1.grouped_places, fun values hvalues => ?_,
    fun hprepared => ?_⟩
  · have hbinds := hfills.binds c.coercion named
    rw [bindOrder_ok hfills hvalues] at hbinds
    cases hbinds with
    | ok takes inOrder =>
      refine ⟨takes.length_eq.symm, Sql.forall₂_arrange hfills.unnumbered takes, ?_⟩
      calc valuesOfAnonymous b.sql.places (arrange b.sql.places values)
          = valuesOfAnonymous (parametersFrom [] b.sql.places) values :=
            Sql.valuesOfAnonymous_numbered hfills.unnumbered [] takes.length_eq.symm
        _ = b.params := by rw [inOrder, hfills.count_parameters, List.take_length]
  · refine ⟨bindOrder_prepared hfills hprepared, fun e he => ?_⟩
    have hbinds := hfills.binds c.coercion named
    rw [← bindOrder_prepared hfills hprepared, he] at hbinds
    cases hbinds with
    | error hp hrefuses =>
      exact ⟨_, (Sql.mem_of_mem_parametersFrom hfills.unnumbered hp).resolve_left List.not_mem_nil, hrefuses⟩

/-- Two places of one name around a question mark, beside marks inside of quoted names. -/
theorem each_place_takes_its_value_repeatedName :
    let t : Table := ⟨"item?", [{ name := "a:b", property := "a", kind := .text }], by decide +kernel⟩
    let c := (Connection.createTable t [] (Connection.open none .inMemory)).2
    let skipped := (Expr.ofColumn "a:b").ne (.parameter "skip")
    let k := Clause.filter
      ((((Source.ofTable t).selectAll.where skipped).where ((Expr.ofColumn "a:b").ne (.constant (.text "x")))).where
      skipped)
    let named : NamedValues := [("skip", .text "b"), ("skip", .text "c")]
    let places : List Place := [.named ':' "skip", .anonymous, .named ':' "skip"]
    ∃ b, k.statement? c.rendering .rows = some (.ok b) ∧ Sql.textPlaces b.sql.text = places ∧
      c.store.prepare b.sql.grouped = .ok () ∧ c.bindOrder named b = .ok [.text "b", .text "x"] ∧
      List.Forall₂ (Place.Takes c.coercion named) places [.text "b", .text "x", .text "b"] := by
  intro t c skipped k named places
  have hchecked : (k.statement? c.rendering .rows).any (fun result => result.toOption.any fun b =>
      decide (Sql.textPlaces b.sql.text = places ∧ c.store.prepare b.sql.grouped = .ok () ∧
        c.bindOrder named b = .ok [.text "b", .text "x"])) = true := by decide +kernel
  rcases hb : k.statement? c.rendering .rows with _ | (_ | b)
  · rw [hb] at hchecked
    cases hchecked
  · rw [hb] at hchecked
    cases hchecked
  · rw [hb] at hchecked
    obtain ⟨hplaces, hprepared, hvalues⟩ := of_decide_eq_true hchecked
    obtain ⟨-, -, hbound, -⟩ := each_place_takes_its_value c k .rows named b hb
    have htakes := (hbound _ hvalues).2.1
    rw [hplaces] at htakes
    exact ⟨b, rfl, hplaces, hprepared, hvalues, htakes⟩

end SqlMapper
