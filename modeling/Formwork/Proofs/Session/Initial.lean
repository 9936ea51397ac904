import Formwork.Proofs.Form.Agreement
import Formwork.Proofs.Session.Filling

/-! # Initial values

A session can be given values when it opens, or open empty and have them written to it. The
first evaluates all conditions on the values, the second all on none and then those that the
values concern; what is shown in the end is the same.
-/

namespace Formwork.Workspace

variable {w : Workspace} {key : String} {schema : Schema} {rules : Ruleset}

theorem sharedSchema_apply (found : w.schemas.get? key = some schema) :
    sharedSchema key w = (.ok { key := some key, schema }, w) := by
  rw [sharedSchema, Effect.get_bind, found]
  rfl

theorem openSession_opened (depth : Nat) (records : w.Records) {shared : SharedSchema}
    {options : CompileOptions} (compiles : Ruleset.compile options shared.schema = .ok rules)
    (initial : Entries Value) :
    Effect.Yields (openSession (callbacks (depth + 1)) shared options initial w)
      fun session after =>
        (w.prepare initial).Opened shared options w.stores.fresh session after := by
  have still := (records.prepare initial).records
  have free : ((w.prepare initial).storeAt w.stores.fresh).trackers = [] := by
    rw [storeAt_prepare]
    rfl
  rcases run : openSession (callbacks (depth + 1)) shared options initial w with
    ⟨fault | session, after⟩
  · exact absurd compiles ((createSession_error depth still free run).1 rules)
  · exact ⟨session, after, rfl, createSession_ok depth still free run⟩

theorem openSession_form (records : w.Records) (found : w.schemas.get? key = some schema)
    (compiles : Ruleset.compile w.options schema = .ok rules) (name : String)
    (initial : Entries Value) :
    Effect.Yields (act (.openSession key name false initial) w) fun _ after =>
      ∃ id, after.session = some id ∧
        after.Listens (after.sessionAt id).store (after.sessionAt id).tracker ∧
        after.formOf (after.sessionAt id) =
          (Form.begin w.stores.fresh { values := initial } schema.fields).start
            (after.sessionAt id).tracker := by
  rw [act, Effect.get_bind, perform, Effect.bind_of_ok (sharedSchema_apply found),
    Effect.get_bind]
  refine (openSession_opened _ records compiles initial).bind fun session opened made => ?_
  have is : (opened.adopt name session).sessionAt opened.sessions.fresh = session :=
    sessionAt_putSession opened opened.sessions.fresh session
  refine ⟨.done, opened.adopt name session, rfl, opened.sessions.fresh, rfl, ?_⟩
  rw [is, formOf, made.store]
  have form := made.becomes.form
  rw [storeAt_prepare] at form
  exact ⟨made.listens.of_same rfl rfl ⟨made.listens.records.scripts,
    made.listens.records.watchScripts⟩, form⟩

/-- A session that is given values when it opens shows what one shows that opens empty and to
    which they are written then. -/
theorem initial_alike (records : w.Records) (found : w.schemas.get? key = some schema)
    (compiles : Ruleset.compile w.options schema = .ok rules) (name : String)
    {data : Entries Value} (distinct : data.names.Nodup) :
    Effect.Yields (act (.openSession key name false data) w) fun _ given =>
      Effect.Yields (act (.openSession key name false []) w) fun _ empty =>
        Effect.Yields (act (.sessionSetMany data) empty) fun _ filled =>
          ∃ session other, given.session.map given.sessionAt = some session ∧
            filled.session.map filled.sessionAt = some other ∧
            filled.visibilityOf other = given.visibilityOf session ∧
            payload filled other = payload given session := by
  refine (openSession_form records found compiles name data).mono ?_
  rintro - given ⟨id, used, -, begun⟩
  refine (openSession_form records found compiles name []).mono ?_
  rintro - empty ⟨other, used', listens, begun'⟩
  refine (sessionSetMany_form used' listens data).mono fun _ filled written => ?_
  have is : filled.sessionAt other = empty.sessionAt other := written.sameButForm.sessionAt other
  have form : filled.formOf (empty.sessionAt other) =
      ((Form.begin w.stores.fresh {} schema.fields).start
        (empty.sessionAt other).tracker).write data := by
    rw [← begun', formOf, written.form]
  have alike := Form.begin_alike w.stores.fresh w.stores.fresh
    (empty.sessionAt other).tracker schema.fields distinct
  refine ⟨given.sessionAt id, empty.sessionAt other, ?_, ?_, ?_, ?_⟩
  · rw [used]
    rfl
  · rw [written.sameButForm.session, used', Option.map_some, is]
  · show (filled.formOf _).tracker.map = (given.formOf _).tracker.map
    rw [form, begun]
    exact alike.map
  · show (filled.formOf _).payload = (given.formOf _).payload
    rw [form, begun]
    exact alike.payload

/-- The name of a pet is given, but there is no pet: the name is not shown either way. -/
theorem petForm_initial_alike :
    Effect.Yields (act (.openSession "pet" "s" false [("petName", .str "Rex")])
      { schemas := [("pet", petForm)] }) fun _ given =>
        Effect.Yields (act (.openSession "pet" "s" false []) { schemas := [("pet", petForm)] })
          fun _ empty =>
            Effect.Yields (act (.sessionSetMany [("petName", .str "Rex")]) empty)
              fun _ filled => ∃ session other,
                given.session.map given.sessionAt = some session ∧
                filled.session.map filled.sessionAt = some other ∧
                filled.visibilityOf other = given.visibilityOf session ∧
                payload filled other = payload given session :=
  initial_alike (.unscripted rfl rfl) rfl rfl "s" (List.nodup_singleton _)

end Formwork.Workspace
