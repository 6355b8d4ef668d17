import PathSchema.Proofs.Evaluation.Dialogue
import PathSchema.Proofs.Evaluation.Session
import PathSchema.Pattern.Engine

/-!
# What a validation depends on

A validation depends on its store and its registry only through the answers to the
questions that it puts.  Nothing else in them can be noticed: another store and another
registry that answer these questions alike, also with nothing, lead to the same result
and the same questions.

The questions to the store can be traced back to texts: each is for a name in the schema,
or in a member of a set that was asked for before.  Without sets they are for the
variables of the schema from left to right, up to the constraint that fails.
-/

namespace PathSchema

/-! ## Questions of an outcome -/

namespace Outcome

variable {α β : Type} {property : List Lookup → Prop}

/-- If the evaluation ends, its questions have the property. -/
def Asks (outcome : Outcome α) (property : List Lookup → Prop) : Prop :=
  ∀ result asked, outcome = some (result, asked) → property asked

theorem asks_done (hnil : property []) (result : Except Fault α) :
    (done result).Asks property := by
  intro reached asked h
  obtain ⟨-, rfl⟩ := Prod.mk.inj (Option.some.inj h)
  exact hnil

theorem asks_after {outcome : Outcome α} {before : List Lookup}
    (h : outcome.Asks fun asked => property (before ++ asked)) :
    (after before outcome).Asks property := by
  intro result asked hreached
  obtain ⟨⟨reached, more⟩, houtcome, hsplit⟩ := Option.map_eq_some_iff.mp hreached
  obtain ⟨-, rfl⟩ := Prod.mk.inj hsplit
  exact h reached more houtcome

theorem Asks.andThen {outcome : Outcome α} (h : outcome.Asks property)
    (happend : ∀ asked more, property asked → property more → property (asked ++ more))
    {next : α → Outcome β} {otherwise : Fault → Outcome β}
    (hnext : ∀ value, (next value).Asks property)
    (hotherwise : ∀ fault, (otherwise fault).Asks property) :
    (outcome.andThen next otherwise).Asks property := by
  rcases outcome with _ | ⟨fault | value, before⟩
  · intro result asked hreached
    cases hreached
  · have hbefore := h _ _ rfl
    exact asks_after fun result asked hreached =>
      happend before asked hbefore (hotherwise fault result asked hreached)
  · have hbefore := h _ _ rfl
    exact asks_after fun result asked hreached =>
      happend before asked hbefore (hnext value result asked hreached)

end Outcome

/-! ## Names of the parts -/

/-- The question to the store that a part compiles to, if it compiles to one. -/
def Part.lookup? : Part → Option Lookup
  | var name _ => some (.var name)
  | set name => some (.set name)
  | _ => none

theorem Part.filterMap_lookup?_of_setNames_eq_nil {parts : List Part}
    (hsets : setNames parts = []) :
    parts.filterMap lookup? = (variableNames parts).map .var := by
  rw [variableNames, List.map_filterMap]
  refine List.filterMap_congr ?_
  intro part hpart
  cases part with
  | set name =>
      have hname : name ∈ setNames parts := List.mem_filterMap.mpr ⟨.set name, hpart, rfl⟩
      simp [hsets] at hname
  | _ => rfl

/-! ## Lookups of a schema -/

section

variable [RegexLibrary]

/-- The question to the store that a constraint begins with, if it needs one. -/
def Constraint.lookup? : Constraint → Option Lookup
  | var name _ => some (.var name)
  | set name => some (.set name)
  | _ => none

/-- The questions to the store for the names that occur in a schema. -/
def Schema.lookups (schema : Schema) : List Lookup :=
  schema.constraints.filterMap Constraint.lookup?

/-- The question is for a name that occurs in a member of the set that compiles. -/
def Store.MemberHolds (store : Store) (name : String) (lookup : Lookup) : Prop :=
  ∃ members text schema, store.set? name = some members ∧ text ∈ members ∧
    Schema.ofText text = .ok schema ∧ lookup ∈ schema.lookups

/-- Each question is known from the beginning, or is for a name in a member of a set that
was asked for before it. -/
def Introduced (store : Store) (known : Lookup → Prop) (asked : List Lookup) : Prop :=
  ∀ before lookup others, asked = before ++ lookup :: others →
    known lookup ∨ ∃ name, .set name ∈ before ∧ store.MemberHolds name lookup

/-! ## Questions that are introduced -/

section Introductions

variable {store : Store} {known : Lookup → Prop} {asked more : List Lookup}

theorem introduced_nil : Introduced store known [] := by
  intro before lookup others hsplit
  simp at hsplit

theorem Introduced.append (hasked : Introduced store known asked)
    (hmore : Introduced store known more) : Introduced store known (asked ++ more) := by
  intro before lookup others hsplit
  rcases List.append_eq_append_iff.mp hsplit with ⟨middle, rfl, hsecond⟩ |
    ⟨middle, hfirst, hrest⟩
  · rcases hmore middle lookup others hsecond with hknown | ⟨name, hname, hholds⟩
    · exact .inl hknown
    · exact .inr ⟨name, by simp [hname], hholds⟩
  · rcases middle with _ | ⟨next, rest⟩
    · have hhead : more = [] ++ lookup :: others := by simpa using hrest.symm
      rcases hmore [] lookup others hhead with hknown | ⟨name, hname, -⟩
      · exact .inl hknown
      · simp at hname
    · obtain ⟨rfl, rfl⟩ := List.cons.inj hrest
      exact hasked before lookup rest hfirst

theorem introduced_singleton {lookup : Lookup} (hknown : known lookup) :
    Introduced store known [lookup] := by
  intro before other others hsplit
  have hother : other ∈ [lookup] := by simp [hsplit]
  obtain rfl := List.mem_singleton.mp hother
  exact .inl hknown

theorem introduced_cons_set {name : String} (hknown : known (.set name))
    (hasked : Introduced store (store.MemberHolds name) asked) :
    Introduced store known (.set name :: asked) := by
  intro before lookup others hsplit
  rcases before with _ | ⟨first, before⟩
  · obtain ⟨rfl, -⟩ := List.cons.inj hsplit
    exact .inl hknown
  · obtain ⟨rfl, hrest⟩ := List.cons.inj hsplit
    rcases hasked before lookup others hrest with hholds | ⟨inner, hinner, hholds⟩
    · exact .inr ⟨name, by simp, hholds⟩
    · exact .inr ⟨inner, by simp [hinner], hholds⟩

end Introductions

namespace Plain

variable {store : Store} {registry : Registry}

section Introducing

variable {known : Lookup → Prop}

theorem consume_introduces {enter : String → List String → Outcome (List String)}
    (henter : ∀ name segments, known (.set name) →
      (enter name segments).Asks (Introduced store known))
    {constraint : Constraint} (hknown : ∀ lookup ∈ constraint.lookup?, known lookup)
    (segments : List String) :
    (consume store registry enter constraint segments).Asks (Introduced store known) := by
  cases constraint with
  | var name calls =>
      apply Outcome.asks_after
      exact Outcome.asks_done (introduced_singleton (hknown _ rfl)) _
  | set name => exact henter name segments (hknown _ rfl)
  | literal text => exact Outcome.asks_done introduced_nil _
  | regex pattern => exact Outcome.asks_done introduced_nil _
  | run min max => exact Outcome.asks_done introduced_nil _
  | everything => exact Outcome.asks_done introduced_nil _

theorem consumeAll_introduces
    {step : Constraint → List String → Outcome (List String)}
    {constraints : List Constraint}
    (hstep : ∀ constraint ∈ constraints, ∀ segments,
      (step constraint segments).Asks (Introduced store known))
    (given : List String) (index : Nat) (segments : List String) :
    (consumeAll step given index constraints segments).Asks (Introduced store known) := by
  induction constraints generalizing index segments with
  | nil => exact Outcome.asks_done introduced_nil _
  | cons constraint others ih =>
      rw [consumeAll]
      apply (hstep constraint (by simp) segments).andThen fun _ _ => Introduced.append
      · exact fun remaining =>
          ih (fun other hother => hstep other (by simp [hother])) (index + 1) remaining
      · exact fun fault => Outcome.asks_done introduced_nil _

theorem firstMember_introduces {run : Schema → Outcome (List String)} {otherwise : Fault}
    {members : List String}
    (hrun : ∀ text ∈ members, ∀ schema, Schema.ofText text = .ok schema →
      (run schema).Asks (Introduced store known)) :
    (firstMember run otherwise members).Asks (Introduced store known) := by
  induction members with
  | nil => exact Outcome.asks_done introduced_nil _
  | cons text rest ih =>
      rw [firstMember]
      split
      · exact Outcome.asks_done introduced_nil _
      · next schema hschema =>
          apply (hrun text (by simp) schema hschema).andThen fun _ _ => Introduced.append
          · exact fun remaining => Outcome.asks_done introduced_nil _
          · exact fun fault => ih fun other hother => hrun other (by simp [hother])

/-- By induction on the depth: a set is known, its members introduce what they hold, and
among this are the sets inside of it. -/
theorem enterSet_introduces {depth : Nat} {name : String} (hknown : known (.set name))
    (segments : List String) :
    (enterSet store registry depth name segments).Asks (Introduced store known) := by
  induction depth generalizing known name segments with
  | zero =>
      intro result asked hreached
      cases hreached
  | succ depth ih =>
      rw [enterSet_succ]
      apply Outcome.asks_after
      intro result asked hreached
      refine introduced_cons_set hknown ?_
      revert result asked hreached
      show Outcome.Asks _ (Introduced store (store.MemberHolds name))
      split
      · exact Outcome.asks_done introduced_nil _
      · exact Outcome.asks_done introduced_nil _
      · next members _ hmembers =>
          apply firstMember_introduces
          intro text htext schema hschema
          apply consumeAll_introduces
          intro constraint hconstraint remaining
          refine consume_introduces (fun inner segments hinner => ih hinner segments) ?_ _
          intro lookup hlookup
          exact ⟨members, text, schema, hmembers, htext, hschema,
            List.mem_filterMap.mpr ⟨constraint, hconstraint, hlookup⟩⟩

theorem evaluate_introduces (schema : Schema) (segments : List String) :
    (evaluate store registry schema segments).Asks
      (Introduced store (· ∈ schema.lookups)) := by
  apply consumeAll_introduces
  intro constraint hconstraint remaining
  refine consume_introduces (fun name segments hname => enterSet_introduces hname segments)
    ?_ _
  intro lookup hlookup
  exact List.mem_filterMap.mpr ⟨constraint, hconstraint, hlookup⟩

end Introducing

/-! ## Questions of schemas without sets -/

section WithoutSets

variable {enter : String → List String → Outcome (List String)}

/-- A constraint that is no set puts its own question, whatever comes of it. -/
theorem exists_consume_eq_some {constraint : Constraint}
    (hset : ∀ name, constraint ≠ .set name) (segments : List String) :
    ∃ result, consume store registry enter constraint segments =
      some (result, constraint.lookup?.toList) := by
  cases constraint with
  | set name => exact absurd rfl (hset name)
  | _ => exact ⟨_, rfl⟩

theorem filterMap_lookup?_cons (constraint : Constraint) (others : List Constraint) :
    (constraint :: others).filterMap Constraint.lookup? =
      constraint.lookup?.toList ++ others.filterMap Constraint.lookup? := by
  cases constraint <;> rfl

/-- Constraints put their questions one after the other, and all of them if none fails. -/
theorem asked_prefix_of_consumeAll {given : List String} {index : Nat}
    {constraints : List Constraint} (hsets : ∀ name, .set name ∉ constraints)
    {segments : List String} {result : Except Fault (List String)} {asked : List Lookup}
    (h : consumeAll (consume store registry enter) given index constraints segments =
      some (result, asked)) :
    asked <+: constraints.filterMap Constraint.lookup? ∧
      ∀ rest, result = .ok rest → asked = constraints.filterMap Constraint.lookup? := by
  induction constraints generalizing index segments asked with
  | nil =>
      obtain ⟨-, rfl⟩ := Prod.mk.inj (Option.some.inj h)
      exact ⟨List.nil_prefix, fun _ _ => rfl⟩
  | cons constraint others ih =>
      have hfirst : ∀ name, constraint ≠ .set name := by
        rintro name rfl
        exact hsets name (by simp)
      have hothers : ∀ name, .set name ∉ others := fun name hname =>
        hsets name (by simp [hname])
      obtain ⟨reached, hreached⟩ := @exists_consume_eq_some _ store registry enter constraint
        hfirst segments
      rw [consumeAll, hreached] at h
      rw [filterMap_lookup?_cons]
      rcases reached with fault | remaining
      · obtain ⟨rfl, rfl⟩ := Prod.mk.inj (Option.some.inj h)
        refine ⟨by simp, ?_⟩
        rintro rest ⟨⟩
      · obtain ⟨⟨final, more⟩, hmore, hsplit⟩ := Option.map_eq_some_iff.mp h
        obtain ⟨rfl, rfl⟩ := Prod.mk.inj hsplit
        obtain ⟨hasked, hall⟩ := ih hothers hmore
        refine ⟨(List.prefix_append_right_inj _).mpr hasked, ?_⟩
        intro rest hrest
        rw [hall rest hrest]

end WithoutSets

/-! ## Questions of a validation -/

/-- A validation puts the questions of its evaluation, which takes all constraints to the
end if nothing is wrong but segments that are left over. -/
theorem exists_evaluate_of_validateSegments {schema : Schema} {segments : List String}
    {result : Except Fault Unit} {asked : List Lookup}
    (h : validateSegments store registry schema segments = some (result, asked)) :
    ∃ reached, evaluate store registry schema segments = some (reached, asked) ∧
      ((result = .ok () ∨ ∃ leftover, result = .error (.trailingSegments leftover)) →
        ∃ rest, reached = .ok rest) := by
  rw [validateSegments] at h
  rcases hevaluate : evaluate store registry schema segments with
    _ | ⟨fault | rest, before⟩
  · rw [hevaluate] at h
    cases h
  · rw [hevaluate] at h
    obtain ⟨rfl, rfl⟩ : .error fault = result ∧ before = asked := by
      simpa [Outcome.andThen, Outcome.after, Outcome.done] using h
    refine ⟨.error fault, rfl, ?_⟩
    rintro (hok | ⟨leftover, hleftover⟩)
    · cases hok
    · obtain ⟨_, _, _, _, _, _, _, _, rfl⟩ :=
        result?_consumeAll_eq_error_iff.mp (congrArg Outcome.result? hevaluate)
      cases hleftover
  · rw [hevaluate] at h
    obtain rfl : before = asked := by
      rcases rest with _ | ⟨segment, others⟩
      · simpa [Outcome.andThen, Outcome.after, complete, Outcome.done] using
          congrArg (Option.map Prod.snd) h
      · simpa [Outcome.andThen, Outcome.after, complete, Outcome.done] using
          congrArg (Option.map Prod.snd) h
    exact ⟨.ok rest, rfl, fun _ => ⟨rest, rfl⟩⟩

end Plain

/-! ## Questions of the parts -/

namespace Constraint

theorem lookup?_of_ofPart {part : Part} {constraint : Constraint}
    (h : ofPart part = .ok constraint) : constraint.lookup? = part.lookup? := by
  cases compiled_of_ofPart h <;> rfl

/-- Parts without sets compile to constraints that ask for their variables in order. -/
theorem filterMap_lookup?_of_ofParts {parts : List Part} {constraints : List Constraint}
    (h : ofParts parts = .ok constraints) (hsets : Part.setNames parts = []) :
    constraints.filterMap lookup? = (Part.variableNames parts).map .var := by
  rw [← Part.filterMap_lookup?_of_setNames_eq_nil hsets]
  have hparts := ofParts_eq_ok_iff.mp h
  clear h hsets
  induction hparts with
  | nil => rfl
  | cons hpart _ ih =>
      rw [List.filterMap_cons, List.filterMap_cons, lookup?_of_ofPart hpart, ih]

theorem set_notMem_of_ofParts {parts : List Part} {constraints : List Constraint}
    (h : ofParts parts = .ok constraints) (hsets : Part.setNames parts = [])
    (name : String) : .set name ∉ constraints := by
  intro hmem
  have hlookup : .set name ∈ constraints.filterMap lookup? :=
    List.mem_filterMap.mpr ⟨.set name, hmem, rfl⟩
  rw [filterMap_lookup?_of_ofParts h hsets] at hlookup
  simp at hlookup

end Constraint

/-! ## One validation and another -/

namespace Schema

/-- The dialogue of a validation runs to the end in an acyclic store, and its questions to
the store are those of the plain validation. -/
theorem exists_questions {store : Store} (hstore : store.Acyclic) (registry : Registry)
    (schema : Schema) (segments : List String) :
    ∃ result questions,
      (Dialogue.validateWithin (store.depthBound segments) schema segments).run store
        registry = some (result, questions) ∧
      Plain.validateSegments store registry schema segments =
        some (result, questions.filterMap Question.lookup?) := by
  obtain ⟨⟨result, asked⟩, houtcome⟩ :=
    Plain.exists_validateSegments_eq_some hstore.grounded registry schema segments
  have hdialogue := Dialogue.outcome_validateWithin store registry schema segments
  rw [houtcome] at hdialogue
  obtain ⟨⟨reached, questions⟩, hrun, hreached⟩ := Option.map_eq_some_iff.mp hdialogue
  obtain ⟨rfl, rfl⟩ := Prod.mk.inj hreached
  exact ⟨reached, questions, hrun, houtcome⟩

/-- Stores and registries that answer alike what is asked lead a validation to the same
result through the same questions.  Their sets may nest to different depths. -/
theorem run_validateWithin_eq_of_same_answers {store store' : Store}
    (hstore' : store'.Acyclic) {registry registry' : Registry} {schema : Schema}
    {segments : List String} {result : Except Fault Unit} {questions : List Question}
    (hrun : (Dialogue.validateWithin (store.depthBound segments) schema segments).run store
      registry = some (result, questions))
    (hsame : ∀ question ∈ questions,
      question.answer store registry = question.answer store' registry') :
    (Dialogue.validateWithin (store'.depthBound segments) schema segments).run store'
      registry' = some (result, questions) := by
  obtain ⟨result', questions', hrun', -⟩ :=
    exists_questions hstore' registry' schema segments
  let depth := max (store.depthBound segments) (store'.depthBound segments)
  have hdeeper : (Dialogue.validateWithin depth schema segments).run store registry =
      some (result, questions) :=
    (Dialogue.validateWithin_within (Nat.le_max_left _ _) schema segments).run_eq hrun
  have hdeeper' : (Dialogue.validateWithin depth schema segments).run store' registry' =
      some (result', questions') :=
    (Dialogue.validateWithin_within (Nat.le_max_right _ _) schema segments).run_eq hrun'
  have hsameRun := Dialogue.run_eq_of_same_answers hdeeper hsame
  rw [hrun', ← hdeeper', hsameRun]

/-- Without sets a validation asks for the variables of the parts from left to right, and
for all of them unless a constraint fails. -/
theorem asked_prefix_of_validateSegments {store : Store} {registry : Registry}
    {schema : Schema} {parts : List Part} (hparts : compile parts = .ok schema.constraints)
    (hsets : Part.setNames parts = []) {segments : List String}
    {result : Except Fault Unit} {asked : List Lookup}
    (h : Plain.validateSegments store registry schema segments = some (result, asked)) :
    asked <+: (Part.variableNames parts).map .var ∧
      ((result = .ok () ∨ ∃ leftover, result = .error (.trailingSegments leftover)) →
        asked = (Part.variableNames parts).map .var) := by
  have hconstraints := (compile_eq_ok_iff.mp hparts).2
  obtain ⟨reached, hevaluate, hreached⟩ := Plain.exists_evaluate_of_validateSegments h
  obtain ⟨hasked, hall⟩ := Plain.asked_prefix_of_consumeAll
    (Constraint.set_notMem_of_ofParts hconstraints hsets) hevaluate
  rw [Constraint.filterMap_lookup?_of_ofParts hconstraints hsets] at hasked hall
  refine ⟨hasked, ?_⟩
  intro hresult
  obtain ⟨rest, hrest⟩ := hreached hresult
  exact hall rest hrest

/-- A validation depends on the answers to its own questions alone: to those that it puts
to the store, and to those for the modifiers that it calls.  Each question to the store is
for a name in the schema or in a member of a set asked for before; without sets the
questions are for the variables of the schema in order. -/
theorem validation_depends_only_on_answers {store : Store} (hstore : store.Acyclic)
    (registry : Registry) (schema : Schema) {memory : Memory} (hmemory : memory.Sound)
    (segments : List String) :
    ∃ answer after questions,
      (Call.validateSegments schema segments).answer? store registry memory =
        some (answer, after) ∧
      schema.questions? store registry segments = some questions ∧
      answer.lookups = questions.filterMap Question.lookup? ∧
      (∀ (store' : Store) (registry' : Registry) (memory' : Memory),
        store'.Acyclic → memory'.Sound →
        (∀ question ∈ questions,
          question.answer store registry = question.answer store' registry') →
        schema.questions? store' registry' segments = some questions ∧
        ∃ after', (Call.validateSegments schema segments).answer? store' registry' memory' =
          some (answer, after')) ∧
      Introduced store (· ∈ schema.lookups) answer.lookups ∧
      ∀ parts, compile parts = .ok schema.constraints → Part.setNames parts = [] →
        answer.lookups <+: (Part.variableNames parts).map .var ∧
        ((answer.result = .ok () ∨
            ∃ leftover, answer.result = .error (.trailingSegments leftover)) →
          answer.lookups = (Part.variableNames parts).map .var) := by
  obtain ⟨result, questions, hrun, houtcome⟩ :=
    exists_questions hstore registry schema segments
  obtain ⟨after, -, hanswer⟩ := Call.exists_answer_of_outcome
    (show (Call.validateSegments schema segments).outcome store registry = _ from houtcome)
    hmemory
  refine ⟨⟨result, questions.filterMap Question.lookup?⟩, after, questions, hanswer, ?_, rfl,
    ?_, ?_, ?_⟩
  · rw [questions?, hrun]
    rfl
  · intro store' registry' memory' hstore' hmemory' hsame
    have hrun' := run_validateWithin_eq_of_same_answers hstore' hrun hsame
    have houtcome' : (Call.validateSegments schema segments).outcome store' registry' =
        some (result, questions.filterMap Question.lookup?) := by
      rw [Call.outcome, ← Dialogue.outcome_validateWithin, Dialogue.outcome, hrun']
      rfl
    obtain ⟨after', -, hanswer'⟩ := Call.exists_answer_of_outcome houtcome' hmemory'
    refine ⟨?_, after', hanswer'⟩
    rw [questions?, hrun']
    rfl
  · obtain ⟨reached, hevaluate, -⟩ := Plain.exists_evaluate_of_validateSegments houtcome
    exact Plain.evaluate_introduces schema segments reached _ hevaluate
  · intro parts hparts hsets
    exact asked_prefix_of_validateSegments hparts hsets houtcome

end Schema

end

namespace Schema

/-- The second surroundings have a further variable, a further set that nests deeper, and a
further modifier. -/
theorem validation_depends_only_on_answers_of_member_with_modifier :
    ∃ answer after after',
      (Call.validateSegments ⟨"$[s]/+", [.set "s", .run 1 1]⟩ ["x", "y"]).answer?
        (Store.ofEntries [("v", "p-x")] [("s", ["$none", "$v.strip_last_prefix(\"p-\")"])])
        Registry.builtin {} = some (answer, after) ∧
      (Call.validateSegments ⟨"$[s]/+", [.set "s", .run 1 1]⟩ ["x", "y"]).answer?
        (Store.ofEntries [("w", "y"), ("v", "p-x")]
          [("t", ["$[s]"]), ("s", ["$none", "$v.strip_last_prefix(\"p-\")"])])
        (Registry.merged [("upper", fun segments _ => .ok segments)]) {} =
          some (answer, after') ∧
      answer.lookups = [.set "s", .var "none", .var "v"] := by
  let store : Store :=
    Store.ofEntries [("v", "p-x")] [("s", ["$none", "$v.strip_last_prefix(\"p-\")"])]
  let store' : Store :=
    Store.ofEntries [("w", "y"), ("v", "p-x")]
      [("t", ["$[s]"]), ("s", ["$none", "$v.strip_last_prefix(\"p-\")"])]
  have hstore : store.Acyclic := Store.acyclic_of_rank (fun _ => 0) (by decide +kernel)
  have hstore' : store'.Acyclic :=
    Store.acyclic_of_rank (fun name => if name = "t" then 1 else 0) (by decide +kernel)
  obtain ⟨answer, after, questions, hanswer, hquestions, hlookups, hdepends, -, -⟩ :=
    validation_depends_only_on_answers hstore Registry.builtin
      ⟨"$[s]/+", [.set "s", .run 1 1]⟩ Memory.sound_empty ["x", "y"]
  have hasked : questions? store Registry.builtin ⟨"$[s]/+", [.set "s", .run 1 1]⟩
      ["x", "y"] = some [.members "s", .value "none", .value "v",
        .modifier "strip_last_prefix"] := by
    decide +kernel
  obtain rfl : questions = [.members "s", .value "none", .value "v",
      .modifier "strip_last_prefix"] :=
    Option.some.inj (hquestions.symm.trans hasked)
  obtain ⟨-, after', hanswer'⟩ := hdepends store'
    (Registry.merged [("upper", fun segments _ => .ok segments)]) {} hstore'
    Memory.sound_empty (by
      intro question hquestion
      obtain rfl | rfl | rfl | rfl : question = .members "s" ∨ question = .value "none" ∨
          question = .value "v" ∨ question = .modifier "strip_last_prefix" := by
        simpa using hquestion
      all_goals rfl)
  exact ⟨answer, after, after', hanswer, hanswer', hlookups⟩

end Schema

end PathSchema
