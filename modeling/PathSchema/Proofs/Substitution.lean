import PathSchema.Proofs.Joining
import PathSchema.Proofs.Path
import PathSchema.Proofs.RoundTrip
import PathSchema.Pattern.Engine

/-!
# Substituting sets and variables

A set that has one member stands for the text of this member, and a variable whose value
is made of identifiers stands for its value as a schema text.  Either way the constraints
are not the same: a set forgets why its member failed, and a variable compares all of its
segments at once.  But they leave the same on every list of segments that they take, so a
schema accepts the same paths with the one as with the other, whatever stands around.
-/

namespace PathSchema

namespace Schema

theorem renderList_literals (segments : List String) :
    Part.renderList (segments.map .literal) = Path.join segments := by
  rw [← String.toList_inj, Path.toList_join, Part.renderList, Lexeme.written,
    String.toList_ofList]
  induction segments with
  | nil => rfl
  | cons first others ih =>
      rcases others with _ | ⟨second, others⟩
      · simp [Part.listLexemes, Part.lexemes, Lexeme.source]
      · rw [List.map_cons, List.map_cons, Part.listLexemes_cons_cons, List.flatMap_append,
          List.flatMap_cons, ← List.map_cons, ih]
        simp [Part.lexemes, Lexeme.source, Lexeme.ofKind, TokenKind.symbol?,
          List.intercalate_cons_cons]

end Schema

section

variable [RegexLibrary]

open Plain (Passes evaluateConstraint)

namespace Schema

/-- A schema text with others before and after it, as far as there are any. -/
def surround (before after : Option String) (text : String) : String :=
  let begun := match before with
    | none => text
    | some front => front ++ "/" ++ text
  match after with
  | none => begun
  | some rest => begun ++ "/" ++ rest

/-- Both texts compile, and validating the path comes to an end with both; the path is
accepted with both of them or with none. -/
def AcceptAlike (store : Store) (registry : Registry) (memory : Memory) (path : String)
    (text other : String) : Prop :=
  ∃ first second result otherResult after otherAfter,
    ofText text = .ok first ∧ ofText other = .ok second ∧
    (first.validate store registry path).run memory = some (result, after) ∧
    (second.validate store registry path).run memory = some (otherResult, otherAfter) ∧
    (result = .ok () ↔ otherResult = .ok ())

/-! ## Texts -/

/-- Surrounding a schema text puts constraints before and after its own, the same whatever
the text is. -/
theorem exists_ofText_surround {before after : Option String}
    (hbefore : ∀ text ∈ before, ∃ schema, ofText text = .ok schema)
    (hafter : ∀ text ∈ after, ∃ schema, ofText text = .ok schema) :
    ∃ front rest : List Constraint, ∀ text schema, ofText text = .ok schema →
      ∃ whole, ofText (surround before after text) = .ok whole ∧
        whole.constraints = front ++ (schema.constraints ++ rest) := by
  have hfront : ∃ front : List Constraint, ∀ text schema, ofText text = .ok schema →
      ∃ begun, ofText (surround before none text) = .ok begun ∧
        begun.constraints = front ++ schema.constraints := by
    cases before with
    | none => exact ⟨[], fun text schema htext => ⟨schema, htext, rfl⟩⟩
    | some first =>
        obtain ⟨given, hgiven⟩ := hbefore first rfl
        exact ⟨given.constraints, fun text schema htext =>
          ⟨_, ofText_append_slash hgiven htext, rfl⟩⟩
  obtain ⟨front, hfront⟩ := hfront
  cases after with
  | none =>
      refine ⟨front, [], fun text schema htext => ?_⟩
      obtain ⟨begun, hbegun, hconstraints⟩ := hfront text schema htext
      exact ⟨begun, hbegun, by rw [hconstraints, List.append_nil]⟩
  | some last =>
      obtain ⟨given, hgiven⟩ := hafter last rfl
      refine ⟨front, given.constraints, fun text schema htext => ?_⟩
      obtain ⟨begun, hbegun, hconstraints⟩ := hfront text schema htext
      have hwhole : ofText (surround before (some last) text) =
          .ok ⟨surround before none text ++ "/" ++ last,
            begun.constraints ++ given.constraints⟩ :=
        ofText_append_slash hbegun hgiven
      exact ⟨_, hwhole, by rw [hconstraints, List.append_assoc]⟩

theorem ofText_renderList {parts : List Part} {constraints : List Constraint}
    (hparts : Part.ListWellFormed parts)
    (hconstraints : Constraint.ofParts parts = .ok constraints) :
    ofText (Part.renderList parts) = .ok ⟨Part.renderList parts, constraints⟩ :=
  ofText_eq_ok_iff.mpr ⟨rfl, parts, Part.ofText_renderList hparts,
    compile_eq_ok_iff.mpr ⟨hparts.1, hconstraints⟩⟩

theorem ofText_set {name : String} (hname : IsIdentifier name) :
    ∃ schema, ofText ("$[" ++ name ++ "]") = .ok schema ∧
      schema.constraints = [.set name] := by
  have htext : Part.renderList [.set name] = "$[" ++ name ++ "]" := by
    rw [← String.toList_inj]
    simp [Part.renderList, Part.listLexemes, Part.lexemes, Lexeme.written, Lexeme.source,
      Lexeme.ofKind, TokenKind.symbol?]
  have hparts : Part.ListWellFormed [.set name] :=
    ⟨by simp, by simpa [Part.WellFormed] using hname⟩
  rw [← htext]
  exact ⟨_, ofText_renderList hparts rfl, rfl⟩

theorem ofText_var {name : String} (hname : IsIdentifier name) :
    ∃ schema, ofText ("$" ++ name) = .ok schema ∧ schema.constraints = [.var name []] := by
  have htext : Part.renderList [.var name []] = "$" ++ name := by
    rw [← String.toList_inj]
    simp [Part.renderList, Part.listLexemes, Part.lexemes, Lexeme.written, Lexeme.source,
      Lexeme.ofKind, TokenKind.symbol?, ModifierCall.chainLexemes]
  have hparts : Part.ListWellFormed [.var name []] :=
    ⟨by simp, by simpa using ⟨hname, by simp⟩⟩
  rw [← htext]
  exact ⟨_, ofText_renderList hparts rfl, rfl⟩

/-- A value that is made of identifiers is the text of literals. -/
theorem ofText_value {value : String}
    (hvalue : ∀ segment ∈ Path.splitAll value, IsIdentifier segment) :
    ∃ schema, ofText value = .ok schema ∧
      schema.constraints = (Path.splitAll value).map .literal := by
  have hparts : Part.ListWellFormed ((Path.splitAll value).map .literal) := by
    refine ⟨by simp [Path.splitAll_ne_nil], ?_⟩
    intro part hpart
    obtain ⟨segment, hsegment, rfl⟩ := List.mem_map.mp hpart
    exact hvalue segment hsegment
  have hconstraints : Constraint.ofParts ((Path.splitAll value).map .literal) =
      .ok ((Path.splitAll value).map .literal) := by
    rw [Constraint.ofParts_eq_ok_iff, List.forall₂_map_left_iff, List.forall₂_map_right_iff]
    exact List.forall₂_same.mpr fun _ _ => rfl
  have htext : Part.renderList ((Path.splitAll value).map .literal) = value := by
    rw [renderList_literals, Path.join_splitAll]
  have hcompiled := ofText_renderList hparts hconstraints
  rw [htext] at hcompiled
  exact ⟨_, hcompiled, rfl⟩

end Schema

/-! ## Constraints that leave the same -/

namespace Plain

variable {store : Store} {registry : Registry}

theorem evaluate_eq_ok_iff_passes (hstore : store.Grounded) {schema : Schema}
    {segments rest : List String} :
    (evaluate store registry schema segments).result? = some (.ok rest) ↔
      Passes (evaluateConstraint store registry) schema.constraints segments rest := by
  rw [evaluate_eq_consumeAll hstore, result?_consumeAll_eq_ok_iff]

theorem passes_set_iff_passes_member (hstore : store.Grounded) {name member : String}
    {schema : Schema} (hmembers : store.set? name = some [member])
    (hschema : Schema.ofText member = .ok schema) {segments rest : List String} :
    Passes (evaluateConstraint store registry) [.set name] segments rest ↔
      Passes (evaluateConstraint store registry) schema.constraints segments rest := by
  rw [passes_singleton_iff, ← evaluate_eq_ok_iff_passes hstore,
    evaluateConstraint_set_of_ne_nil hstore registry hmembers (by simp),
    Outcome.result?_after, firstMember, hschema]
  dsimp only
  rw [Outcome.result?_andThen]
  rcases (evaluate store registry schema segments).result? with _ | fault | remaining
  · rfl
  · simp [firstMember]
  · rfl

theorem passes_literals_iff {texts segments rest : List String} :
    Passes (evaluateConstraint store registry) (texts.map .literal) segments rest ↔
      segments = texts ++ rest := by
  induction texts generalizing segments with
  | nil =>
      constructor
      · rintro ⟨⟩
        rfl
      · rintro rfl
        exact .nil
  | cons text texts ih =>
      constructor
      · rintro (_ | ⟨hstep, hothers⟩)
        obtain rfl := consume_literal_eq_ok_iff.mp hstep
        rw [ih.mp hothers]
        rfl
      · rintro rfl
        exact .cons (consume_literal_eq_ok_iff.mpr rfl) (ih.mpr rfl)

/-- A variable without modifiers leaves what the literals of its value leave. -/
theorem passes_var_iff_passes_literals {name value : String}
    (hvalue : store.value? name = some value) {segments rest : List String} :
    Passes (evaluateConstraint store registry) [.var name []] segments rest ↔
      Passes (evaluateConstraint store registry) ((Path.splitAll value).map .literal)
        segments rest := by
  rw [passes_singleton_iff, passes_literals_iff]
  exact consume_unmodified_eq_ok_iff hvalue

end Plain

namespace Schema

/-- Validating a path comes to an end, and succeeds if the constraints take all of it. -/
theorem exists_run_validate {store : Store} (hstore : store.Grounded) (registry : Registry)
    (schema : Schema) {memory : Memory} (hmemory : memory.Sound) (path : String) :
    ∃ result after, (schema.validate store registry path).run memory = some (result, after) ∧
      (result = .ok () ↔ Passes (evaluateConstraint store registry) schema.constraints
        (Path.split path) []) := by
  obtain ⟨result, after, hrun, hresult⟩ :=
    exists_run_validateSegments hstore registry schema hmemory (Path.split path)
  refine ⟨result, after, hrun, ?_⟩
  rw [← Plain.evaluate_eq_ok_iff_passes hstore, ← Plain.result?_validateSegments_eq_ok_iff,
    hresult, Option.some.injEq]

/-- Texts whose constraints leave the same are accepted alike, whatever stands around. -/
theorem acceptAlike_surround {store : Store} (hstore : store.Grounded)
    {registry : Registry} {before after : Option String}
    (hbefore : ∀ text ∈ before, ∃ schema, ofText text = .ok schema)
    (hafter : ∀ text ∈ after, ∃ schema, ofText text = .ok schema)
    {memory : Memory} (hmemory : memory.Sound) (path : String) {text other : String}
    {first second : Schema} (hfirst : ofText text = .ok first)
    (hsecond : ofText other = .ok second)
    (hsame : ∀ segments rest,
      Passes (evaluateConstraint store registry) first.constraints segments rest ↔
        Passes (evaluateConstraint store registry) second.constraints segments rest) :
    AcceptAlike store registry memory path (surround before after text)
      (surround before after other) := by
  obtain ⟨front, rest, hsurround⟩ := exists_ofText_surround hbefore hafter
  obtain ⟨whole, hwhole, hconstraints⟩ := hsurround text first hfirst
  obtain ⟨otherWhole, hotherWhole, hotherConstraints⟩ := hsurround other second hsecond
  obtain ⟨result, ended, hrun, haccepts⟩ :=
    exists_run_validate hstore registry whole hmemory path
  obtain ⟨otherResult, otherEnded, hotherRun, hotherAccepts⟩ :=
    exists_run_validate hstore registry otherWhole hmemory path
  refine ⟨whole, otherWhole, result, otherResult, ended, otherEnded, hwhole, hotherWhole,
    hrun, hotherRun, ?_⟩
  rw [haccepts, hotherAccepts, hconstraints, hotherConstraints]
  simp only [Plain.passes_append_iff, hsame]

/-- In any schema text, a set with a single member that compiles can be replaced by the
member, and a variable can be replaced by its value if this is made of identifiers: the
same paths are accepted. -/
theorem acceptance_preserved_by_substitution {store : Store} (hstore : store.Acyclic)
    (registry : Registry) {before after : Option String}
    (hbefore : ∀ text ∈ before, ∃ schema, ofText text = .ok schema)
    (hafter : ∀ text ∈ after, ∃ schema, ofText text = .ok schema)
    {memory : Memory} (hmemory : memory.Sound) (path : String) :
    (∀ name member, IsIdentifier name → store.set? name = some [member] →
      (∃ schema, ofText member = .ok schema) →
        AcceptAlike store registry memory path
          (surround before after ("$[" ++ name ++ "]")) (surround before after member)) ∧
    (∀ name value, IsIdentifier name → store.value? name = some value →
      (∀ segment ∈ Path.splitAll value, IsIdentifier segment) →
        AcceptAlike store registry memory path
          (surround before after ("$" ++ name)) (surround before after value)) := by
  constructor
  · rintro name member hname hmembers ⟨schema, hschema⟩
    obtain ⟨written, hwritten, hset⟩ := ofText_set hname
    refine acceptAlike_surround hstore.grounded hbefore hafter hmemory path hwritten hschema ?_
    intro segments rest
    rw [hset]
    exact Plain.passes_set_iff_passes_member hstore.grounded hmembers hschema
  · intro name value hname hvalue hidentifiers
    obtain ⟨written, hwritten, hvar⟩ := ofText_var hname
    obtain ⟨schema, hschema, hliterals⟩ := ofText_value hidentifiers
    refine acceptAlike_surround hstore.grounded hbefore hafter hmemory path hwritten hschema ?_
    intro segments rest
    rw [hvar, hliterals]
    exact Plain.passes_var_iff_passes_literals hvalue

end Schema

end

namespace Schema

/-- Between two wildcards, a set whose member holds a further set, and a variable. -/
theorem acceptance_preserved_by_substitution_between_wildcards :
    AcceptAlike
        (Store.ofEntries [("v", "a-1/_b")] [("s", ["x/$[t]"]), ("t", ["$v", "y"])])
        Registry.builtin {} "q/x/y/r" "+{0,1}/$[s]/*" "+{0,1}/x/$[t]/*" ∧
      AcceptAlike
        (Store.ofEntries [("v", "a-1/_b")] [("s", ["x/$[t]"]), ("t", ["$v", "y"])])
        Registry.builtin {} "q/x/y/r" "+{0,1}/$v/*" "+{0,1}/a-1/_b/*" := by
  let store : Store :=
    Store.ofEntries [("v", "a-1/_b")] [("s", ["x/$[t]"]), ("t", ["$v", "y"])]
  have hstore : store.Acyclic :=
    Store.acyclic_of_rank (fun name => if name = "s" then 1 else 0) (by decide +kernel)
  have hfront : ofText "+{0,1}" = .ok ⟨"+{0,1}", [.run 0 1]⟩ := by decide +kernel
  have hrest : ofText "*" = .ok ⟨"*", [.everything]⟩ := by decide +kernel
  have hmember : ofText "x/$[t]" = .ok ⟨"x/$[t]", [.literal "x", .set "t"]⟩ := by
    decide +kernel
  have hs : IsIdentifier "s" := ⟨'s', [], rfl, rfl, by simp⟩
  have hv : IsIdentifier "v" := ⟨'v', [], rfl, rfl, by simp⟩
  have hsegments : ∀ segment ∈ Path.splitAll "a-1/_b", IsIdentifier segment := by
    have hsplit : Path.splitAll "a-1/_b" = ["a-1", "_b"] := by decide +kernel
    rw [hsplit]
    intro segment hsegment
    obtain rfl | rfl : segment = "a-1" ∨ segment = "_b" := by simpa using hsegment
    · exact ⟨'a', ['-', '1'], rfl, rfl, List.all_eq_true.mp rfl⟩
    · exact ⟨'_', ['b'], rfl, rfl, List.all_eq_true.mp rfl⟩
  have hpreserved := @acceptance_preserved_by_substitution _ store hstore Registry.builtin
    (some "+{0,1}") (some "*") (by simpa using ⟨_, hfront⟩) (by simpa using ⟨_, hrest⟩) {}
    Memory.sound_empty "q/x/y/r"
  exact ⟨hpreserved.1 "s" "x/$[t]" hs rfl ⟨_, hmember⟩,
    hpreserved.2 "v" "a-1/_b" hv rfl hsegments⟩

end Schema

end PathSchema
