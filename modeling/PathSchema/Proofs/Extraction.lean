import Mathlib.Data.List.Forall2
import Mathlib.Data.List.Infix
import PathSchema.Extraction
import PathSchema.Proofs.Evaluation.Result
import PathSchema.Proofs.Evaluation.Transparency
import PathSchema.Proofs.Path
import PathSchema.Pattern.Engine

/-!
# Extraction finds the value that validates

Validation goes through a path from the left and knows the value of the variable;
extraction goes through it from the right and does not.  If a variable stands first and
each constraint after it takes one segment, then both cut the path at the same place.
What the variable stands for is found again from the text that extraction gives, since
neither the segments of a path nor those of a value have slashes.

A set takes one segment if its members do.  Extraction lets any segment pass there, so it
also gives values that do not validate.
-/

namespace PathSchema

/-! ## Segments of a value -/

namespace Modifier

/-- What is left of a segment has no slash if the segment has none. -/
theorem slashFree_of_stripFirst? {fronts : List String} {segment rest : String}
    (h : stripFirst? fronts segment = some rest) (hsegment : Path.SlashFree segment) :
    Path.SlashFree rest := by
  obtain ⟨front, -, hfront⟩ := List.exists_of_findSome?_eq_some h
  obtain ⟨left, hleft, rfl⟩ := Option.map_eq_some_iff.mp hfront
  have happend : front.toList ++ left = segment.toList :=
    List.isPrefixOf?_eq_some_iff_append_eq.mp hleft
  intro hslash
  apply hsegment
  rw [← happend]
  rw [String.toList_ofList] at hslash
  exact List.mem_append_right _ hslash

theorem joinable_of_stripLastPrefix {segments fronts stripped : List String}
    (hsegments : Path.Joinable segments)
    (h : stripLastPrefix segments fronts = .ok stripped) : Path.Joinable stripped := by
  rw [stripLastPrefix] at h
  split at h
  · cases h
  · obtain ⟨last, hlast⟩ : ∃ last, segments.getLast? = some last :=
      ⟨_, List.getLast?_eq_some_getLast hsegments.ne_nil⟩
    have hlastFree : Path.SlashFree last :=
      hsegments.slashFree last (List.mem_of_getLast? hlast)
    rw [hlast] at h
    obtain rfl := Except.ok.inj h
    refine ⟨by simp, fun segment hsegment => ?_⟩
    rcases List.mem_append.mp hsegment with hfront | hend
    · exact hsegments.slashFree segment (List.mem_of_mem_dropLast hfront)
    · obtain rfl := List.mem_singleton.mp hend
      cases hrest : stripFirst? fronts last with
      | none => exact hlastFree
      | some rest => exact slashFree_of_stripFirst? hrest hlastFree

end Modifier

/-- Dropping fronts from the last segment, again and again, leaves segments that can be
joined. -/
theorem Registry.joinable_of_applyAll {calls : List ModifierCall}
    (hcalls : ∀ call ∈ calls, call.name = Modifier.stripLastPrefixName)
    {segments taken : List String} (hsegments : Path.Joinable segments)
    (h : Registry.builtin.applyAll segments calls = .ok taken) : Path.Joinable taken := by
  induction calls generalizing segments with
  | nil =>
      obtain rfl := Except.ok.inj h
      exact hsegments
  | cons call others ih =>
      obtain ⟨hname, hothers⟩ := List.forall_mem_cons.mp hcalls
      have hfind : Registry.builtin.find? call.name = some Modifier.stripLastPrefix := by
        rw [hname]
        rfl
      simp only [applyAll, hfind] at h
      split at h
      · cases h
      · next stripped hstripped =>
          exact ih hothers (Modifier.joinable_of_stripLastPrefix hsegments hstripped) h

section

variable [RegexLibrary]

namespace Constraint

/-- The constraint takes one segment, whatever is in the store. -/
inductive TakesOne : Constraint → Prop where
  | literal {text : String} : TakesOne (.literal text)
  | regex {pattern : Pattern} : TakesOne (.regex pattern)
  | run : TakesOne (.run 1 1)

/-- The constraint takes one segment, or it is a set each of whose members compiles to
one constraint that does. -/
inductive TakesOneFrom (store : Store) : Constraint → Prop where
  | alone {constraint : Constraint} (h : constraint.TakesOne) :
      TakesOneFrom store constraint
  | set {name : String} {members : List String} (hmembers : store.set? name = some members)
      (hall : ∀ text ∈ members, ∃ schema inner, Schema.ofText text = .ok schema ∧
        schema.constraints = [inner] ∧ inner.TakesOne) :
      TakesOneFrom store (.set name)

/-- The constraint is matched with one segment from the right. -/
def FitsOne : Constraint → Prop
  | .literal _ | .regex _ | .run _ _ | .set _ => True
  | .everything | .var _ _ => False

theorem TakesOne.fitsOne {constraint : Constraint} (h : constraint.TakesOne) :
    constraint.FitsOne := by
  cases h <;> trivial

theorem TakesOneFrom.fitsOne {store : Store} {constraint : Constraint}
    (h : constraint.TakesOneFrom store) : constraint.FitsOne := by
  cases h with
  | alone h => exact h.fitsOne
  | set => trivial

/-- Nothing is wrong with the segment, as far as the constraint tells without a store. -/
def Admits : Constraint → String → Prop
  | .literal text, segment => segment = text
  | .regex pattern, segment => pattern.isMatch segment = true
  | .run _ _, _ | .everything, _ | .var _ _, _ | .set _, _ => True

end Constraint

namespace Plain

open Constraint (TakesOne TakesOneFrom Admits)

/-! ## From the left -/

variable {store : Store} {registry : Registry} {depth : Nat}

theorem consume_eq_ok_iff_of_takesOne
    {enter : String → List String → Outcome (List String)} {constraint : Constraint}
    (h : constraint.TakesOne) {segments rest : List String} :
    (consume store registry enter constraint segments).result? = some (.ok rest) ↔
      ∃ segment, constraint.Admits segment ∧ segments = segment :: rest := by
  cases h with
  | literal =>
      rw [consume_literal_eq_ok_iff]
      simp [Admits]
  | regex => exact consume_regex_eq_ok_iff
  | run =>
      rw [consume_run_eq_ok_iff]
      rcases segments with _ | ⟨segment, others⟩
      · simp
      · simp [Admits, eq_comm]

theorem exists_admits_of_consume_eq_ok {constraint : Constraint}
    (h : constraint.TakesOneFrom store) {segments rest : List String}
    (hconsume : (consume store registry (enterSet store registry (depth + 1)) constraint
      segments).result? = some (.ok rest)) :
    ∃ segment, constraint.Admits segment ∧ segments = segment :: rest := by
  cases h with
  | alone h => exact (consume_eq_ok_iff_of_takesOne h).mp hconsume
  | set hmembers hall =>
      obtain ⟨tried, text, others, schema, hfound, -, htext, hevaluate⟩ :=
        exists_match_of_enterSet_eq_ok hconsume
      obtain rfl := Option.some.inj (hmembers.symm.trans hfound)
      obtain ⟨same, inner, hsame, hconstraints, hinner⟩ := hall text (by simp)
      obtain rfl : schema = same := Except.ok.inj (htext.symm.trans hsame)
      rw [evaluateWithin, hconstraints, result?_consumeAll_eq_ok_iff,
        passes_singleton_iff] at hevaluate
      obtain ⟨segment, -, hsegments⟩ := (consume_eq_ok_iff_of_takesOne hinner).mp hevaluate
      exact ⟨segment, trivial, hsegments⟩

/-- Constraints that take all segments take one each. -/
theorem forall₂_admits_of_passes {constraints : List Constraint}
    (h : ∀ constraint ∈ constraints, constraint.TakesOneFrom store)
    {segments : List String}
    (hpasses : Passes (consume store registry (enterSet store registry (depth + 1)))
      constraints segments []) :
    List.Forall₂ Admits constraints segments := by
  induction constraints generalizing segments with
  | nil =>
      cases hpasses
      exact .nil
  | cons constraint others ih =>
      obtain ⟨hconstraint, hothers⟩ := List.forall_mem_cons.mp h
      rcases hpasses with _ | ⟨hstep, hrest⟩
      obtain ⟨segment, hadmits, rfl⟩ := exists_admits_of_consume_eq_ok hconstraint hstep
      exact .cons hadmits (ih hothers hrest)

theorem passes_of_forall₂_admits {enter : String → List String → Outcome (List String)}
    {constraints : List Constraint} (h : ∀ constraint ∈ constraints, constraint.TakesOne)
    {segments : List String} (hadmits : List.Forall₂ Admits constraints segments) :
    Passes (consume store registry enter) constraints segments [] := by
  induction hadmits with
  | nil => exact .nil
  | cons hsegment _ ih =>
      obtain ⟨hconstraint, hothers⟩ := List.forall_mem_cons.mp h
      exact .cons ((consume_eq_ok_iff_of_takesOne hconstraint).mpr ⟨_, hsegment, rfl⟩)
        (ih hothers)

end Plain

/-! ## From the right -/

namespace Constraint

theorem segmentProblem?_eq_none_iff {index : Nat} {constraint : Constraint}
    {segment : String} :
    constraint.segmentProblem? index segment = none ↔ constraint.Admits segment := by
  cases constraint <;> simp [segmentProblem?, Admits]

theorem bindings_cons_cons {constraint : Constraint} (h : constraint.FitsOne)
    (others : List Constraint) (segment : String) (rest : List String) :
    bindings (constraint :: others) (segment :: rest) =
      match constraint.segmentProblem? others.length segment with
      | some problem => .error problem
      | none => bindings others rest := by
  cases constraint with
  | everything => cases h
  | var name calls => cases h
  | _ => rfl

theorem bindings_cons_eq_ok_iff {constraint : Constraint} (h : constraint.FitsOne)
    {others : List Constraint} {segments : List String} {found : List (String × String)} :
    bindings (constraint :: others) segments = .ok found ↔
      ∃ segment rest, segments = segment :: rest ∧ constraint.Admits segment ∧
        bindings others rest = .ok found := by
  rcases segments with _ | ⟨segment, rest⟩
  · cases constraint with
    | everything => cases h
    | var name calls => cases h
    | _ => simp [bindings]
  · rw [bindings_cons_cons h]
    cases hproblem : constraint.segmentProblem? others.length segment with
    | none =>
        have hadmits : constraint.Admits segment := segmentProblem?_eq_none_iff.mp hproblem
        constructor
        · intro hfound
          exact ⟨segment, rest, rfl, hadmits, hfound⟩
        · rintro ⟨_, _, ⟨⟩, -, hfound⟩
          exact hfound
    | some problem =>
        have hrefuses : ¬constraint.Admits segment := by
          intro hadmits
          rw [segmentProblem?_eq_none_iff.mpr hadmits] at hproblem
          cases hproblem
        constructor
        · intro hfound
          cases hfound
        · rintro ⟨_, _, ⟨⟩, hadmits, -⟩
          exact absurd hadmits hrefuses

/-- Constraints that are matched with one segment each leave the rest to the variable, if
there is any. -/
theorem bindings_append_var_eq_ok_iff {constraints : List Constraint}
    (h : ∀ constraint ∈ constraints, constraint.FitsOne) {name : String}
    {calls : List ModifierCall} {segments : List String}
    {found : List (String × String)} :
    bindings (constraints ++ [.var name calls]) segments = .ok found ↔
      ∃ taken front, segments = taken ++ front ∧ List.Forall₂ Admits constraints taken ∧
        front ≠ [] ∧ found = [(name, Path.join front.reverse)] := by
  induction constraints generalizing segments with
  | nil =>
      rcases segments with _ | ⟨segment, rest⟩
      · simp [bindings]
      · simp [bindings, eq_comm]
  | cons constraint others ih =>
      obtain ⟨hconstraint, hothers⟩ := List.forall_mem_cons.mp h
      rw [List.cons_append, bindings_cons_eq_ok_iff hconstraint]
      constructor
      · rintro ⟨segment, rest, rfl, hadmits, hbindings⟩
        obtain ⟨taken, front, rfl, htaken, hfront, hfound⟩ := (ih hothers).mp hbindings
        exact ⟨segment :: taken, front, rfl, .cons hadmits htaken, hfront, hfound⟩
      · rintro ⟨taken, front, rfl, htaken, hfront, hfound⟩
        rcases htaken with _ | ⟨hadmits, htaken⟩
        exact ⟨_, _, rfl, hadmits,
          (ih hothers).mpr ⟨_, front, rfl, htaken, hfront, hfound⟩⟩

end Constraint

/-! ## Whole schemas -/

namespace Schema

open Constraint (TakesOne TakesOneFrom Admits)

/-- Validating the path, with the built-in modifiers, comes to an end and succeeds. -/
def Accepts (schema : Schema) (store : Store) (memory : Memory) (path : String) : Prop :=
  ∃ after, (schema.validate store Registry.builtin path).run memory = some (.ok (), after)

section

variable {schema : Schema} {name : String} {calls : List ModifierCall}
  {others : List Constraint} {store : Store} {path : String}

theorem extract_eq_ok_iff_bindings {found : List (String × String)} :
    schema.extract path = .ok found ↔
      Constraint.bindings schema.constraints.reverse (Path.split path).reverse =
        .ok found := by
  rw [extract]
  split
  · next bindings hbindings => simp [hbindings]
  · next problem hproblem => simp [hproblem]

theorem extract_eq_ok_iff (hconstraints : schema.constraints = .var name calls :: others)
    (h : ∀ constraint ∈ others, constraint.FitsOne) {found : List (String × String)} :
    schema.extract path = .ok found ↔
      ∃ front rest, Path.split path = front ++ rest ∧ List.Forall₂ Admits others rest ∧
        front ≠ [] ∧ found = [(name, Path.join front)] := by
  have hreverse : ∀ constraint ∈ others.reverse, constraint.FitsOne :=
    fun constraint hmem => h constraint (List.mem_reverse.mp hmem)
  rw [extract_eq_ok_iff_bindings, hconstraints, List.reverse_cons,
    Constraint.bindings_append_var_eq_ok_iff hreverse]
  constructor
  · rintro ⟨taken, front, hsegments, htaken, hfront, rfl⟩
    refine ⟨front.reverse, taken.reverse, ?_, ?_, by simpa using hfront, rfl⟩
    · rw [← List.reverse_append, ← hsegments, List.reverse_reverse]
    · rw [← List.reverse_reverse others, List.forall₂_reverse_iff]
      exact htaken
  · rintro ⟨front, rest, hsegments, hrest, hfront, rfl⟩
    refine ⟨rest.reverse, front.reverse, ?_, List.forall₂_reverse_iff.mpr hrest,
      by simpa using hfront, by rw [List.reverse_reverse]⟩
    rw [hsegments, List.reverse_append]

/-- A path is accepted if it begins with what the value of the variable stands for, and the
constraints after the variable take the rest. -/
theorem accepts_iff_passes (hconstraints : schema.constraints = .var name calls :: others)
    {value : String} (hvalue : store.value? name = some value) {memory : Memory}
    (hmemory : memory.Sound) :
    schema.Accepts store memory path ↔
      ∃ taken rest, Registry.builtin.applyAll (Path.splitAll value) calls = .ok taken ∧
        Path.split path = taken ++ rest ∧
        Plain.Passes (Plain.consume store Registry.builtin
          (Plain.enterSet store Registry.builtin (store.depthBound (Path.split path))))
          others rest [] := by
  rw [Accepts, (validate_follows schema path).exists_run_iff hmemory,
    Plain.result?_validateSegments_eq_ok_iff, Plain.evaluate, Plain.evaluateWithin,
    Plain.result?_consumeAll_eq_ok_iff, hconstraints]
  constructor
  · rintro (_ | ⟨hvar, hothers⟩)
    obtain ⟨same, taken, hsame, happly, hsegments⟩ := Plain.consume_var_eq_ok_iff.mp hvar
    obtain rfl := Option.some.inj (hvalue.symm.trans hsame)
    exact ⟨taken, _, happly, hsegments, hothers⟩
  · rintro ⟨taken, rest, happly, hsegments, hothers⟩
    exact .cons (Plain.consume_var_eq_ok_iff.mpr ⟨value, taken, hvalue, happly, hsegments⟩)
      hothers

/-- What a value stands for in an accepted path is what extraction gives. -/
theorem exists_extract_of_accepts
    (hconstraints : schema.constraints = .var name calls :: others)
    (hcalls : ∀ call ∈ calls, call.name = Modifier.stripLastPrefixName)
    {value : String} (hvalue : store.value? name = some value) {memory : Memory}
    (hmemory : memory.Sound) (h : ∀ constraint ∈ others, constraint.TakesOneFrom store)
    (haccepts : schema.Accepts store memory path) :
    ∃ taken, Registry.builtin.applyAll (Path.splitAll value) calls = .ok taken ∧
      schema.extract path = .ok [(name, Path.join taken)] := by
  obtain ⟨taken, rest, happly, hsegments, hpasses⟩ :=
    (accepts_iff_passes hconstraints hvalue hmemory).mp haccepts
  have hne : taken ≠ [] :=
    (Registry.joinable_of_applyAll hcalls (Path.joinable_splitAll value) happly).ne_nil
  have hrest : List.Forall₂ Admits others rest := Plain.forall₂_admits_of_passes h hpasses
  have hfits : ∀ constraint ∈ others, constraint.FitsOne :=
    fun constraint hmem => (h constraint hmem).fitsOne
  exact ⟨taken, happly,
    (extract_eq_ok_iff hconstraints hfits).mpr ⟨taken, rest, hsegments, hrest, hne, rfl⟩⟩

/-- A path is accepted if extraction gives what the value stands for. -/
theorem accepts_of_extract
    (hconstraints : schema.constraints = .var name calls :: others)
    (hcalls : ∀ call ∈ calls, call.name = Modifier.stripLastPrefixName)
    {value : String} (hvalue : store.value? name = some value) {memory : Memory}
    (hmemory : memory.Sound) (h : ∀ constraint ∈ others, constraint.TakesOne)
    {taken : List String}
    (happly : Registry.builtin.applyAll (Path.splitAll value) calls = .ok taken)
    (hextract : schema.extract path = .ok [(name, Path.join taken)]) :
    schema.Accepts store memory path := by
  have hfits : ∀ constraint ∈ others, constraint.FitsOne :=
    fun constraint hmem => (h constraint hmem).fitsOne
  obtain ⟨front, rest, hsegments, hrest, hfront, hfound⟩ :=
    (extract_eq_ok_iff hconstraints hfits).mp hextract
  have hjoin : Path.join taken = Path.join front := by simpa using hfound
  have htaken : Path.Joinable taken :=
    Registry.joinable_of_applyAll hcalls (Path.joinable_splitAll value) happly
  have hfrontJoinable : Path.Joinable front := by
    refine ⟨hfront, fun segment hsegment => ?_⟩
    exact Path.slashFree_of_mem_split (hsegments ▸ List.mem_append_left rest hsegment)
  obtain rfl := Path.eq_of_join_eq_join htaken hfrontJoinable hjoin
  exact (accepts_iff_passes hconstraints hvalue hmemory).mpr
    ⟨taken, rest, happly, hsegments, Plain.passes_of_forall₂_admits h hrest⟩

end

/-- Of a variable, with or without modifiers, and constraints that take one segment each:
a value validates a path exactly if extraction gives what the value stands for.  If there
are sets among the constraints, then extraction still gives what every value that
validates stands for. -/
theorem extraction_gives_value_that_validates {schema : Schema} {name : String}
    {calls : List ModifierCall} {others : List Constraint}
    (hconstraints : schema.constraints = .var name calls :: others)
    (hcalls : ∀ call ∈ calls, call.name = Modifier.stripLastPrefixName)
    {store : Store} {value : String} (hvalue : store.value? name = some value)
    {memory : Memory} (hmemory : memory.Sound) (path : String) :
    ((∀ constraint ∈ others, constraint.TakesOne) →
      (schema.Accepts store memory path ↔
        ∃ taken, Registry.builtin.applyAll (Path.splitAll value) calls = .ok taken ∧
          schema.extract path = .ok [(name, Path.join taken)]) ∧
      (calls = [] →
        (schema.Accepts store memory path ↔ schema.extract path = .ok [(name, value)]))) ∧
    ((∀ constraint ∈ others, constraint.TakesOneFrom store) →
      schema.Accepts store memory path →
        ∃ taken, Registry.builtin.applyAll (Path.splitAll value) calls = .ok taken ∧
          schema.extract path = .ok [(name, Path.join taken)]) := by
  refine ⟨fun h => ?_, exists_extract_of_accepts hconstraints hcalls hvalue hmemory⟩
  have hfrom : ∀ constraint ∈ others, constraint.TakesOneFrom store :=
    fun constraint hmem => .alone (h constraint hmem)
  have hiff : schema.Accepts store memory path ↔
      ∃ taken, Registry.builtin.applyAll (Path.splitAll value) calls = .ok taken ∧
        schema.extract path = .ok [(name, Path.join taken)] := by
    constructor
    · exact exists_extract_of_accepts hconstraints hcalls hvalue hmemory hfrom
    · rintro ⟨taken, happly, hextract⟩
      exact accepts_of_extract hconstraints hcalls hvalue hmemory h happly hextract
  refine ⟨hiff, ?_⟩
  rintro rfl
  rw [hiff]
  simp [Registry.applyAll, Path.join_splitAll]

end Schema

end

namespace Schema

/-- A value that loses a front before a pattern and a wildcard, and one before a set. -/
theorem extraction_gives_value_that_validates_before_pattern_and_set :
    Accepts ⟨"$v.strip_last_prefix(\"helm-\")/\"v[0-9]\"/+",
        [.var "v" [⟨"strip_last_prefix", ["helm-"]⟩],
          .regex ⟨"v[0-9]", by decide +kernel⟩, .run 1 1]⟩
        (Store.ofEntries [("v", "group/helm-web")] []) {} "group//web/v2/x" ∧
      extract ⟨"$v/$[s]", [.var "v" [], .set "s"]⟩ "group/web/main" =
        .ok [("v", "group/web")] := by
  constructor
  · have hextraction := @extraction_gives_value_that_validates _
      ⟨"$v.strip_last_prefix(\"helm-\")/\"v[0-9]\"/+",
        [.var "v" [⟨"strip_last_prefix", ["helm-"]⟩],
          .regex ⟨"v[0-9]", by decide +kernel⟩, .run 1 1]⟩
      "v" [⟨"strip_last_prefix", ["helm-"]⟩] _ rfl (by simp [Modifier.stripLastPrefixName])
      (Store.ofEntries [("v", "group/helm-web")] []) "group/helm-web" rfl {} Memory.sound_empty
      "group//web/v2/x"
    refine (hextraction.1 ?_).1.mpr ⟨["group", "web"], by decide +kernel, by decide +kernel⟩
    simpa using ⟨.regex, .run⟩
  · let store : Store :=
      Store.ofEntries [("v", "group/web")] [("s", ["postgres", "main"])]
    have hpostgres : ofText "postgres" = .ok ⟨"postgres", [.literal "postgres"]⟩ := by
      decide +kernel
    have hmain : ofText "main" = .ok ⟨"main", [.literal "main"]⟩ := by decide +kernel
    have hset : Constraint.TakesOneFrom store (.set "s") := by
      refine .set rfl fun text htext => ?_
      obtain rfl | rfl : text = "postgres" ∨ text = "main" := by simpa using htext
      · exact ⟨_, _, hpostgres, rfl, .literal⟩
      · exact ⟨_, _, hmain, rfl, .literal⟩
    have haccepts : Accepts ⟨"$v/$[s]", [.var "v" [], .set "s"]⟩ store {} "group/web/main" :=
      ⟨⟨[("main", ⟨"main", [.literal "main"]⟩),
        ("postgres", ⟨"postgres", [.literal "postgres"]⟩)], [.var "v", .set "s"]⟩,
        by decide +kernel⟩
    obtain ⟨taken, htaken, hextract⟩ := (@extraction_gives_value_that_validates _
      ⟨"$v/$[s]", [.var "v" [], .set "s"]⟩ "v" [] _ rfl (by simp) store "group/web" rfl {}
      Memory.sound_empty "group/web/main").2 (by simpa using hset) haccepts
    obtain rfl := Except.ok.inj htaken
    rwa [Path.join_splitAll] at hextract

/-- With a set, extraction may give a value that does not validate. -/
example :
    extract ⟨"$v/$[s]", [.var "v" [], .set "s"]⟩ "a/b" = .ok [("v", "a")] ∧
      ((validate (Store.ofEntries [("v", "a")] [("s", ["c"])]) Registry.builtin
        ⟨"$v/$[s]", [.var "v" [], .set "s"]⟩ "a/b").run {}).map Prod.fst =
          some (.error (.atConstraint 1 "VariableSet($[s])" "a/b"
            (.noMemberMatched "s" 1))) := by
  decide +kernel

end Schema

end PathSchema
