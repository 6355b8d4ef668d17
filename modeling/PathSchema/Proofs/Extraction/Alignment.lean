import PathSchema.Proofs.Extraction
import PathSchema.Pattern.Engine

/-!
# When extraction succeeds

Extraction lays the constraints along the segments so that both end at the same place.  It
succeeds exactly if they line up: every constraint but a variable at the very front covers
one segment and admits it, and the variable, if there is one, covers what is left, at
least one segment.

Both lists are taken apart from the right, so the lemmas add one constraint and one segment
at the end.  A walk that holds the segments in place and counts down to the front reads
the same ones and never reads beyond them.
-/

namespace PathSchema

namespace Constraint

/-! ## Places in lists -/

theorem getElem?_snoc_eq_some_iff {α : Type} {xs : List α} {last x : α} {index : Nat} :
    (xs ++ [last])[index]? = some x ↔
      xs[index]? = some x ∨ index = xs.length ∧ last = x := by
  rw [List.getElem?_append]
  split
  · next hless =>
      have hne : index ≠ xs.length := Nat.ne_of_lt hless
      simp [hne]
  · next hmore =>
      have hnone : xs[index]? = none := List.getElem?_eq_none (Nat.le_of_not_lt hmore)
      rw [hnone]
      rcases Nat.eq_or_lt_of_le (Nat.le_of_not_lt hmore) with rfl | hless
      · simp
      · have hbeyond : ([last] : List α)[index - xs.length]? = none :=
          List.getElem?_eq_none (by simpa using by omega)
        have hne : index ≠ xs.length := by omega
        simp [hbeyond, hne]

theorem reverse_take_succ {segments : List String} {stop : Nat} (h : stop < segments.length) :
    (segments.take (stop + 1)).reverse = segments[stop] :: (segments.take stop).reverse := by
  rw [List.take_succ_eq_append_getElem h, List.reverse_append, List.reverse_singleton,
    List.singleton_append]

end Constraint

section

variable [RegexLibrary]

namespace Constraint

/-- The name of the variable that some constraints begin with. -/
def leading? : List Constraint → Option String
  | .var name _ :: _ => some name
  | _ => none

/-- Laid along the segments from the right, the constraints cover all of them, and each
admits the segment at its place. -/
structure LinesUp (constraints : List Constraint) (segments : List String) : Prop where
  not_everything : .everything ∉ constraints
  var_first : ∀ index name calls, constraints[index]? = some (.var name calls) → index = 0
  length_le : constraints.length ≤ segments.length
  length_eq : leading? constraints = none → segments.length = constraints.length
  admits : ∀ index constraint, constraints[index]? = some constraint →
    ∃ segment, segments[segments.length - constraints.length + index]? = some segment ∧
      constraint.Admits segment

/-- What the variable at the front covers when all other constraints cover one segment. -/
def leadingBindings (constraints : List Constraint) (segments : List String) :
    List (String × String) :=
  (leading? constraints).toList.map fun name =>
    (name, Path.join (segments.take (segments.length - constraints.length + 1)))

/-! ## One more constraint at the end -/

theorem leading?_snoc {constraints : List Constraint} {constraint : Constraint}
    (h : constraint.FitsOne) :
    leading? (constraints ++ [constraint]) = leading? constraints := by
  rcases constraints with _ | ⟨first, others⟩
  · cases constraint with
    | everything => cases h
    | var name calls => cases h
    | _ => rfl
  · cases first <;> rfl

theorem leadingBindings_snoc {constraints : List Constraint} {constraint : Constraint}
    (h : constraint.FitsOne) {segments : List String}
    (hlength : constraints.length ≤ segments.length) (segment : String) :
    leadingBindings (constraints ++ [constraint]) (segments ++ [segment]) =
      leadingBindings constraints segments := by
  rw [leadingBindings, leadingBindings, leading?_snoc h]
  rcases constraints with _ | ⟨first, others⟩
  · rfl
  · have hcount : (segments ++ [segment]).length - (first :: others ++ [constraint]).length =
        segments.length - (first :: others).length := by
      simp
    have hwithin : segments.length - (first :: others).length + 1 ≤ segments.length := by
      rw [List.length_cons] at hlength ⊢
      omega
    rw [hcount, List.take_append_of_le_length hwithin]

theorem length_snoc_sub_length_snoc {constraints : List Constraint} {constraint : Constraint}
    {segments : List String} {segment : String} :
    (segments ++ [segment]).length - (constraints ++ [constraint]).length =
      segments.length - constraints.length := by
  simp

section

variable {constraints : List Constraint} {constraint : Constraint} {segments : List String}
  {segment : String}

/-- A constraint that covers the last segment may be put behind the others. -/
theorem LinesUp.snoc (h : LinesUp constraints segments) (hfits : constraint.FitsOne)
    (hadmits : constraint.Admits segment) :
    LinesUp (constraints ++ [constraint]) (segments ++ [segment]) := by
  obtain ⟨heverything, hvar, hle, heq, hall⟩ := h
  refine ⟨?_, ?_, by simpa using hle, ?_, ?_⟩
  · intro hmem
    rcases List.mem_append.mp hmem with hmem | hmem
    · exact heverything hmem
    · rw [← List.mem_singleton.mp hmem] at hfits
      cases hfits
  · intro index name calls hindex
    rcases getElem?_snoc_eq_some_iff.mp hindex with hindex | ⟨-, rfl⟩
    · exact hvar index name calls hindex
    · cases hfits
  · intro hnone
    rw [leading?_snoc hfits] at hnone
    simpa using heq hnone
  · intro index other hindex
    rw [length_snoc_sub_length_snoc]
    rcases getElem?_snoc_eq_some_iff.mp hindex with hindex | ⟨rfl, rfl⟩
    · obtain ⟨found, hfound, hadmitted⟩ := hall index other hindex
      exact ⟨found, getElem?_snoc_eq_some_iff.mpr (.inl hfound), hadmitted⟩
    · have hplace : segments.length - constraints.length + constraints.length =
          segments.length := Nat.sub_add_cancel hle
      exact ⟨segment, getElem?_snoc_eq_some_iff.mpr (.inr ⟨hplace, rfl⟩), hadmits⟩

theorem LinesUp.admits_last
    (h : LinesUp (constraints ++ [constraint]) (segments ++ [segment])) :
    constraint.Admits segment := by
  have hle : constraints.length ≤ segments.length := by simpa using h.length_le
  obtain ⟨found, hfound, hadmits⟩ := h.admits constraints.length constraint (by simp)
  rw [length_snoc_sub_length_snoc, Nat.sub_add_cancel hle] at hfound
  obtain rfl : segment = found := by simpa using hfound
  exact hadmits

/-- Without the last constraint and the last segment the others line up. -/
theorem LinesUp.init
    (h : LinesUp (constraints ++ [constraint]) (segments ++ [segment]))
    (hfits : constraint.FitsOne) : LinesUp constraints segments := by
  obtain ⟨heverything, hvar, hle, heq, hall⟩ := h
  rw [length_snoc_sub_length_snoc] at hall
  rw [leading?_snoc hfits] at heq
  have hlength : constraints.length ≤ segments.length := by simpa using hle
  refine ⟨fun hmem => heverything (List.mem_append_left _ hmem), ?_, hlength, ?_, ?_⟩
  · intro index name calls hindex
    exact hvar index name calls (getElem?_snoc_eq_some_iff.mpr (.inl hindex))
  · intro hnone
    simpa using heq hnone
  · intro index other hindex
    have hless : index < constraints.length := (List.getElem?_eq_some_iff.mp hindex).1
    obtain ⟨found, hfound, hadmits⟩ :=
      hall index other (getElem?_snoc_eq_some_iff.mpr (.inl hindex))
    rw [List.getElem?_append_left (by omega)] at hfound
    exact ⟨found, hfound, hadmits⟩

end

/-! ## All constraints -/

theorem linesUp_nil_iff {segments : List String} : LinesUp [] segments ↔ segments = [] := by
  constructor
  · intro h
    exact List.length_eq_zero_iff.mp (h.length_eq rfl)
  · rintro rfl
    exact ⟨by simp, by simp, by simp, by simp, by simp⟩

theorem linesUp_var_iff {name : String} {calls : List ModifierCall}
    {segments : List String} : LinesUp [.var name calls] segments ↔ segments ≠ [] := by
  constructor
  · intro h
    exact List.ne_nil_of_length_pos h.length_le
  · intro hne
    have hlength := List.length_pos_of_ne_nil hne
    refine ⟨by simp, ?_, hlength, ?_, ?_⟩
    · intro index other otherCalls hindex
      obtain ⟨hless, -⟩ := List.getElem?_eq_some_iff.mp hindex
      simpa using hless
    · intro hnone
      cases hnone
    · intro index constraint hindex
      obtain ⟨hless, rfl⟩ := List.getElem?_eq_some_iff.mp hindex
      have hplace : segments.length - [Constraint.var name calls].length + index <
          segments.length := by
        rw [List.length_singleton] at hless ⊢
        omega
      refine ⟨_, List.getElem?_eq_getElem hplace, ?_⟩
      obtain rfl : index = 0 := by simpa using hless
      trivial

theorem not_linesUp_snoc_everything {constraints : List Constraint}
    {segments : List String} : ¬LinesUp (constraints ++ [.everything]) segments :=
  fun h => h.not_everything (by simp)

theorem not_linesUp_snoc_var {constraints : List Constraint} (hne : constraints ≠ [])
    {name : String} {calls : List ModifierCall} {segments : List String} :
    ¬LinesUp (constraints ++ [.var name calls]) segments := by
  intro h
  have hzero : constraints.length = 0 := h.var_first constraints.length name calls (by simp)
  exact hne (List.length_eq_zero_iff.mp hzero)

theorem bindings_var_eq_ok_iff {name : String} {calls : List ModifierCall}
    {segments : List String} {found : List (String × String)} :
    bindings [.var name calls] segments.reverse = .ok found ↔
      LinesUp [.var name calls] segments ∧
        found = leadingBindings [.var name calls] segments := by
  rw [linesUp_var_iff]
  by_cases hsegments : segments = []
  · simp [bindings, hsegments]
  · have hcount : segments.length - 1 + 1 = segments.length :=
      Nat.sub_add_cancel (List.length_pos_of_ne_nil hsegments)
    have hbindings : bindings [.var name calls] segments.reverse =
        .ok [(name, Path.join segments)] := by
      simp [bindings, hsegments]
    have hleading : leadingBindings [.var name calls] segments =
        [(name, Path.join segments)] := by
      simp [leadingBindings, leading?, hcount]
    rw [hbindings, hleading, and_iff_right hsegments, Except.ok.injEq, eq_comm]

/-- Matching from the right succeeds exactly if constraints and segments line up. -/
theorem bindings_reverse_eq_ok_iff {constraints : List Constraint} {segments : List String}
    {found : List (String × String)} :
    bindings constraints.reverse segments.reverse = .ok found ↔
      LinesUp constraints segments ∧ found = leadingBindings constraints segments := by
  induction constraints using List.reverseRecOn generalizing segments with
  | nil =>
      rw [linesUp_nil_iff]
      rcases segments.eq_nil_or_concat' with rfl | ⟨front, last, rfl⟩
      · simp [bindings, leadingBindings, leading?, eq_comm]
      · simp [bindings]
  | append_singleton constraints constraint ih =>
      rw [List.reverse_append, List.reverse_singleton, List.singleton_append]
      by_cases hfits : constraint.FitsOne
      · rw [bindings_cons_eq_ok_iff hfits]
        rcases segments.eq_nil_or_concat' with rfl | ⟨front, last, rfl⟩
        · constructor
          · rintro ⟨segment, rest, hsegments, -⟩
            cases hsegments
          · rintro ⟨hlinesUp, -⟩
            simpa using hlinesUp.length_le
        · rw [List.reverse_append, List.reverse_singleton, List.singleton_append]
          constructor
          · rintro ⟨segment, rest, hsegments, hadmits, hfound⟩
            obtain ⟨rfl, rfl⟩ := List.cons.inj hsegments
            obtain ⟨hlinesUp, rfl⟩ := ih.mp hfound
            exact ⟨hlinesUp.snoc hfits hadmits,
              (leadingBindings_snoc hfits hlinesUp.length_le last).symm⟩
          · rintro ⟨hlinesUp, rfl⟩
            have hinit : LinesUp constraints front := hlinesUp.init hfits
            exact ⟨last, front.reverse, rfl, hlinesUp.admits_last,
              ih.mpr ⟨hinit, leadingBindings_snoc hfits hinit.length_le last⟩⟩
      · cases constraint with
        | everything =>
            constructor
            · intro hfound
              cases hfound
            · rintro ⟨hlinesUp, -⟩
              exact absurd hlinesUp not_linesUp_snoc_everything
        | var name calls =>
            by_cases hfirst : constraints = []
            · rw [hfirst]
              exact bindings_var_eq_ok_iff
            · constructor
              · intro hfound
                simp [bindings, hfirst] at hfound
              · rintro ⟨hlinesUp, -⟩
                exact absurd hlinesUp (not_linesUp_snoc_var hfirst)
        | _ => exact absurd trivial hfits

/-! ## Segments in place -/

/-- Matches constraints, given from the right, with the segments before the place `stop`,
which are left where they are.  Nothing if a place is read that no segment has. -/
def walk? (segments : List String) :
    List Constraint → Nat → Option (Except ExtractionProblem (List (String × String)))
  | [], 0 => some (.ok [])
  | [], stop => some (.error (.uncovered stop))
  | everything :: others, _ => some (.error (.noFixedWidth others.length))
  | var name _ :: others, stop =>
    if !others.isEmpty then some (.error (.variableNotFirst name))
    else if stop = 0 then some (.error (.nothingLeft name))
    else if stop ≤ segments.length then
      some (.ok [(name, Path.join (segments.take stop))])
    else none
  | constraint :: others, 0 => some (.error (.exhausted others.length constraint.describe))
  | constraint :: others, stop + 1 =>
    match segments[stop]? with
    | none => none
    | some segment =>
      match constraint.segmentProblem? others.length segment with
      | some problem => some (.error problem)
      | none => walk? segments others stop

section

variable {segments : List String} {stop : Nat}

theorem walk?_nil (hstop : stop ≤ segments.length) :
    walk? segments [] stop = some (bindings [] (segments.take stop).reverse) := by
  rcases stop with _ | stop
  · rfl
  · have hcount : (segments.take stop).length = stop :=
      List.length_take_of_le (Nat.le_of_succ_le hstop)
    rw [reverse_take_succ hstop]
    simp [walk?, bindings, hcount]

theorem walk?_var {name : String} {calls : List ModifierCall} {others : List Constraint}
    (hstop : stop ≤ segments.length) :
    walk? segments (.var name calls :: others) stop =
      some (bindings (.var name calls :: others) (segments.take stop).reverse) := by
  have hempty : (segments.take stop).reverse.isEmpty = decide (stop = 0) := by
    rw [Bool.eq_iff_iff, List.isEmpty_iff, decide_eq_true_iff, List.reverse_eq_nil_iff,
      ← List.length_eq_zero_iff, List.length_take_of_le hstop]
  rw [walk?, bindings, hempty, if_pos hstop, List.reverse_reverse]
  by_cases hfirst : others = [] <;> by_cases hzero : stop = 0 <;> simp [hfirst, hzero]

theorem walk?_cons {constraint : Constraint} (h : constraint.FitsOne)
    {others : List Constraint} (hstop : stop < segments.length)
    (hothers : walk? segments others stop =
      some (bindings others (segments.take stop).reverse)) :
    walk? segments (constraint :: others) (stop + 1) =
      some (bindings (constraint :: others) (segments.take (stop + 1)).reverse) := by
  have hsegment : segments[stop]? = some segments[stop] := List.getElem?_eq_getElem hstop
  have hwalk : walk? segments (constraint :: others) (stop + 1) =
      match constraint.segmentProblem? others.length segments[stop] with
      | some problem => some (.error problem)
      | none => walk? segments others stop := by
    cases constraint with
    | everything => cases h
    | var name calls => cases h
    | _ => simp only [walk?, hsegment]
  rw [hwalk, reverse_take_succ hstop, bindings_cons_cons h, hothers]
  cases constraint.segmentProblem? others.length segments[stop] <;> rfl

/-- The walk reads only segments that there are: those that taking the segments apart from
the right gives. -/
theorem walk?_eq {constraints : List Constraint} (hstop : stop ≤ segments.length) :
    walk? segments constraints stop =
      some (bindings constraints (segments.take stop).reverse) := by
  induction constraints generalizing stop with
  | nil => exact walk?_nil hstop
  | cons constraint others ih =>
      by_cases hfits : constraint.FitsOne
      · rcases stop with _ | stop
        · cases constraint with
          | everything => cases hfits
          | var name calls => cases hfits
          | _ => rfl
        · exact walk?_cons hfits hstop (ih (Nat.le_of_succ_le hstop))
      · cases constraint with
        | everything => rfl
        | var name calls => exact walk?_var hstop
        | _ => exact absurd trivial hfits

end

end Constraint

namespace Schema

/-- Extraction by a walk over the segments in place; nothing if it reads a segment that
there is not. -/
def walk? (schema : Schema) (path : String) :
    Option (Except Fault (List (String × String))) :=
  (Constraint.walk? (Path.split path) schema.constraints.reverse
    (Path.split path).length).map fun result =>
      result.mapError fun problem => .extraction problem.message path

theorem walk?_eq_extract (schema : Schema) (path : String) :
    schema.walk? path = some (schema.extract path) := by
  rw [walk?, Constraint.walk?_eq (Nat.le_refl _), List.take_length, extract]
  cases Constraint.bindings schema.constraints.reverse (Path.split path).reverse <;> rfl

/-- Extraction succeeds exactly if the constraints line up with the segments of the path,
and gives what the variable at the front covers, if there is one.  Otherwise it fails
with an extraction fault on the path as it was given.  A walk over the segments in place
comes to the same, without ever reading beyond them. -/
theorem extracts_iff_linesUp (schema : Schema) (path : String) :
    (∀ found, schema.extract path = .ok found ↔
      Constraint.LinesUp schema.constraints (Path.split path) ∧
        found = Constraint.leadingBindings schema.constraints (Path.split path)) ∧
    ((∃ found, schema.extract path = .ok found) ∨
      ∃ problem : ExtractionProblem,
        schema.extract path = .error (.extraction problem.message path)) ∧
    schema.walk? path = some (schema.extract path) := by
  refine ⟨fun found => ?_, ?_, walk?_eq_extract schema path⟩
  · rw [extract_eq_ok_iff_bindings, Constraint.bindings_reverse_eq_ok_iff]
  · rw [extract]
    cases Constraint.bindings schema.constraints.reverse (Path.split path).reverse with
    | ok found => exact .inl ⟨found, rfl⟩
    | error problem => exact .inr ⟨problem, rfl⟩

end Schema

end

namespace Schema

example :
    extract ⟨"$v/$[s]", [.var "v" [], .set "s"]⟩ "a//b" = .ok [("v", "a")] ∧
      extract ⟨"$v/$[s]", [.var "v" [], .set "s"]⟩ "a/" =
        .error (.extraction "no segments left for variable $v" "a/") := by
  decide +kernel

end Schema

end PathSchema
