import Mathlib.Data.List.Forall2
import PathSchema.Evaluation

/-!
# Chains of prefix stripping

A call takes a front off the last segment: the first of its arguments, in their order, that
the segment begins with.  Each call of a chain receives what the calls before it left, so
the fronts, one after the other, and what is left in the end make up the segment again.
Only missing arguments stop a chain.

Of two fronts of one segment the longer one begins with the shorter one.  So a segment has at
most one front among texts none of which begins with another, and their order does not
matter.
-/

namespace PathSchema

namespace Modifier

/-- The first of some texts that the segment begins with; the empty text if it begins with
none of them. -/
def frontOf (fronts : List String) (segment : String) : String :=
  (fronts.find? fun front => front.toList.isPrefixOf segment.toList).getD ""

/-- None of the texts begins with another one. -/
def PrefixFree (fronts : List String) : Prop :=
  ∀ first ∈ fronts, ∀ second ∈ fronts, first.toList <+: second.toList → first = second

/-- What refuses a call without arguments. -/
def argumentsMissing : ModifierError :=
  .invalidArguments stripLastPrefixName "expected at least 1 prefix argument"

/-! ## One call -/

section

variable {fronts others segments : List String} {front segment rest last : String}

theorem map_isPrefixOf?_eq_some_iff :
    (front.toList.isPrefixOf? segment.toList).map String.ofList = some rest ↔
      front ++ rest = segment := by
  rw [← String.toList_inj, String.toList_append, ← List.isPrefixOf?_eq_some_iff_append_eq,
    Option.map_eq_some_iff]
  constructor
  · rintro ⟨left, hleft, rfl⟩
    rwa [String.toList_ofList]
  · intro hrest
    exact ⟨rest.toList, hrest, String.ofList_toList⟩

/-- The front that is taken off and what is left of the segment make up the segment. -/
theorem frontOf_append_getD_stripFirst? (fronts : List String) (segment : String) :
    frontOf fronts segment ++ (stripFirst? fronts segment).getD segment = segment := by
  induction fronts with
  | nil => simp [frontOf, stripFirst?]
  | cons front others ih =>
      cases hfront : (front.toList.isPrefixOf? segment.toList).map String.ofList with
      | none =>
          have hnot : front.toList.isPrefixOf segment.toList = false := by
            rw [Bool.eq_false_iff]
            intro hprefix
            obtain ⟨left, hleft⟩ := List.isPrefixOf_iff_prefix.mp hprefix
            rw [List.isPrefixOf?_eq_some_iff_append_eq.mpr hleft] at hfront
            cases hfront
          simpa [frontOf, stripFirst?, hfront, hnot] using ih
      | some rest =>
          have happend := map_isPrefixOf?_eq_some_iff.mp hfront
          have hprefix : front.toList.isPrefixOf segment.toList = true :=
            List.isPrefixOf_iff_prefix.mpr
              ⟨rest.toList, by rw [← String.toList_append, happend]⟩
          simpa [frontOf, stripFirst?, hfront, hprefix] using happend

theorem exists_front_of_stripFirst?_eq_some (h : stripFirst? fronts segment = some rest) :
    ∃ front ∈ fronts, front ++ rest = segment := by
  obtain ⟨front, hmem, hfront⟩ := List.exists_of_findSome?_eq_some h
  exact ⟨front, hmem, map_isPrefixOf?_eq_some_iff.mp hfront⟩

/-- Among texts none of which begins with another it does not matter which comes first. -/
theorem stripFirst?_eq_some_iff (hfree : PrefixFree fronts) :
    stripFirst? fronts segment = some rest ↔ ∃ front ∈ fronts, front ++ rest = segment := by
  constructor
  · exact exists_front_of_stripFirst?_eq_some
  · rintro ⟨front, hmem, happend⟩
    cases hfound : stripFirst? fronts segment with
    | none =>
        have hnone := List.findSome?_eq_none_iff.mp hfound front hmem
        rw [map_isPrefixOf?_eq_some_iff.mpr happend] at hnone
        cases hnone
    | some found =>
        obtain ⟨first, hfirst, hsegment⟩ := exists_front_of_stripFirst?_eq_some hfound
        have hprefix : front.toList <+: segment.toList :=
          ⟨rest.toList, by rw [← String.toList_append, happend]⟩
        have hfirstPrefix : first.toList <+: segment.toList :=
          ⟨found.toList, by rw [← String.toList_append, hsegment]⟩
        have hsame : first = front := by
          rcases List.prefix_or_prefix_of_prefix hfirstPrefix hprefix with hshort | hlong
          · exact hfree first hfirst front hmem hshort
          · exact (hfree front hmem first hfirst hlong).symm
        rw [hsame, ← happend, String.append_right_inj] at hsegment
        rw [hsegment]

theorem stripFirst?_eq_of_perm (hfree : PrefixFree fronts) (hperm : fronts.Perm others)
    (segment : String) : stripFirst? fronts segment = stripFirst? others segment := by
  have hothers : PrefixFree others := fun first hfirst second hsecond =>
    hfree first (hperm.mem_iff.mpr hfirst) second (hperm.mem_iff.mpr hsecond)
  ext rest
  rw [stripFirst?_eq_some_iff hfree, stripFirst?_eq_some_iff hothers]
  simp only [hperm.mem_iff]

theorem stripLastPrefix_eq_of_perm (hfree : PrefixFree fronts) (hperm : fronts.Perm others)
    (segments : List String) :
    stripLastPrefix segments fronts = stripLastPrefix segments others := by
  have hempty : fronts.isEmpty = others.isEmpty := by
    rw [Bool.eq_iff_iff, List.isEmpty_iff, List.isEmpty_iff, ← List.length_eq_zero_iff,
      ← List.length_eq_zero_iff, hperm.length_eq]
  simp only [stripLastPrefix, hempty, stripFirst?_eq_of_perm hfree hperm]

theorem stripLastPrefix_nil (hne : fronts ≠ []) : stripLastPrefix [] fronts = .ok [] := by
  simp [stripLastPrefix, hne]

theorem stripLastPrefix_snoc (hne : fronts ≠ []) (init : List String) (last : String) :
    stripLastPrefix (init ++ [last]) fronts =
      .ok (init ++ [(stripFirst? fronts last).getD last]) := by
  simp [stripLastPrefix, hne]

end

end Modifier

/-- The same call, but for the order of arguments none of which begins with another. -/
structure ModifierCall.Reordered (call other : ModifierCall) : Prop where
  name_eq : call.name = other.name
  arguments : call.arguments = other.arguments ∨
    Modifier.PrefixFree call.arguments ∧ call.arguments.Perm other.arguments

namespace Registry

open Modifier (frontOf stripLastPrefix stripLastPrefixName argumentsMissing)

/-! ## Chains -/

/-- The fronts that some calls take: each call takes the first of its arguments that the last
of the segments it receives begins with, or nothing. -/
structure TakesFronts (registry : Registry) (calls : List ModifierCall)
    (segments fronts : List String) : Prop where
  length_eq : fronts.length = calls.length
  front : ∀ index call, calls[index]? = some call →
    ∃ received last, registry.applyAll segments (calls.take index) = .ok received ∧
      received.getLast? = some last ∧ fronts[index]? = some (frontOf call.arguments last)

/-- The calls leave the result: of the last segment what is left behind the fronts that they
take, and all other segments as they are. -/
structure StripsTo (registry : Registry) (calls : List ModifierCall)
    (segments result : List String) : Prop where
  applied : registry.applyAll segments calls = .ok result
  length_eq : result.length = segments.length
  dropLast_eq : result.dropLast = segments.dropLast
  last_eq : ∀ last, segments.getLast? = some last →
    ∃ fronts left, registry.TakesFronts calls segments fronts ∧
      result.getLast? = some left ∧ last = String.join fronts ++ left

section

variable {registry : Registry} {calls others before after : List ModifierCall}
  {call other : ModifierCall} {segments received result : List String}

theorem applyAll_append (h : registry.applyAll segments before = .ok received) :
    registry.applyAll segments (before ++ after) = registry.applyAll received after := by
  induction before generalizing segments with
  | nil =>
      obtain rfl := Except.ok.inj h
      rfl
  | cons first before ih =>
      rw [applyAll] at h
      rw [List.cons_append, applyAll]
      cases hfind : registry.find? first.name with
      | none =>
          rw [hfind] at h
          cases h
      | some modifier =>
          simp only [hfind] at h ⊢
          cases hstep : modifier segments first.arguments with
          | error error =>
              rw [hstep] at h
              cases h
          | ok left =>
              rw [hstep] at h
              exact ih h

variable (hregistry : registry.find? stripLastPrefixName = some stripLastPrefix)

include hregistry

theorem applyAll_cons_of_strip (hname : call.name = stripLastPrefixName)
    (segments : List String) :
    registry.applyAll segments (call :: calls) =
      match stripLastPrefix segments call.arguments with
      | .error error => .error (.modifierRefused call.name error)
      | .ok segments => registry.applyAll segments calls := by
  cases hstrip : stripLastPrefix segments call.arguments <;>
    simp only [applyAll, hname, hregistry, hstrip]

theorem TakesFronts.cons (hname : call.name = stripLastPrefixName)
    {last : String} (hlast : segments.getLast? = some last)
    (hstrip : stripLastPrefix segments call.arguments = .ok received) {fronts : List String}
    (h : registry.TakesFronts calls received fronts) :
    registry.TakesFronts (call :: calls) segments
      (frontOf call.arguments last :: fronts) where
  length_eq := by
    rw [List.length_cons, List.length_cons, h.length_eq]
  front := by
    intro index other hother
    rcases index with _ | index
    · obtain rfl : call = other := by simpa using hother
      exact ⟨segments, last, rfl, hlast, rfl⟩
    · obtain ⟨given, final, hgiven, hfinal, hfront⟩ :=
        h.front index other (by simpa using hother)
      refine ⟨given, final, ?_, hfinal, by simpa using hfront⟩
      rw [List.take_succ_cons, applyAll_cons_of_strip hregistry hname, hstrip]
      exact hgiven

theorem StripsTo.cons (hname : call.name = stripLastPrefixName) (hcall : call.arguments ≠ [])
    (hstrip : stripLastPrefix segments call.arguments = .ok received)
    (h : registry.StripsTo calls received result) :
    registry.StripsTo (call :: calls) segments result := by
  have happlied : registry.applyAll segments (call :: calls) = .ok result := by
    rw [applyAll_cons_of_strip hregistry hname, hstrip]
    exact h.applied
  rcases segments.eq_nil_or_concat' with rfl | ⟨init, last, rfl⟩
  · rw [Modifier.stripLastPrefix_nil hcall] at hstrip
    obtain rfl := Except.ok.inj hstrip
    exact ⟨happlied, h.length_eq, h.dropLast_eq, by simp⟩
  · have hlast : (init ++ [last]).getLast? = some last := List.getLast?_concat
    have htakes := @TakesFronts.cons registry calls call _ received hregistry hname last hlast
      hstrip
    rw [Modifier.stripLastPrefix_snoc hcall] at hstrip
    obtain rfl := Except.ok.inj hstrip
    refine ⟨happlied, by simpa using h.length_eq, by simpa using h.dropLast_eq, ?_⟩
    intro final hfinal
    obtain rfl : last = final := Option.some.inj (hlast.symm.trans hfinal)
    obtain ⟨fronts, left, hfronts, hleft, hrest⟩ := h.last_eq _ List.getLast?_concat
    refine ⟨_, left, htakes hfronts, hleft, ?_⟩
    rw [String.join_cons, String.append_assoc, ← hrest,
      Modifier.frontOf_append_getD_stripFirst?]

/-- Calls that all have arguments leave something, whatever they receive. -/
theorem exists_stripsTo (hnames : ∀ call ∈ calls, call.name = stripLastPrefixName)
    (harguments : ∀ call ∈ calls, call.arguments ≠ []) (segments : List String) :
    ∃ result, registry.StripsTo calls segments result := by
  induction calls generalizing segments with
  | nil =>
      refine ⟨segments, rfl, rfl, rfl, fun last hlast => ?_⟩
      exact ⟨[], last, ⟨rfl, by simp⟩, hlast, by simp⟩
  | cons call others ih =>
      obtain ⟨hname, hothers⟩ := List.forall_mem_cons.mp hnames
      obtain ⟨hcall, hrest⟩ := List.forall_mem_cons.mp harguments
      obtain ⟨received, hreceived⟩ :
          ∃ received, stripLastPrefix segments call.arguments = .ok received := by
        rcases segments.eq_nil_or_concat' with rfl | ⟨init, last, rfl⟩
        · exact ⟨[], Modifier.stripLastPrefix_nil hcall⟩
        · exact ⟨_, Modifier.stripLastPrefix_snoc hcall init last⟩
      obtain ⟨result, hresult⟩ := ih hothers hrest received
      exact ⟨result, hresult.cons hregistry hname hcall hreceived⟩

/-- A call without arguments ends the chain, if those before it have some. -/
theorem refused_at_first_without_arguments
    (hnames : ∀ each ∈ before ++ call :: after, each.name = stripLastPrefixName)
    (hbefore : ∀ earlier ∈ before, earlier.arguments ≠ []) (hcall : call.arguments = [])
    (segments : List String) :
    ∃ received, registry.applyAll segments before = .ok received ∧
      stripLastPrefix received call.arguments = .error argumentsMissing ∧
      registry.applyAll segments (before ++ call :: after) =
        .error (.modifierRefused call.name argumentsMissing) := by
  have hearlier : ∀ earlier ∈ before, earlier.name = stripLastPrefixName :=
    fun earlier hmem => hnames earlier (List.mem_append_left _ hmem)
  obtain ⟨received, hreceived⟩ := exists_stripsTo hregistry hearlier hbefore segments
  have hrefused : stripLastPrefix received call.arguments = .error argumentsMissing := by
    rw [hcall]
    rfl
  refine ⟨received, hreceived.applied, hrefused, ?_⟩
  rw [applyAll_append hreceived.applied,
    applyAll_cons_of_strip hregistry (hnames call (by simp)), hrefused]

theorem exists_applyAll_eq_error_iff
    (hnames : ∀ call ∈ calls, call.name = stripLastPrefixName) (segments : List String) :
    (∃ fault, registry.applyAll segments calls = .error fault) ↔
      ∃ call ∈ calls, call.arguments = [] := by
  constructor
  · rintro ⟨fault, hfault⟩
    by_contra hall
    have harguments : ∀ call ∈ calls, call.arguments ≠ [] :=
      fun call hmem hcall => hall ⟨call, hmem, hcall⟩
    obtain ⟨result, hresult⟩ := exists_stripsTo hregistry hnames harguments segments
    rw [hresult.applied] at hfault
    cases hfault
  · rintro ⟨call, hmem, hcall⟩
    obtain ⟨first, hfirst⟩ : ∃ first, calls.find? (·.arguments.isEmpty) = some first := by
      rw [← Option.isSome_iff_exists, List.find?_isSome]
      exact ⟨call, hmem, by simp [hcall]⟩
    obtain ⟨hempty, before, after, rfl, hbefore⟩ := List.find?_eq_some_iff_append.mp hfirst
    obtain ⟨received, -, -, hfails⟩ := refused_at_first_without_arguments hregistry hnames
      (by simpa using hbefore) (by simpa using hempty) segments
    exact ⟨_, hfails⟩

theorem applyAll_eq_of_reordered (hnames : ∀ call ∈ calls, call.name = stripLastPrefixName)
    (h : List.Forall₂ ModifierCall.Reordered calls others) (segments : List String) :
    registry.applyAll segments calls = registry.applyAll segments others := by
  induction h generalizing segments with
  | nil => rfl
  | @cons call other calls others hcall _ ih =>
      obtain ⟨hname, hrest⟩ := List.forall_mem_cons.mp hnames
      have hotherName : other.name = stripLastPrefixName := hcall.name_eq ▸ hname
      have hstrip : stripLastPrefix segments call.arguments =
          stripLastPrefix segments other.arguments := by
        rcases hcall.arguments with hsame | ⟨hfree, hperm⟩
        · rw [hsame]
        · exact Modifier.stripLastPrefix_eq_of_perm hfree hperm segments
      rw [applyAll_cons_of_strip hregistry hname,
        applyAll_cons_of_strip hregistry hotherName, hstrip, hcall.name_eq]
      cases stripLastPrefix segments other.arguments with
      | error error => rfl
      | ok received => exact ih hrest received

end

/-- A chain of prefix stripping whose calls have arguments takes a front off the last segment
with each call, and leaves the others alone.  It fails exactly if some call has no
arguments, with what refuses the first such call.  Arguments none of which begins with
another may stand in any order. -/
theorem chain_takes_fronts_in_turn {registry : Registry}
    (hregistry : registry.find? stripLastPrefixName = some stripLastPrefix)
    {calls : List ModifierCall} (hnames : ∀ call ∈ calls, call.name = stripLastPrefixName)
    (segments : List String) :
    ((∀ call ∈ calls, call.arguments ≠ []) →
      ∃ result, registry.StripsTo calls segments result) ∧
    ((∃ fault, registry.applyAll segments calls = .error fault) ↔
      ∃ call ∈ calls, call.arguments = []) ∧
    (∀ before call after, calls = before ++ call :: after →
      (∀ earlier ∈ before, earlier.arguments ≠ []) → call.arguments = [] →
        ∃ received, registry.applyAll segments before = .ok received ∧
          stripLastPrefix received call.arguments = .error argumentsMissing ∧
          registry.applyAll segments calls =
            .error (.modifierRefused call.name argumentsMissing)) ∧
    ∀ others, List.Forall₂ ModifierCall.Reordered calls others →
      registry.applyAll segments calls = registry.applyAll segments others := by
  refine ⟨fun harguments => exists_stripsTo hregistry hnames harguments segments,
    exists_applyAll_eq_error_iff hregistry hnames segments, ?_,
    fun others hothers => applyAll_eq_of_reordered hregistry hnames hothers segments⟩
  rintro before call after rfl hbefore hcall
  exact refused_at_first_without_arguments hregistry hnames hbefore hcall segments

/-- The first call stops at the shorter of two fronts, the second one takes a front of
several bytes; then a chain of three calls, the last two without arguments, and one call with
its arguments in two orders. -/
theorem chain_takes_fronts_in_turn_of_shorter_front :
    builtin.StripsTo
      [⟨stripLastPrefixName, ["x", "a", "ab"]⟩, ⟨stripLastPrefixName, ["bé", ""]⟩]
      ["abé", "abéc"] ["abé", "c"] ∧
    builtin.applyAll [] [⟨stripLastPrefixName, ["a"]⟩, ⟨stripLastPrefixName, []⟩,
        ⟨stripLastPrefixName, []⟩] =
      .error (.modifierRefused stripLastPrefixName argumentsMissing) ∧
    builtin.applyAll ["b-c"] [⟨stripLastPrefixName, ["a", "b-"]⟩] =
      builtin.applyAll ["b-c"] [⟨stripLastPrefixName, ["b-", "a"]⟩] := by
  refine ⟨?_, ?_, ?_⟩
  · obtain ⟨result, hresult⟩ := (@chain_takes_fronts_in_turn builtin rfl
      [⟨stripLastPrefixName, ["x", "a", "ab"]⟩, ⟨stripLastPrefixName, ["bé", ""]⟩]
      (by simp) ["abé", "abéc"]).1 (by simp)
    have happlied : builtin.applyAll ["abé", "abéc"] [⟨stripLastPrefixName, ["x", "a", "ab"]⟩,
        ⟨stripLastPrefixName, ["bé", ""]⟩] = .ok ["abé", "c"] := by
      decide +kernel
    obtain rfl := Except.ok.inj (hresult.applied.symm.trans happlied)
    exact hresult
  · obtain ⟨-, -, hfirst, -⟩ := @chain_takes_fronts_in_turn builtin rfl
      [⟨stripLastPrefixName, ["a"]⟩, ⟨stripLastPrefixName, []⟩, ⟨stripLastPrefixName, []⟩]
      (by simp) []
    obtain ⟨received, -, -, hfails⟩ := hfirst [⟨stripLastPrefixName, ["a"]⟩]
      ⟨stripLastPrefixName, []⟩ [⟨stripLastPrefixName, []⟩] rfl (by simp) rfl
    exact hfails
  · obtain ⟨-, -, -, hreordered⟩ := @chain_takes_fronts_in_turn builtin rfl
      [⟨stripLastPrefixName, ["a", "b-"]⟩] (by simp) ["b-c"]
    have hfree : Modifier.PrefixFree ["a", "b-"] := by
      unfold Modifier.PrefixFree
      decide +kernel
    exact hreordered [⟨stripLastPrefixName, ["b-", "a"]⟩]
      (.cons ⟨rfl, .inr ⟨hfree, .swap _ _ _⟩⟩ .nil)

end Registry

end PathSchema
