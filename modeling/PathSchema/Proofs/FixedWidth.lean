import Mathlib.Algebra.GroupWithZero.Nat
import Mathlib.Order.WellFounded
import PathSchema.Proofs.Evaluation.Depth
import PathSchema.Pattern.Engine

/-!
# Constraints of fixed width

A constraint has a width if all its words are that long.  Whatever such a constraint
takes from the front, it leaves the same, so nothing is lost by taking the first member
of a set that matches.  A schema of such constraints accepts every word of its
language, also if the last constraint is a wildcard.

The width of a set is derived from those of its members, so a set that has one does not
lead back to itself, and evaluating it ends whatever else is in the store.
-/

namespace PathSchema

namespace Plain

theorem result?_of_agree {α : Type} {outcome : Outcome α} (h : outcome.Agree outcome) :
    ∃ result, outcome.result? = some result := by
  obtain ⟨⟨result, asked⟩, houtcome, -⟩ := h
  exact ⟨result, by rw [houtcome]; rfl⟩

end Plain

section

variable [RegexLibrary]

namespace Constraint

mutual

/-- The number of segments that a constraint takes whenever it succeeds.  A variable that
does not resolve takes nothing and has every width.  A set has a width if it has members
and all of them have it. -/
inductive HasWidth (store : Store) (registry : Registry) : Constraint → Nat → Prop where
  | literal {text : String} : HasWidth store registry (.literal text) 1
  | regex {pattern : Pattern} : HasWidth store registry (.regex pattern) 1
  | run {width : Nat} : HasWidth store registry (.run width width) width
  | var {name value : String} {calls : List ModifierCall} {taken : List String}
      (hvalue : store.value? name = some value)
      (happly : registry.applyAll (Path.splitAll value) calls = .ok taken) :
      HasWidth store registry (.var name calls) taken.length
  | unresolved {name : String} {calls : List ModifierCall} {width : Nat}
      (hnone : ∀ value taken, store.value? name = some value →
        registry.applyAll (Path.splitAll value) calls ≠ .ok taken) :
      HasWidth store registry (.var name calls) width
  | set {name : String} {members : List String} {width : Nat}
      (hmembers : store.set? name = some members) (hne : members ≠ [])
      (hall : ∀ text ∈ members, MemberHasWidth store registry text width) :
      HasWidth store registry (.set name) width

/-- A member has a width if it compiles to constraints that have one, either the sum of
theirs or, if one of them has every width, any other. -/
inductive MemberHasWidth (store : Store) (registry : Registry) : String → Nat → Prop where
  | total {text : String} {schema : Schema} {widths : List Nat}
      (hschema : Schema.ofText text = .ok schema)
      (hwidths : List.Forall₂ (HasWidth store registry) schema.constraints widths) :
      MemberHasWidth store registry text widths.sum
  | void {text : String} {schema : Schema} {widths : List Nat} {constraint : Constraint}
      {width : Nat} (hschema : Schema.ofText text = .ok schema)
      (hwidths : List.Forall₂ (HasWidth store registry) schema.constraints widths)
      (hmem : constraint ∈ schema.constraints)
      (hvoid : ∀ any, HasWidth store registry constraint any) :
      MemberHasWidth store registry text width

end

/-- All words of a constraint have one length. -/
def FixedWidth (store : Store) (registry : Registry) (constraint : Constraint) : Prop :=
  ∃ width, HasWidth store registry constraint width

variable {store : Store} {registry : Registry}

theorem MemberHasWidth.exists_widths {text : String} {width : Nat}
    (h : MemberHasWidth store registry text width) :
    ∃ schema widths, Schema.ofText text = .ok schema ∧
      List.Forall₂ (HasWidth store registry) schema.constraints widths := by
  cases h with
  | total hschema hwidths => exact ⟨_, _, hschema, hwidths⟩
  | void hschema hwidths _ _ => exact ⟨_, _, hschema, hwidths⟩

theorem fixedWidth_of_forall₂ {constraints : List Constraint} {widths : List Nat}
    (h : List.Forall₂ (HasWidth store registry) constraints widths) :
    ∀ constraint ∈ constraints, FixedWidth store registry constraint := by
  induction h with
  | nil => simp
  | cons hfirst _ ih => simpa using ⟨⟨_, hfirst⟩, ih⟩

theorem FixedWidth.ordered {constraint : Constraint}
    (h : FixedWidth store registry constraint) : constraint.Ordered := by
  obtain ⟨width, hwidth⟩ := h
  cases hwidth with
  | run => exact Nat.le_refl width
  | literal => trivial
  | regex => trivial
  | var _ _ => trivial
  | unresolved _ => trivial
  | set _ _ _ => trivial

/-- A wildcard takes a number of segments, whichever these are. -/
def Wildcard : Constraint → Prop
  | .run _ _ | .everything => True
  | .literal _ | .regex _ | .var _ _ | .set _ => False

/-- All constraints are of fixed width, except that the last may be any wildcard. -/
inductive FixedUpToLast (store : Store) (registry : Registry) : List Constraint → Prop where
  | nil : FixedUpToLast store registry []
  | wildcard {last : Constraint} (hlast : last.Wildcard) :
      FixedUpToLast store registry [last]
  | cons {first : Constraint} {others : List Constraint}
      (hfirst : FixedWidth store registry first)
      (hothers : FixedUpToLast store registry others) :
      FixedUpToLast store registry (first :: others)

theorem FixedUpToLast.fixedWidth_of_mem_set {constraints : List Constraint}
    (h : FixedUpToLast store registry constraints) {name : String}
    (hmem : .set name ∈ constraints) : FixedWidth store registry (.set name) := by
  induction h with
  | nil => simp at hmem
  | wildcard hlast =>
      obtain rfl := List.mem_singleton.mp hmem
      exact hlast.elim
  | cons hfirst _ ih =>
      rcases List.mem_cons.mp hmem with rfl | hmem
      · exact hfirst
      · exact ih hmem

/-! ## Lengths of words -/

/-- Induction on a word; a word of a set is made of words of the constraints of a
member. -/
@[elab_as_elim]
theorem Word.induction {motive : Constraint → List String → Prop}
    (literal : ∀ text, motive (.literal text) [text])
    (regex : ∀ pattern segment, pattern.isMatch segment = true →
      motive (.regex pattern) [segment])
    (run : ∀ min max (taken : List String), min ≤ taken.length → taken.length ≤ max →
      motive (.run min max) taken)
    (everything : ∀ taken, motive .everything taken)
    (var : ∀ name value calls taken, store.value? name = some value →
      registry.applyAll (Path.splitAll value) calls = .ok taken →
      motive (.var name calls) taken)
    (set : ∀ name text members schema blocks, store.set? name = some members →
      text ∈ members → Schema.ofText text = .ok schema →
      List.Forall₂ motive schema.constraints blocks → motive (.set name) blocks.flatten)
    {constraint : Constraint} {taken : List String}
    (h : Word store registry constraint taken) : motive constraint taken :=
  @Word.rec _ store registry (fun constraint taken _ => motive constraint taken)
    (fun constraints blocks _ => List.Forall₂ motive constraints blocks)
    (literal _) (regex _ _) (run _ _ _) (everything _) (var _ _ _ _)
    (fun hmembers htext hschema _ hblocks => set _ _ _ _ _ hmembers htext hschema hblocks)
    .nil (fun _ _ hfirst hothers => .cons hfirst hothers) _ _ h

/-- Words of constraints that have widths are as long, one by one, as these say. -/
theorem length_flatten_of_forall₂ {constraints : List Constraint}
    {blocks : List (List String)} {widths : List Nat}
    (hblocks : List.Forall₂ (fun constraint block => ∀ width,
      HasWidth store registry constraint width → block.length = width) constraints blocks)
    (hwidths : List.Forall₂ (HasWidth store registry) constraints widths) :
    blocks.flatten.length = widths.sum := by
  induction hblocks generalizing widths with
  | nil =>
      cases hwidths
      rfl
  | cons hfirst _ ih =>
      cases hwidths with
      | cons hwidth hrest =>
          rw [List.flatten_cons, List.length_append, hfirst _ hwidth, ih hrest, List.sum_cons]

theorem not_void_of_forall₂ {constraints : List Constraint} {blocks : List (List String)}
    (hblocks : List.Forall₂ (fun constraint block => ∀ width,
      HasWidth store registry constraint width → block.length = width) constraints blocks)
    {constraint : Constraint} (hmem : constraint ∈ constraints) :
    ¬∀ any, HasWidth store registry constraint any := by
  intro hvoid
  induction hblocks with
  | nil => simp at hmem
  | @cons first block others rest hfirst _ ih =>
      rcases List.mem_cons.mp hmem with rfl | hmem
      · have hlength := hfirst (block.length + 1) (hvoid _)
        omega
      · exact ih hmem

theorem length_eq_of_word {constraint : Constraint} {taken : List String}
    (hword : Word store registry constraint taken) :
    ∀ width, HasWidth store registry constraint width → taken.length = width := by
  refine Word.induction ?literal ?regex ?run ?everything ?var ?set hword
  case literal =>
    rintro text _ ⟨⟩
    rfl
  case regex =>
    rintro pattern segment _ _ ⟨⟩
    rfl
  case run =>
    rintro min max taken hmin hmax _ ⟨⟩
    omega
  case everything =>
    rintro taken _ ⟨⟩
  case var =>
    intro name value calls taken hvalue happly width hwidth
    cases hwidth with
    | var hother hresult =>
        obtain rfl := Option.some.inj (hvalue.symm.trans hother)
        rw [Except.ok.inj (happly.symm.trans hresult)]
    | unresolved hnone => exact absurd happly (hnone value taken hvalue)
  case set =>
    intro name text members schema blocks hmembers htext hschema hblocks width hwidth
    cases hwidth with
    | set hother _ hall =>
        obtain rfl := Option.some.inj (hmembers.symm.trans hother)
        cases hall text htext with
        | total hsame hwidths =>
            obtain rfl := Except.ok.inj (hschema.symm.trans hsame)
            exact length_flatten_of_forall₂ hblocks hwidths
        | void hsame _ hmem hvoid =>
            obtain rfl := Except.ok.inj (hschema.symm.trans hsame)
            exact absurd hvoid (not_void_of_forall₂ hblocks hmem)

/-! ## Sets of fixed width are founded -/

/-- No chain of sets that lead to further sets begins at this one and goes on forever. -/
def Founded (store : Store) (name : String) : Prop :=
  Acc (fun inner outer => store.Leads outer inner) name

/-- A set of fixed width leads to sets of fixed width only, and not forever. -/
theorem founded_of_hasWidth {name : String} {width : Nat}
    (h : HasWidth store registry (.set name) width) : Founded store name := by
  refine @HasWidth.rec _ store registry
    (fun constraint _ _ => ∀ inner, constraint = .set inner → Founded store inner)
    (fun text _ _ => ∀ schema inner, Schema.ofText text = .ok schema →
      .set inner ∈ schema.constraints → Founded store inner)
    (fun constraints _ _ => ∀ inner, .set inner ∈ constraints → Founded store inner)
    ?literal ?regex ?run ?var ?unresolved ?set ?total ?void ?nil ?cons _ _ h name rfl
  case literal =>
    rintro text inner ⟨⟩
  case regex =>
    rintro pattern inner ⟨⟩
  case run =>
    rintro width inner ⟨⟩
  case var =>
    rintro name value calls taken _ _ inner ⟨⟩
  case unresolved =>
    rintro name calls width _ inner ⟨⟩
  case set =>
    rintro name members width hmembers _ _ ih inner ⟨⟩
    refine Acc.intro _ ?_
    rintro inner ⟨others, text, schema, hothers, htext, hschema, hinner⟩
    obtain rfl := Option.some.inj (hmembers.symm.trans hothers)
    exact ih text htext schema inner hschema hinner
  case total =>
    intro text schema widths hschema _ ih other inner hother hinner
    obtain rfl := Except.ok.inj (hschema.symm.trans hother)
    exact ih inner hinner
  case void =>
    intro text schema widths constraint width hschema _ _ _ ih _ other inner hother hinner
    obtain rfl := Except.ok.inj (hschema.symm.trans hother)
    exact ih inner hinner
  case nil =>
    intro inner hinner
    simp at hinner
  case cons =>
    intro constraint width others widths _ _ ihfirst ihothers inner hinner
    rcases List.mem_cons.mp hinner with hinner | hinner
    · exact ihfirst inner hinner.symm
    · exact ihothers inner hinner

theorem not_transGen_of_founded {name : String} (h : Founded store name) :
    ¬Relation.TransGen store.Leads name name := by
  intro hcycle
  have hacc : Acc (Relation.TransGen fun inner outer => store.Leads outer inner) name :=
    acc_transGen_iff.mpr h
  have hback : Relation.TransGen (fun inner outer => store.Leads outer inner) name name :=
    Relation.transGen_swap.mpr hcycle
  clear hcycle h
  induction hacc with
  | intro name _ ih => exact ih name hback hback

/-- The sets can be ranked so that a founded set leads only to lower ones. -/
theorem exists_rank_of_founded (store : Store) :
    ∃ rank : String → Nat,
      (∀ name inner, Founded store name → store.Leads name inner →
        rank inner < rank name) ∧
      ∀ name, rank name ≤ store.setNames.length := by
  have hcycle : ∀ name, ¬Relation.TransGen
      (fun name inner => Founded store name ∧ store.Leads name inner) name name := by
    intro name hcycle
    obtain ⟨next, hfirst, -⟩ := Relation.TransGen.head'_iff.mp hcycle
    refine not_transGen_of_founded hfirst.1 ?_
    exact Relation.TransGen.mono (fun _ _ h => h.2) _ _ hcycle
  obtain ⟨rank, hrank, hcard⟩ := Store.exists_rank_of_no_cycle
    store.setNames.toFinset (fun name inner h => by simpa using h.2.mem_setNames)
    hcycle
  exact ⟨rank, fun name inner hfounded hleads => hrank name inner ⟨hfounded, hleads⟩,
    fun name => (hcard name).trans (List.toFinset_card_le store.setNames)⟩

end Constraint

namespace Plain

open Constraint

variable {store : Store} {registry : Registry}

/-! ## Evaluations that end -/

section Ends

variable {rank : String → Nat}

/-- A founded set is evaluated to the end if there is depth for its rank. -/
theorem enterSet_ends
    (hrank : ∀ name inner, Founded store name → store.Leads name inner →
      rank inner < rank name)
    {depth : Nat} {name : String} (hfounded : Founded store name)
    (hdepth : rank name < depth) (segments : List String) :
    (enterSet store registry depth name segments).Agree
      (enterSet store registry depth name segments) := by
  induction depth generalizing name segments with
  | zero => omega
  | succ depth ih =>
      apply enterSet_succ_agree
      intro inner remaining henters
      have hleads : store.Leads name inner := henters.leads
      have hless := hrank name inner hfounded hleads
      exact ih (hfounded.inv hleads) (by omega) remaining

/-! ## Words are taken -/

theorem consume_word
    {enter : String → List String → Outcome (List String)} {constraint : Constraint}
    (hfixed : FixedWidth store registry constraint) {taken rest : List String}
    (henter : ∀ name, constraint = .set name → Word store registry (.set name) taken →
      (enter name (taken ++ rest)).result? = some (.ok rest))
    (hword : Word store registry constraint taken) :
    (consume store registry enter constraint (taken ++ rest)).result? = some (.ok rest) := by
  cases hword with
  | literal => exact consume_literal_eq_ok_iff.mpr rfl
  | regex hmatch => exact consume_regex_eq_ok_iff.mpr ⟨_, hmatch, rfl⟩
  | @run min max taken hmin hmax =>
      obtain ⟨_, ⟨⟩⟩ := hfixed
      obtain rfl : taken.length = min := by omega
      refine consume_run_eq_ok_iff.mpr ⟨by simp, ?_⟩
      simp
  | everything =>
      obtain ⟨_, ⟨⟩⟩ := hfixed
  | var hvalue happly =>
      exact consume_var_eq_ok_iff.mpr ⟨_, _, hvalue, happly, rfl⟩
  | @set name text members schema blocks hmembers htext hschema hblocks =>
      exact henter name rfl (.set hmembers htext hschema hblocks)

/-- Constraints of fixed width take words of theirs one after the other. -/
theorem passes_of_words
    {enter : String → List String → Outcome (List String)} {constraints : List Constraint}
    (hfixed : ∀ constraint ∈ constraints, FixedWidth store registry constraint)
    (henter : ∀ name, .set name ∈ constraints → ∀ taken rest,
      Word store registry (.set name) taken →
        (enter name (taken ++ rest)).result? = some (.ok rest))
    {blocks : List (List String)}
    (hwords : List.Forall₂ (Word store registry) constraints blocks) (rest : List String) :
    Passes (consume store registry enter) constraints (blocks.flatten ++ rest) rest := by
  induction hwords with
  | nil => exact .nil
  | @cons first taken others blocks hfirst _ ih =>
      rw [List.flatten_cons, List.append_assoc]
      have hstep := consume_word (hfixed first (by simp))
        (fun name hname => henter name (by simp [hname]) taken (blocks.flatten ++ rest)) hfirst
      exact .cons hstep (ih (fun other hother => hfixed other (by simp [hother]))
        fun name hname => henter name (by simp [hname]))

/-- The member that has a word matches it, so the search ends at a member that matches;
no other member is broken. -/
theorem exists_enterSet_eq_ok
    (hrank : ∀ name inner, Founded store name → store.Leads name inner →
      rank inner < rank name)
    {depth : Nat}
    (ih : ∀ inner taken rest, FixedWidth store registry (.set inner) → rank inner < depth →
      Word store registry (.set inner) taken →
        (enterSet store registry depth inner (taken ++ rest)).result? = some (.ok rest))
    {name : String} {width : Nat} (hwidth : HasWidth store registry (.set name) width)
    (hdepth : rank name < depth + 1) {taken : List String}
    (hword : Word store registry (.set name) taken) (rest : List String) :
    ∃ left, (enterSet store registry (depth + 1) name (taken ++ rest)).result? =
      some (.ok left) := by
  have hfounded := founded_of_hasWidth hwidth
  obtain ⟨result, hresult⟩ :=
    result?_of_agree (enterSet_ends hrank hfounded hdepth (taken ++ rest))
  cases hwidth with
  | @set _ members _ hmembers hne hall =>
      cases hword with
      | @set _ text _ schema blocks hother htext hschema hblocks =>
          obtain rfl := Option.some.inj (hmembers.symm.trans hother)
          have hfound := hresult
          rw [result?_enterSet_succ, hmembers] at hresult
          obtain ⟨first, others, rfl⟩ := List.exists_cons_of_ne_nil hne
          rcases result?_firstMember_cases hresult with
            ⟨tried, broken, after, fault, hsplit, -, hbroken, -⟩ |
            ⟨-, -, -, -, left, -, -, -, -, rfl⟩ | ⟨hrejected, -⟩
          · obtain ⟨inner, -, hinner, -⟩ :=
              (hall broken (by simp [hsplit])).exists_widths
            rw [hbroken] at hinner
            cases hinner
          · exact ⟨left, hfound⟩
          · obtain ⟨same, fault, hsame, hfault⟩ := hrejected text htext
            obtain rfl := Except.ok.inj (hschema.symm.trans hsame)
            obtain ⟨inner, widths, hinner, hwidths⟩ := (hall text htext).exists_widths
            obtain rfl := Except.ok.inj (hschema.symm.trans hinner)
            have hpasses : Passes (consume store registry (enterSet store registry depth))
                schema.constraints (blocks.flatten ++ rest) rest := by
              refine passes_of_words (fixedWidth_of_forall₂ hwidths) ?_ hblocks rest
              intro inner hinner taken rest hword
              have hlower := hrank name inner hfounded
                ⟨_, text, schema, hmembers, htext, hschema, hinner⟩
              exact ih inner taken rest
                (fixedWidth_of_forall₂ hwidths _ hinner) (by omega) hword
            have hmatch : (evaluateWithin store registry depth schema
                (blocks.flatten ++ rest)).result? = some (.ok rest) :=
              result?_consumeAll_eq_ok_iff.mpr hpasses
            cases hmatch.symm.trans hfault

/-- A set of fixed width takes every word of its own.  Whichever member matches first, it
leaves the same. -/
theorem enterSet_word
    (hrank : ∀ name inner, Founded store name → store.Leads name inner →
      rank inner < rank name)
    {depth : Nat} {name : String} (hfixed : FixedWidth store registry (.set name))
    (hdepth : rank name < depth) {taken : List String}
    (hword : Word store registry (.set name) taken) (rest : List String) :
    (enterSet store registry depth name (taken ++ rest)).result? = some (.ok rest) := by
  induction depth generalizing name taken rest with
  | zero => omega
  | succ depth ih =>
      obtain ⟨width, hwidth⟩ := hfixed
      obtain ⟨left, hleft⟩ := exists_enterSet_eq_ok hrank
        (fun inner taken rest hinner hlower hword => ih hinner hlower hword rest)
        hwidth hdepth hword rest
      obtain ⟨other, hsplit, hother⟩ := enterSet_sound hleft
      have hlength : taken.length = other.length := by
        rw [length_eq_of_word hword width hwidth, length_eq_of_word hother width hwidth]
      obtain ⟨-, rfl⟩ := List.append_inj hsplit hlength
      exact hleft

theorem consume_wildcard_eq_nil_iff
    {enter : String → List String → Outcome (List String)} {constraint : Constraint}
    (hwildcard : constraint.Wildcard) {segments : List String} :
    (consume store registry enter constraint segments).result? = some (.ok []) ↔
      Word store registry constraint segments := by
  cases constraint with
  | run min max =>
      rw [consume_run_eq_ok_iff, eq_comm, List.drop_eq_nil_iff]
      constructor
      · rintro ⟨hmin, hmax⟩
        exact .run hmin (hmax.trans (Nat.min_le_right _ _))
      · rintro (_ | _ | ⟨hmin, hmax⟩)
        exact ⟨hmin, Nat.le_min.mpr ⟨Nat.le_refl _, hmax⟩⟩
  | everything =>
      constructor
      · intro _
        exact .everything
      · intro _
        rfl
  | literal text => exact hwildcard.elim
  | regex pattern => exact hwildcard.elim
  | var name calls => exact hwildcard.elim
  | set name => exact hwildcard.elim

/-- Constraints that are fixed up to the last pass, and leave nothing, on exactly the
segments that can be cut into words of theirs. -/
theorem passes_nil_iff
    {enter : String → List String → Outcome (List String)} {constraints : List Constraint}
    (hfixed : FixedUpToLast store registry constraints)
    (hsound : ∀ name segments rest, (enter name segments).result? = some (.ok rest) →
      ∃ taken, segments = taken ++ rest ∧ Word store registry (.set name) taken)
    (henter : ∀ name, .set name ∈ constraints → ∀ taken rest,
      Word store registry (.set name) taken →
        (enter name (taken ++ rest)).result? = some (.ok rest))
    {segments : List String} :
    Passes (consume store registry enter) constraints segments [] ↔
      ∃ blocks, List.Forall₂ (Word store registry) constraints blocks ∧
        segments = blocks.flatten := by
  induction hfixed generalizing segments with
  | nil =>
      constructor
      · rintro ⟨⟩
        exact ⟨[], .nil, rfl⟩
      · rintro ⟨_, ⟨⟩, rfl⟩
        exact .nil
  | wildcard hlast =>
      rw [passes_singleton_iff, consume_wildcard_eq_nil_iff hlast]
      constructor
      · intro hword
        exact ⟨[segments], .cons hword .nil, by simp⟩
      · rintro ⟨_, hblocks, rfl⟩
        cases hblocks with
        | cons hword hnone =>
            cases hnone
            simpa using hword
  | @cons first others hfirst _ ih =>
      replace ih := @ih fun name hname => henter name (by simp [hname])
      constructor
      · intro hpasses
        cases hpasses with
        | cons hstep hothers =>
            obtain ⟨taken, rfl, hword⟩ := consume_sound hsound hfirst.ordered hstep
            obtain ⟨blocks, hblocks, rfl⟩ := ih.mp hothers
            exact ⟨taken :: blocks, .cons hword hblocks, rfl⟩
      · rintro ⟨_, hblocks, rfl⟩
        cases hblocks with
        | @cons _ taken _ blocks hword hblocks =>
            have hstep := consume_word hfirst
              (fun name hname => henter name (by simp [hname]) taken blocks.flatten) hword
            exact .cons hstep (ih.mpr ⟨blocks, hblocks, rfl⟩)

/-- A schema whose constraints are fixed up to the last is evaluated to the end, and
validates exactly the segments that can be cut into words. -/
theorem exists_validateSegments_of_fixedUpToLast {schema : Schema}
    (hfixed : FixedUpToLast store registry schema.constraints) (segments : List String) :
    ∃ result asked, validateSegments store registry schema segments = some (result, asked) ∧
      (result = .ok () ↔
        ∃ blocks, List.Forall₂ (Word store registry) schema.constraints blocks ∧
          segments = blocks.flatten) := by
  obtain ⟨rank, hrank, hbound⟩ := exists_rank_of_founded store
  have hdepth : ∀ name, rank name < store.depthBound segments := by
    intro name
    have hname := hbound name
    have hlt := lt_depthBound store segments
    rw [Store.depthBound]
    omega
  have hends : (evaluate store registry schema segments).Agree
      (evaluate store registry schema segments) := by
    apply consumeAll_agree
    intro before constraint others remaining hsplit _
    apply consume_agree
    rintro name rfl
    have hmem : .set name ∈ schema.constraints := by simp [hsplit]
    obtain ⟨width, hwidth⟩ := hfixed.fixedWidth_of_mem_set hmem
    exact enterSet_ends hrank (founded_of_hasWidth hwidth) (hdepth name) remaining
  obtain ⟨⟨result, asked⟩, hreached, -⟩ := validateSegments_agree hends
  refine ⟨result, asked, hreached, ?_⟩
  calc result = .ok ()
      ↔ (validateSegments store registry schema segments).result? = some (.ok ()) := by
        simp [hreached, Outcome.result?]
    _ ↔ (evaluate store registry schema segments).result? = some (.ok []) :=
        result?_validateSegments_eq_ok_iff
    _ ↔ Passes (consume store registry (enterSet store registry (store.depthBound segments)))
          schema.constraints segments [] :=
        result?_consumeAll_eq_ok_iff
    _ ↔ _ := by
        apply passes_nil_iff hfixed (fun _ _ _ => enterSet_sound)
        intro name hmem taken rest hword
        exact enterSet_word hrank (hfixed.fixedWidth_of_mem_set hmem) (hdepth name) hword rest

end Ends

end Plain

namespace Schema

open Constraint

/-- The greedy evaluation loses nothing if all constraints are of fixed width, except
that the last may be any wildcard: it ends, and accepts all segments that can be cut into
one word of each constraint in order, and no others. -/
theorem validates_iff_cut_into_words (store : Store) (registry : Registry) {schema : Schema}
    (hfixed : FixedUpToLast store registry schema.constraints) {memory : Memory}
    (hmemory : memory.Sound) (segments : List String) :
    ∃ result after,
      (schema.validateSegments store registry segments).run memory = some (result, after) ∧
      (result = .ok () ↔
        ∃ blocks, List.Forall₂ (Word store registry) schema.constraints blocks ∧
          segments = blocks.flatten) := by
  obtain ⟨result, asked, houtcome, hiff⟩ :=
    @Plain.exists_validateSegments_of_fixedUpToLast _ store registry schema hfixed segments
  have hfollows : (schema.validateSegments store registry segments).Follows
      (Plain.validateSegments store registry schema segments) :=
    validateSegments_follows schema segments
  have hreaches := hfollows memory hmemory
  rw [houtcome] at hreaches
  obtain ⟨after, -, -, hrun⟩ := hreaches
  exact ⟨result, after, hrun, hiff⟩

end Schema

end

namespace Schema

open Constraint

/-- Two sets, one inside the other, a variable that resolves and has modifiers, one that does
not resolve, and a wildcard at the end. -/
theorem validates_cut_after_nested_sets :
    ∃ after, (validateSegments
        (Store.ofEntries [("v", "x/p-q-y")]
          [("outer", ["r/s", "$[inner]"]), ("inner", ["$none/q", "x/+",
            "$v.strip_last_prefix(\"p-\").strip_last_prefix(\"x\", \"q-\")"])])
      Registry.builtin ⟨"$[outer]/+{1,2}", [.set "outer", .run 1 2]⟩
      ["x", "y", "a", "b"]).run {} = some (.ok (), after) := by
  let member := "$v.strip_last_prefix(\"p-\").strip_last_prefix(\"x\", \"q-\")"
  let calls : List ModifierCall :=
    [⟨"strip_last_prefix", ["p-"]⟩, ⟨"strip_last_prefix", ["x", "q-"]⟩]
  let store : Store := Store.ofEntries [("v", "x/p-q-y")]
    [("outer", ["r/s", "$[inner]"]), ("inner", ["$none/q", "x/+", member])]
  have hrs : ofText "r/s" = .ok ⟨"r/s", [.literal "r", .literal "s"]⟩ := by decide +kernel
  have hinner : ofText "$[inner]" = .ok ⟨"$[inner]", [.set "inner"]⟩ := by decide +kernel
  have hnone : ofText "$none/q" = .ok ⟨"$none/q", [.var "none" [], .literal "q"]⟩ := by
    decide +kernel
  have hx : ofText "x/+" = .ok ⟨"x/+", [.literal "x", .run 1 1]⟩ := by decide +kernel
  have hv : ofText member = .ok ⟨member, [.var "v" calls]⟩ := by decide +kernel
  have hvalue : store.value? "v" = some "x/p-q-y" := by decide +kernel
  have happly :
      Registry.builtin.applyAll (Path.splitAll "x/p-q-y") calls = .ok ["x", "y"] := by
    decide +kernel
  have hmissing : ∀ width, HasWidth store Registry.builtin (.var "none" []) width := by
    intro width
    have habsent : store.value? "none" = none := by decide +kernel
    exact .unresolved (by simp [habsent])
  have hwidthInner : HasWidth store Registry.builtin (.set "inner") 2 := by
    refine .set rfl (by simp) ?_
    intro text htext
    obtain rfl | rfl | rfl : text = "$none/q" ∨ text = "x/+" ∨ text = member := by
      simpa using htext
    · exact .void hnone (.cons (hmissing 0) (.cons .literal .nil)) (by simp) hmissing
    · exact .total hx (.cons .literal (.cons .run .nil))
    · exact .total hv (.cons (.var hvalue happly) .nil)
  have hwidthOuter : HasWidth store Registry.builtin (.set "outer") 2 := by
    refine .set rfl (by simp) ?_
    intro text htext
    obtain rfl | rfl : text = "r/s" ∨ text = "$[inner]" := by simpa using htext
    · exact .total hrs (.cons .literal (.cons .literal .nil))
    · exact .total hinner (.cons hwidthInner .nil)
  have hwordInner : Word store Registry.builtin (.set "inner") ["x", "y"] :=
    .set rfl (by simp) hv (.cons (.var hvalue happly) .nil)
  have hwordOuter : Word store Registry.builtin (.set "outer") ["x", "y"] :=
    .set rfl (by simp) hinner (.cons hwordInner .nil)
  have hfixed : FixedUpToLast store Registry.builtin
      (Schema.mk "$[outer]/+{1,2}" [.set "outer", .run 1 2]).constraints :=
    .cons ⟨2, hwidthOuter⟩ (.wildcard trivial)
  obtain ⟨result, after, hrun, hiff⟩ := validates_iff_cut_into_words store Registry.builtin
    hfixed Memory.sound_empty ["x", "y", "a", "b"]
  have hok : result = .ok () := by
    refine hiff.mpr ⟨[["x", "y"], ["a", "b"]], .cons hwordOuter (.cons ?_ .nil), rfl⟩
    exact .run (by simp) (by simp)
  exact ⟨after, hok ▸ hrun⟩

end Schema

end PathSchema
