import Mathlib.Data.List.Perm.Basic
import Mathlib.Tactic.Tauto
import PathSchema.Proofs.CompileFault
import PathSchema.Proofs.Evaluation.Locality
import PathSchema.Pattern.Engine

/-!
# What a set comes to

A set goes through its members in order, up to one that decides: either it does not compile,
and its compile fault is that of the set, or it takes segments, and the set leaves what it
leaves.  Members before it compile and mismatch, and members behind it are not looked at.

So what is put behind the deciding member changes nothing, nor does a member that is
repeated further behind.  The order of the members does not matter if all of them compile
and no two different ones take the segments.
-/

namespace PathSchema

/-! ## Searches in closed form -/

theorem findSome?_congr {α β : Type} {f g : α → Option β} {xs : List α}
    (h : ∀ x ∈ xs, f x = g x) : xs.findSome? f = xs.findSome? g := by
  induction xs with
  | nil => rfl
  | cons x xs ih =>
      obtain ⟨hx, hxs⟩ := List.forall_mem_cons.mp h
      rw [List.findSome?_cons, List.findSome?_cons, hx, ih hxs]

/-- What is found is found at the first place where there is anything. -/
theorem findSome?_eq_some_iff_first {α β : Type} {f : α → Option β} {xs : List α} {b : β} :
    xs.findSome? f = some b ↔
      ∃ (index : Nat) (h : index < xs.length), f xs[index] = some b ∧
        ∀ earlier (he : earlier < index), f xs[earlier] = none := by
  rw [List.findSome?_eq_some_iff]
  constructor
  · rintro ⟨front, x, back, rfl, hx, hfront⟩
    refine ⟨front.length, by simp, by simpa using hx, ?_⟩
    intro earlier he
    rw [List.getElem_append_left he]
    exact hfront _ (List.getElem_mem he)
  · rintro ⟨index, h, hb, hfirst⟩
    refine ⟨xs.take index, xs[index], xs.drop (index + 1), ?_, hb, ?_⟩
    · rw [← List.drop_eq_getElem_cons h, List.take_append_drop]
    · intro x hx
      obtain ⟨earlier, hearlier, rfl⟩ := List.getElem_of_mem hx
      have he : earlier < index := by
        rw [List.length_take] at hearlier
        omega
      rw [List.getElem_take]
      exact hfirst earlier he

theorem findSome?_eq_of_perm {α β : Type} {f : α → Option β} {xs ys : List α}
    (hperm : xs.Perm ys)
    (hsame : ∀ x ∈ xs, ∀ y ∈ xs, ∀ a b, f x = some a → f y = some b → a = b) :
    xs.findSome? f = ys.findSome? f := by
  cases hys : ys.findSome? f with
  | none =>
      rw [List.findSome?_eq_none_iff] at hys ⊢
      exact fun x hx => hys x (hperm.mem_iff.mp hx)
  | some b =>
      obtain ⟨y, hy, hb⟩ := List.exists_of_findSome?_eq_some hys
      have hmem : y ∈ xs := hperm.mem_iff.mpr hy
      cases hxs : xs.findSome? f with
      | none =>
          rw [List.findSome?_eq_none_iff] at hxs
          rw [hxs y hmem] at hb
          cases hb
      | some a =>
          obtain ⟨x, hx, ha⟩ := List.exists_of_findSome?_eq_some hxs
          rw [hsame x hx y hmem a b ha hb]

theorem findSome?_repeat {α β : Type} {f : α → Option β} (front : List α) (x : α)
    (middle back : List α) :
    (front ++ x :: (middle ++ x :: back)).findSome? f =
      (front ++ x :: (middle ++ back)).findSome? f := by
  simp only [List.findSome?_append, List.findSome?_cons]
  cases f x <;> rfl

/-! ## Deciding members -/

section

variable [RegexLibrary]

namespace Schema

/-- The text compiles, and its schema takes some of the segments. -/
def Takes (store : Store) (registry : Registry) (segments : List String) (text : String) :
    Prop :=
  ∃ schema rest, ofText text = .ok schema ∧
    schema.Gives store registry segments (.ok rest)

/-- A set that comes to this member does not go on to the next. -/
def Decides (store : Store) (registry : Registry) (segments : List String)
    (text : String) : Prop :=
  (∃ fault, ofText text = .error fault) ∨ Takes store registry segments text

end Schema

/-- What a set comes to on some segments. -/
inductive Constraint.SetComesTo (store : Store) (registry : Registry) (name : String)
    (segments : List String) : Except Fault (List String) → Prop where
  | notFound (hmembers : store.set? name = none) :
      SetComesTo store registry name segments (.error (.setNotFound name))
  | empty (hmembers : store.set? name = some []) :
      SetComesTo store registry name segments (.error (.emptySet name))
  | broken {members : List String} {index : Nat} {fault : Fault}
      (hmembers : store.set? name = some members) (hindex : index < members.length)
      (hfirst : ∀ earlier (he : earlier < index),
        ¬Schema.Decides store registry segments members[earlier])
      (hbroken : Schema.ofText members[index] = .error fault) :
      SetComesTo store registry name segments (.error fault)
  | taken {members : List String} {index : Nat} {schema : Schema} {rest : List String}
      (hmembers : store.set? name = some members) (hindex : index < members.length)
      (hfirst : ∀ earlier (he : earlier < index),
        ¬Schema.Decides store registry segments members[earlier])
      (hschema : Schema.ofText members[index] = .ok schema)
      (htaken : schema.Gives store registry segments (.ok rest)) :
      SetComesTo store registry name segments (.ok rest)
  | unmatched {members : List String} (hmembers : store.set? name = some members)
      (hne : members ≠ [])
      (hnone : ∀ text ∈ members, ¬Schema.Decides store registry segments text) :
      SetComesTo store registry name segments
        (.error (.noMemberMatched name members.length))

/-! ## What a member decides -/

namespace Plain

/-- What a search that evaluates members with `run` comes to at a member, unless it goes on
to the next. -/
def verdict? (run : Schema → Outcome (List String)) (text : String) :
    Option (Except Fault (List String)) :=
  match Schema.ofText text with
  | .error fault => some (.error fault)
  | .ok schema =>
    match (run schema).result? with
    | some (.ok rest) => some (.ok rest)
    | _ => none

section

variable {run run' : Schema → Outcome (List String)} {text : String}

theorem verdict?_eq_error_iff {fault : Fault} :
    verdict? run text = some (.error fault) ↔ Schema.ofText text = .error fault := by
  rw [verdict?]
  split
  · next cause hcause => simp [hcause]
  · next schema hschema =>
      rw [hschema]
      split <;> simp

theorem verdict?_eq_ok_iff {rest : List String} :
    verdict? run text = some (.ok rest) ↔
      ∃ schema, Schema.ofText text = .ok schema ∧
        (run schema).result? = some (.ok rest) := by
  rw [verdict?]
  split
  · next cause hcause => simp [hcause]
  · next schema hschema =>
      rw [hschema]
      split
      · next found hfound => simp [hfound]
      · next hother => simpa using hother rest

theorem verdict?_congr
    (h : ∀ schema, Schema.ofText text = .ok schema → run schema = run' schema) :
    verdict? run text = verdict? run' text := by
  rw [verdict?, verdict?]
  split
  · rfl
  · next schema hschema => rw [h schema hschema]

/-- A search comes to the verdict of the first member that has one. -/
theorem result?_firstMember (hends : ∀ schema, ∃ reached, run schema = some reached)
    {otherwise : Fault} (members : List String) :
    (firstMember run otherwise members).result? =
      some ((members.findSome? (verdict? run)).getD (.error otherwise)) := by
  induction members with
  | nil => rfl
  | cons text rest ih =>
      rw [firstMember, List.findSome?_cons, verdict?]
      cases hschema : Schema.ofText text with
      | error fault => rfl
      | ok schema =>
          obtain ⟨⟨result, asked⟩, hresult⟩ := hends schema
          dsimp only
          rw [Outcome.result?_andThen, hresult]
          cases result with
          | error fault => exact ih
          | ok remaining => rfl

end

variable {store : Store} {registry : Registry} {name : String} {members : List String}

/-- What a set comes to at a member, unless it goes on to the next. -/
def decision? (store : Store) (registry : Registry) (segments : List String)
    (text : String) : Option (Except Fault (List String)) :=
  verdict? (fun schema => evaluate store registry schema segments) text

theorem result?_evaluateConstraint_set (hstore : store.Grounded) (registry : Registry)
    (hmembers : store.set? name = some members) (hne : members ≠ [])
    (segments : List String) :
    (evaluateConstraint store registry (.set name) segments).result? =
      some ((members.findSome? (decision? store registry segments)).getD
        (.error (.noMemberMatched name members.length))) := by
  rw [evaluateConstraint_set_of_ne_nil hstore registry hmembers hne, Outcome.result?_after,
    result?_firstMember fun schema => exists_evaluate_eq_some hstore registry schema segments]
  rfl

section

variable {segments : List String} {text : String}

theorem decision?_eq_error_iff {fault : Fault} :
    decision? store registry segments text = some (.error fault) ↔
      Schema.ofText text = .error fault :=
  verdict?_eq_error_iff

theorem decision?_eq_ok_iff {rest : List String} :
    decision? store registry segments text = some (.ok rest) ↔
      ∃ schema, Schema.ofText text = .ok schema ∧
        schema.Gives store registry segments (.ok rest) := by
  simp only [decision?, verdict?_eq_ok_iff, Schema.gives_iff]

theorem decision?_eq_none_iff :
    decision? store registry segments text = none ↔
      ¬Schema.Decides store registry segments text := by
  constructor
  · rintro hnone (⟨fault, hfault⟩ | ⟨schema, rest, hschema, hgives⟩)
    · rw [decision?_eq_error_iff.mpr hfault] at hnone
      cases hnone
    · rw [decision?_eq_ok_iff.mpr ⟨schema, hschema, hgives⟩] at hnone
      cases hnone
  · intro hnot
    cases hdecision : decision? store registry segments text with
    | none => rfl
    | some result =>
        refine absurd ?_ hnot
        cases result with
        | error fault => exact .inl ⟨fault, decision?_eq_error_iff.mp hdecision⟩
        | ok rest =>
            obtain ⟨schema, hschema, hgives⟩ := decision?_eq_ok_iff.mp hdecision
            exact .inr ⟨schema, rest, hschema, hgives⟩

/-- What a set comes to at one of its members does not depend on which members stand
beside it. -/
theorem decision?_of_sameBut {other : Store} (hsame : store.SameBut name other)
    (hstore : store.Acyclic) (hother : other.Acyclic)
    (hmembers : store.set? name = some members) (htext : text ∈ members) :
    decision? other registry segments text = decision? store registry segments text :=
  verdict?_congr fun _ hschema =>
    evaluate_member_eq_of_sameBut hsame hstore hother hmembers htext hschema segments

end

end Plain

namespace Constraint

variable {store other : Store} {registry : Registry} {name : String}
  {members : List String} {segments : List String} {result : Except Fault (List String)}

/-! ## The first member that decides -/

theorem exists_gives_set (hstore : store.Acyclic) (registry : Registry) (name : String)
    (segments : List String) :
    ∃ result, (Constraint.set name).Gives store registry segments result := by
  obtain ⟨⟨result, asked⟩, hresult⟩ :=
    Plain.exists_evaluateConstraint_eq_some hstore.grounded registry (.set name) segments
  exact ⟨result, gives_iff.mpr (congrArg Outcome.result? hresult)⟩

theorem gives_set_iff (hstore : store.Acyclic) (hmembers : store.set? name = some members)
    (hne : members ≠ []) :
    (Constraint.set name).Gives store registry segments result ↔
      (members.findSome? (Plain.decision? store registry segments)).getD
        (.error (.noMemberMatched name members.length)) = result := by
  rw [gives_iff, Plain.result?_evaluateConstraint_set hstore.grounded registry hmembers hne,
    Option.some.injEq]

/-- What is found among the members is what the set comes to. -/
theorem gives_set_of_findSome? (hstore : store.Acyclic)
    (hmembers : store.set? name = some members)
    (h : members.findSome? (Plain.decision? store registry segments) = some result) :
    (Constraint.set name).Gives store registry segments result := by
  have hne : members ≠ [] := by
    rintro rfl
    cases h
  rw [gives_set_iff hstore hmembers hne, h]
  rfl

theorem gives_missing_set_iff (hstore : store.Acyclic) (hmembers : store.set? name = none) :
    (Constraint.set name).Gives store registry segments result ↔
      .error (.setNotFound name) = result := by
  rw [gives_iff, Plain.evaluateConstraint_set hstore.grounded, hmembers,
    Outcome.result?_after, Outcome.result?_done, Option.some.injEq]

theorem gives_empty_set_iff (hstore : store.Acyclic) (hmembers : store.set? name = some []) :
    (Constraint.set name).Gives store registry segments result ↔
      .error (.emptySet name) = result := by
  rw [gives_iff, Plain.evaluateConstraint_set hstore.grounded, hmembers,
    Outcome.result?_after, Outcome.result?_done, Option.some.injEq]

theorem setComesTo_of_gives (hstore : store.Acyclic)
    (h : (Constraint.set name).Gives store registry segments result) :
    SetComesTo store registry name segments result := by
  rcases hmembers : store.set? name with _ | members
  · obtain rfl := (gives_missing_set_iff hstore hmembers).mp h
    exact .notFound hmembers
  by_cases hne : members = []
  · rw [hne] at hmembers
    obtain rfl := (gives_empty_set_iff hstore hmembers).mp h
    exact .empty hmembers
  rw [gives_set_iff hstore hmembers hne] at h
  cases hfound : members.findSome? (Plain.decision? store registry segments) with
  | none =>
      rw [hfound] at h
      obtain rfl : .error (.noMemberMatched name members.length) = result := h
      refine .unmatched hmembers hne fun text htext => ?_
      exact Plain.decision?_eq_none_iff.mp (List.findSome?_eq_none_iff.mp hfound text htext)
  | some decision =>
      rw [hfound] at h
      obtain rfl : decision = result := h
      obtain ⟨index, hindex, hdecision, hearlier⟩ := findSome?_eq_some_iff_first.mp hfound
      have hfirst : ∀ earlier (he : earlier < index),
          ¬Schema.Decides store registry segments members[earlier] :=
        fun earlier he => Plain.decision?_eq_none_iff.mp (hearlier earlier he)
      cases decision with
      | error fault =>
          exact .broken hmembers hindex hfirst (Plain.decision?_eq_error_iff.mp hdecision)
      | ok rest =>
          obtain ⟨schema, hschema, htaken⟩ := Plain.decision?_eq_ok_iff.mp hdecision
          exact .taken hmembers hindex hfirst hschema htaken

theorem gives_set_of_first (hstore : store.Acyclic)
    (hmembers : store.set? name = some members) {index : Nat} (hindex : index < members.length)
    (hfirst : ∀ earlier (he : earlier < index),
      ¬Schema.Decides store registry segments members[earlier])
    (hdecision : Plain.decision? store registry segments members[index] = some result) :
    (Constraint.set name).Gives store registry segments result :=
  gives_set_of_findSome? hstore hmembers <| findSome?_eq_some_iff_first.mpr
    ⟨index, hindex, hdecision,
      fun earlier he => Plain.decision?_eq_none_iff.mpr (hfirst earlier he)⟩

theorem SetComesTo.gives (hstore : store.Acyclic)
    (h : SetComesTo store registry name segments result) :
    (Constraint.set name).Gives store registry segments result := by
  cases h with
  | notFound hmembers => exact (gives_missing_set_iff hstore hmembers).mpr rfl
  | empty hmembers => exact (gives_empty_set_iff hstore hmembers).mpr rfl
  | broken hmembers hindex hfirst hbroken =>
      exact gives_set_of_first hstore hmembers hindex hfirst
        (Plain.decision?_eq_error_iff.mpr hbroken)
  | taken hmembers hindex hfirst hschema htaken =>
      exact gives_set_of_first hstore hmembers hindex hfirst
        (Plain.decision?_eq_ok_iff.mpr ⟨_, hschema, htaken⟩)
  | unmatched hmembers hne hnone =>
      have hfound := List.findSome?_eq_none_iff.mpr fun text htext =>
        Plain.decision?_eq_none_iff.mpr (hnone text htext)
      rw [gives_set_iff hstore hmembers hne, hfound]
      rfl

/-! ## Other members beside the first that decides -/

/-- A success or a compile fault of a set is what it comes to at one of its members. -/
theorem findSome?_of_gives_set (hstore : store.Acyclic)
    (hmembers : store.set? name = some members)
    (h : (Constraint.set name).Gives store registry segments result)
    (hsettles : ∀ fault, result = .error fault → fault.isCompile = true) :
    members.findSome? (Plain.decision? store registry segments) = some result := by
  have hnot : ∀ fault : Fault, fault.isCompile = false → result ≠ .error fault := by
    intro fault hfault hresult
    rw [hsettles fault hresult] at hfault
    cases hfault
  by_cases hne : members = []
  · rw [hne] at hmembers
    exact absurd ((gives_empty_set_iff hstore hmembers).mp h).symm (hnot _ rfl)
  rw [gives_set_iff hstore hmembers hne] at h
  cases hfound : members.findSome? (Plain.decision? store registry segments) with
  | none =>
      rw [hfound] at h
      exact absurd h.symm (hnot _ rfl)
  | some decision =>
      rw [hfound] at h
      exact congrArg some h

section

variable (hstore : store.Acyclic) (hmembers : store.set? name = some members)
  (hsame : store.SameBut name other)

include hstore hmembers hsame

theorem findSome?_of_sameBut (hother : other.Acyclic) {others : List String}
    (hsubset : others ⊆ members) :
    others.findSome? (Plain.decision? other registry segments) =
      others.findSome? (Plain.decision? store registry segments) :=
  findSome?_congr fun _ htext =>
    Plain.decision?_of_sameBut hsame hstore hother hmembers (hsubset htext)

/-- Members behind the others do not change what one of them decided. -/
theorem gives_set_append {more : List String}
    (hothers : other.set? name = some (members ++ more)) (hother : other.Acyclic)
    (hsettles : ∀ fault, result = .error fault → fault.isCompile = true)
    (h : (Constraint.set name).Gives store registry segments result) :
    (Constraint.set name).Gives other registry segments result := by
  apply gives_set_of_findSome? hother hothers
  rw [List.findSome?_append, findSome?_of_sameBut hstore hmembers hsame hother fun _ => id,
    findSome?_of_gives_set hstore hmembers h hsettles]
  rfl

/-- Nor does a member that is repeated further behind. -/
theorem gives_set_repeat {front middle back : List String} {text : String}
    (hsplit : members = front ++ text :: (middle ++ back))
    (hothers : other.set? name = some (front ++ text :: (middle ++ text :: back)))
    (hsettles : ∀ fault, result = .error fault → fault.isCompile = true)
    (h : (Constraint.set name).Gives store registry segments result) :
    (Constraint.set name).Gives other registry segments result := by
  have hsubset : front ++ text :: (middle ++ text :: back) ⊆ members := by
    intro inner hinner
    rw [hsplit]
    simp only [List.mem_append, List.mem_cons] at hinner ⊢
    tauto
  have hother : other.Acyclic := hsame.acyclic hmembers hothers hsubset hstore
  apply gives_set_of_findSome? hother hothers
  rw [findSome?_of_sameBut hstore hmembers hsame hother hsubset, findSome?_repeat, ← hsplit,
    findSome?_of_gives_set hstore hmembers h hsettles]

/-- Members that all compile may change places if no two different ones take the
segments. -/
theorem gives_set_perm {permuted : List String} (hperm : members.Perm permuted)
    (hothers : other.set? name = some permuted)
    (hcompile : ∀ text ∈ members, ∃ schema, Schema.ofText text = .ok schema)
    (htakes : ∀ text ∈ members, ∀ rival ∈ members,
      Schema.Takes store registry segments text →
      Schema.Takes store registry segments rival → text = rival)
    (h : (Constraint.set name).Gives store registry segments result) :
    (Constraint.set name).Gives other registry segments result := by
  have hsubset : permuted ⊆ members := fun _ hinner => hperm.mem_iff.mpr hinner
  have hother : other.Acyclic := hsame.acyclic hmembers hothers hsubset hstore
  by_cases hne : members = []
  · obtain rfl : permuted = [] := by
      rw [hne] at hperm
      exact hperm.nil_eq.symm
    rw [hne] at hmembers
    rw [gives_empty_set_iff hother hothers]
    exact (gives_empty_set_iff hstore hmembers).mp h
  have hnonempty : permuted ≠ [] := fun hnil => hne (hnil ▸ hperm).eq_nil
  have htaken : ∀ text ∈ members, ∀ decision,
      Plain.decision? store registry segments text = some decision →
        Schema.Takes store registry segments text := by
    intro text htext decision hdecision
    cases decision with
    | error fault =>
        obtain ⟨schema, hschema⟩ := hcompile text htext
        rw [Plain.decision?_eq_error_iff.mp hdecision] at hschema
        cases hschema
    | ok rest =>
        obtain ⟨schema, hschema, hgives⟩ := Plain.decision?_eq_ok_iff.mp hdecision
        exact ⟨schema, rest, hschema, hgives⟩
  have hfound : members.findSome? (Plain.decision? store registry segments) =
      permuted.findSome? (Plain.decision? store registry segments) := by
    apply findSome?_eq_of_perm hperm
    intro text htext rival hrival first second hfirst hsecond
    obtain rfl := htakes text htext rival hrival (htaken text htext first hfirst)
      (htaken rival hrival second hsecond)
    exact Option.some.inj (hfirst.symm.trans hsecond)
  rw [gives_set_iff hother hothers hnonempty,
    findSome?_of_sameBut hstore hmembers hsame hother hsubset, ← hfound, ← hperm.length_eq]
  exact (gives_set_iff hstore hmembers hne).mp h

end

/-- A set always comes to an end, and to one thing only: a fault if it is missing or empty,
the compile fault of the first member that decides, what the first member that decides
leaves, or a fault that counts all members if none of them decides.  Of two stores that
differ in the members of this set only, both give the same success or compile fault if
the second has further members behind those of the first, or repeats a member further
behind.  They give the same result, whatever it is, if the members of the second are those
of the first in another order, all of them compile, and no two different ones take the
segments. -/
theorem set_comes_to_first_decision {store : Store} (hstore : store.Acyclic)
    (registry : Registry) (name : String) (segments : List String) :
    (∃ result, (Constraint.set name).Gives store registry segments result) ∧
    (∀ result, (Constraint.set name).Gives store registry segments result ↔
      SetComesTo store registry name segments result) ∧
    ∀ (members : List String) (other : Store) (result : Except Fault (List String)),
      store.set? name = some members → store.SameBut name other →
      (Constraint.set name).Gives store registry segments result →
      ((∀ fault, result = .error fault → fault.isCompile = true) →
        (∀ more, other.set? name = some (members ++ more) → other.Acyclic →
          (Constraint.set name).Gives other registry segments result) ∧
        (∀ front text middle back, members = front ++ text :: (middle ++ back) →
          other.set? name = some (front ++ text :: (middle ++ text :: back)) →
          (Constraint.set name).Gives other registry segments result)) ∧
      (∀ permuted, members.Perm permuted → other.set? name = some permuted →
        (∀ text ∈ members, ∃ schema, Schema.ofText text = .ok schema) →
        (∀ text ∈ members, ∀ rival ∈ members,
          Schema.Takes store registry segments text →
          Schema.Takes store registry segments rival → text = rival) →
        (Constraint.set name).Gives other registry segments result) := by
  refine ⟨exists_gives_set hstore registry name segments,
    fun result => ⟨setComesTo_of_gives hstore, SetComesTo.gives hstore⟩, ?_⟩
  intro members other result hmembers hsame hgives
  refine ⟨fun hsettles => ⟨?_, ?_⟩, ?_⟩
  · intro more hothers hother
    exact gives_set_append hstore hmembers hsame hothers hother hsettles hgives
  · intro front text middle back hsplit hothers
    exact gives_set_repeat hstore hmembers hsame hsplit hothers hsettles hgives
  · intro permuted hperm hothers hcompile htakes
    exact gives_set_perm hstore hmembers hsame hperm hothers hcompile htakes hgives

end Constraint

end

namespace Constraint

/-- The second of three members decides, and takes less than a member behind it would. -/
theorem set_comes_to_first_decision_of_second_member :
    (Constraint.set "s").Gives (Store.ofEntries [] [("s", ["b", "a/+", "c/$[t]"]), ("t", ["x"])])
        Registry.builtin ["a", "x", "y"] (.ok ["y"]) ∧
      (Constraint.set "s").Gives
        (Store.ofEntries [] [("s", ["b", "a/+", "c/$[t]", "a/$[t]/y", "+{3,0}"]), ("t", ["x"])])
        Registry.builtin ["a", "x", "y"] (.ok ["y"]) ∧
      (Constraint.set "s").Gives
        (Store.ofEntries [] [("s", ["b", "a/+", "b", "c/$[t]"]), ("t", ["x"])])
        Registry.builtin ["a", "x", "y"] (.ok ["y"]) ∧
      (Constraint.set "s").Gives (Store.ofEntries [] [("s", ["c/$[t]", "a/+", "b"]), ("t", ["x"])])
        Registry.builtin ["a", "x", "y"] (.ok ["y"]) := by
  let store : Store := Store.ofEntries [] [("s", ["b", "a/+", "c/$[t]"]), ("t", ["x"])]
  have hstore : store.Acyclic :=
    Store.acyclic_of_rank (fun name => if name = "s" then 1 else 0) (by decide +kernel)
  obtain ⟨-, hiff, hothers⟩ :=
    set_comes_to_first_decision hstore Registry.builtin "s" ["a", "x", "y"]
  have hmembers : store.set? "s" = some ["b", "a/+", "c/$[t]"] := by decide +kernel
  have hdecision : ∀ text ∈ ["b", "c/$[t]"],
      Plain.decision? store Registry.builtin ["a", "x", "y"] text = none := by
    decide +kernel
  have hnot : ∀ text ∈ ["b", "c/$[t]"],
      ¬Schema.Decides store Registry.builtin ["a", "x", "y"] text :=
    fun text htext => Plain.decision?_eq_none_iff.mp (hdecision text htext)
  have hschema : Schema.ofText "a/+" = .ok ⟨"a/+", [.literal "a", .run 1 1]⟩ := by
    decide +kernel
  have htaken : Schema.Gives store Registry.builtin ⟨"a/+", [.literal "a", .run 1 1]⟩
      ["a", "x", "y"] (.ok ["y"]) :=
    Schema.gives_iff.mpr (by decide +kernel)
  have hgiven : (Constraint.set "s").Gives store Registry.builtin ["a", "x", "y"]
      (.ok ["y"]) := by
    refine (hiff _).mpr (SetComesTo.taken hmembers (show 1 < 3 by decide) ?_ hschema htaken)
    intro earlier he
    obtain rfl : earlier = 0 := by omega
    exact hnot "b" (by simp)
  have hcompile : ∀ text ∈ ["b", "a/+", "c/$[t]"],
      ∃ schema, Schema.ofText text = .ok schema := by
    intro text htext
    obtain rfl | rfl | rfl : text = "b" ∨ text = "a/+" ∨ text = "c/$[t]" := by
      simpa using htext
    · exact ⟨⟨"b", [.literal "b"]⟩, by decide +kernel⟩
    · exact ⟨_, hschema⟩
    · exact ⟨⟨"c/$[t]", [.literal "c", .set "t"]⟩, by decide +kernel⟩
  have htakes : ∀ text ∈ ["b", "a/+", "c/$[t]"],
      Schema.Takes store Registry.builtin ["a", "x", "y"] text → text = "a/+" := by
    intro text htext htakes
    obtain rfl | rfl | rfl : text = "b" ∨ text = "a/+" ∨ text = "c/$[t]" := by
      simpa using htext
    · exact absurd (.inr htakes) (hnot "b" (by simp))
    · rfl
    · exact absurd (.inr htakes) (hnot "c/$[t]" (by simp))
  have hsame : ∀ members,
      store.SameBut "s" (Store.ofEntries [] [("s", members), ("t", ["x"])]) := by
    refine fun members => ⟨fun inner => rfl, fun inner hinner => ?_⟩
    have hne : (inner == "s") = false := by simpa using hinner
    simp [store, Store.ofEntries, List.lookup_cons, hne]
  have hsettles : ∀ fault : Fault, (.ok ["y"] : Except Fault (List String)) = .error fault →
      fault.isCompile = true := by
    intro fault hfault
    cases hfault
  refine ⟨hgiven, ?_, ?_, ?_⟩
  · refine ((hothers _ _ _ hmembers (hsame _) hgiven).1 hsettles).1 ["a/$[t]/y", "+{3,0}"]
      (by decide +kernel) ?_
    exact Store.acyclic_of_rank (fun name => if name = "s" then 1 else 0)
      (by decide +kernel)
  · exact ((hothers _ _ _ hmembers (hsame _) hgiven).1 hsettles).2 [] "b" ["a/+"] ["c/$[t]"]
      rfl (by decide +kernel)
  · refine (hothers _ _ _ hmembers (hsame _) hgiven).2 ["c/$[t]", "a/+", "b"]
      (by decide +kernel) (by decide +kernel) hcompile ?_
    intro text htext rival hrival hfirst hsecond
    rw [htakes text htext hfirst, htakes rival hrival hsecond]

end Constraint

end PathSchema
