/-!
# Stores of variables and variable sets

A store answers what a variable's value is and what the members of a variable set
are.  Variables and sets have names of their own: one name may stand for both.  How
the answers come about is left to the store; all that is asked is that only finitely
many names are those of sets.
-/

namespace PathSchema

/-- Values of variables and members of variable sets, by name. -/
structure Store where
  value? : String → Option String := fun _ => none
  /-- The members of a variable set, each the text of a schema. -/
  set? : String → Option (List String) := fun _ => none
  /-- The names of all variable sets, perhaps among others. -/
  setNames : List String := []
  mem_setNames : ∀ name members, set? name = some members → name ∈ setNames := by
    intro name members h; cases h

namespace Store

/-- The store of some entries, of which the first with a name counts. -/
def ofEntries (values : List (String × String)) (sets : List (String × List String)) :
    Store where
  value? := fun name => values.lookup name
  set? := fun name => sets.lookup name
  setNames := sets.map Prod.fst
  mem_setNames name members h := by
    obtain ⟨before, after, hsets, -⟩ := List.lookup_eq_some_iff.mp h
    simp [hsets]

def insertVariable (store : Store) (name value : String) : Store :=
  { store with value? := fun other => if other = name then some value else store.value? other }

def insertSet (store : Store) (name : String) (members : List String) : Store where
  value? := store.value?
  set? := fun other => if other = name then some members else store.set? other
  setNames := name :: store.setNames
  mem_setNames other others h := by
    by_cases hname : other = name
    · exact hname ▸ List.mem_cons_self
    · rw [if_neg hname] at h
      exact List.mem_cons_of_mem name (store.mem_setNames other others h)

end Store

/-- A question that was put to a store. -/
inductive Lookup where
  | var (name : String)
  | set (name : String)
  deriving DecidableEq

end PathSchema
