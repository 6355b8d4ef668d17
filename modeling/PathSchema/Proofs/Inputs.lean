import Mathlib.Data.List.Induction
import Mathlib.Data.List.Nodup
import PathSchema.Configuration.Loading

/-!
# Inputs and the stores they make

The inputs of a configuration go into its store one after the other, and an input
silently replaces an earlier one that has its name and its type.  A configuration is
refused when a name is used twice, whatever the types, so nothing is ever replaced: each
input that went in is found again, nothing else is found, and the order does not matter.
No name then stands for both a variable and a variable set, though the store itself would
allow it.

A store keeps where a value comes from, not the value: the environment is asked at each
look-up.  What any inputs make is told by `value?_ofInputs` and `set?_ofInputs`: the last
input about a name decides.  Only `answersFrom_ofInputs` asks that no name is used twice.
-/

namespace PathSchema

namespace Input

/-! ## The first name that is used again -/

/-- The name belongs to an input that repeats the name of an earlier one, and no input
before it does. -/
def FirstRepeated (inputs : List Input) (repeated : String) : Prop :=
  ∃ before input after, inputs = before ++ input :: after ∧ input.name = repeated ∧
    repeated ∈ before.map name ∧ (before.map name).Nodup

theorem repeatedFrom_append {before : List Input} (hnodup : (before.map name).Nodup)
    {met : List String} (hnew : ∀ input ∈ before, input.name ∉ met) (rest : List Input) :
    repeatedFrom met (before ++ rest) =
      repeatedFrom ((before.map name).reverse ++ met) rest := by
  induction before generalizing met with
  | nil => rfl
  | cons input before ih =>
      obtain ⟨hinput, hbefore⟩ := List.nodup_cons.mp hnodup
      have hmet : input.name ∉ met := hnew input (by simp)
      have hothers : ∀ other ∈ before, other.name ∉ input.name :: met := by
        intro other hother
        have hne : other.name ≠ input.name := fun hsame =>
          hinput (List.mem_map.mpr ⟨other, hother, hsame⟩)
        simpa using ⟨hne, hnew other (by simp [hother])⟩
      rw [List.cons_append, repeatedFrom, if_neg (by simpa using hmet), ih hbefore hothers]
      simp

/-- Either all names are different, or there is a first one that is used again. -/
theorem nodup_or_firstRepeated (inputs : List Input) :
    (inputs.map name).Nodup ∨ ∃ repeated, FirstRepeated inputs repeated := by
  induction inputs using List.reverseRecOn with
  | nil => exact .inl List.nodup_nil
  | append_singleton front last ih =>
      rcases ih with hnodup | ⟨repeated, before, input, after, rfl, hrepeated⟩
      · by_cases hlast : last.name ∈ front.map name
        · exact .inr ⟨last.name, front, last, [], rfl, rfl, hlast, hnodup⟩
        · left
          rw [List.map_append, List.map_singleton, List.nodup_append_comm]
          exact List.nodup_cons.mpr ⟨hlast, hnodup⟩
      · exact .inr ⟨repeated, before, input, after ++ [last], by simp, hrepeated⟩

theorem repeated?_eq_none_of_nodup {inputs : List Input} (h : (inputs.map name).Nodup) :
    repeated? inputs = none := by
  have hsearch := @repeatedFrom_append inputs h [] (by simp) []
  rw [List.append_nil] at hsearch
  exact hsearch

theorem FirstRepeated.repeated?_eq {inputs : List Input} {repeated : String}
    (h : FirstRepeated inputs repeated) : repeated? inputs = some repeated := by
  obtain ⟨before, input, after, rfl, rfl, hmem, hnodup⟩ := h
  rw [repeated?, repeatedFrom_append hnodup (by simp), repeatedFrom, if_pos (by simpa using hmem)]

theorem repeated?_eq_some_iff {inputs : List Input} {repeated : String} :
    repeated? inputs = some repeated ↔ FirstRepeated inputs repeated := by
  constructor
  · intro h
    rcases nodup_or_firstRepeated inputs with hnodup | ⟨found, hfound⟩
    · rw [repeated?_eq_none_of_nodup hnodup] at h
      cases h
    · rw [hfound.repeated?_eq] at h
      obtain rfl := Option.some.inj h
      exact hfound
  · exact FirstRepeated.repeated?_eq

theorem repeated?_eq_none_iff {inputs : List Input} :
    repeated? inputs = none ↔ (inputs.map name).Nodup := by
  constructor
  · intro h
    rcases nodup_or_firstRepeated inputs with hnodup | ⟨found, hfound⟩
    · exact hnodup
    · rw [hfound.repeated?_eq] at h
      cases h
  · exact repeated?_eq_none_of_nodup

/-! ## What an input says about one name -/

/-- The environment variable that the input takes the value of a variable from. -/
def sourceFor (asked : String) : Input → Option String
  | environment name source => if name = asked then some source else none
  | variableSet _ _ => none

/-- The members that the input gives a variable set. -/
def membersFor (asked : String) : Input → Option (List String)
  | environment _ _ => none
  | variableSet name content => if name = asked then some content else none

theorem sourceFor_eq_some_iff {asked source : String} {input : Input} :
    input.sourceFor asked = some source ↔ input = environment asked source := by
  cases input with
  | environment name other => by_cases h : name = asked <;> simp [sourceFor, h]
  | variableSet name content => simp [sourceFor]

theorem membersFor_eq_some_iff {asked : String} {members : List String} {input : Input} :
    input.membersFor asked = some members ↔ input = variableSet asked members := by
  cases input with
  | environment name source => simp [membersFor]
  | variableSet name content => by_cases h : name = asked <;> simp [membersFor, h]

/-- Among inputs of different names at most one is about a given name, so a search for what
is said about that name finds it wherever it stands. -/
theorem findSome?_eq_some_iff_of_nodup {inputs : List Input} (h : (inputs.map name).Nodup)
    (asked : String) {α : Type} {said : Input → Option α}
    (hsaid : ∀ input answer, said input = some answer → input.name = asked) {answer : α} :
    inputs.findSome? said = some answer ↔ ∃ input ∈ inputs, said input = some answer := by
  constructor
  · exact List.exists_of_findSome?_eq_some
  · rintro ⟨input, hinput, hanswer⟩
    cases hfound : inputs.findSome? said with
    | none =>
        rw [List.findSome?_eq_none_iff.mp hfound input hinput] at hanswer
        cases hanswer
    | some found =>
        obtain ⟨other, hother, hsays⟩ := List.exists_of_findSome?_eq_some hfound
        have hname : other.name = input.name :=
          (hsaid other found hsays).trans (hsaid input answer hanswer).symm
        obtain rfl := List.inj_on_of_nodup_map h hother hinput hname
        rw [← hsays, hanswer]

theorem findSome?_sourceFor_eq_some_iff {inputs : List Input} (h : (inputs.map name).Nodup)
    {asked source : String} :
    inputs.findSome? (sourceFor asked) = some source ↔ environment asked source ∈ inputs := by
  rw [findSome?_eq_some_iff_of_nodup h asked
    fun input source hsource => by rw [sourceFor_eq_some_iff.mp hsource, name]]
  simp [sourceFor_eq_some_iff]

theorem findSome?_membersFor_eq_some_iff {inputs : List Input} (h : (inputs.map name).Nodup)
    {asked : String} {members : List String} :
    inputs.findSome? (membersFor asked) = some members ↔
      variableSet asked members ∈ inputs := by
  rw [findSome?_eq_some_iff_of_nodup h asked
    fun input members hmembers => by rw [membersFor_eq_some_iff.mp hmembers, name]]
  simp [membersFor_eq_some_iff]

end Input

namespace Configuration

/-- The configuration that a text spells, whether it uses a name twice or not. -/
def read? (path text : String) : Option Configuration :=
  ((ConfigurationFormat.ofPath path).document? text).bind
    (ConfigurationFormat.ofPath path).rules.configuration?

/-- A text that is read as a configuration is refused with the first name of an input that
is used again, if there is one. -/
theorem ofText_of_read {path text : String} {configuration : Configuration}
    (hread : read? path text = some configuration) :
    ofText path text =
      match Input.repeated? configuration.inputs with
      | some name => .error (.config ("input '" ++ name ++ "' is defined more than once"))
      | none => .ok configuration := by
  rw [read?] at hread
  unfold ofText
  dsimp only
  rewrite [hread]
  rfl

theorem ofText_eq_ok_iff {path text : String} {configuration : Configuration}
    (hread : read? path text = some configuration) :
    ofText path text = .ok configuration ↔ (configuration.inputs.map Input.name).Nodup := by
  rw [ofText_of_read hread, ← Input.repeated?_eq_none_iff]
  cases Input.repeated? configuration.inputs <;> simp

theorem ofText_eq_error_iff {path text : String} {configuration : Configuration}
    (hread : read? path text = some configuration)
    (failure : Failure) :
    ofText path text = .error failure ↔
      ∃ name, Input.FirstRepeated configuration.inputs name ∧
        failure = .config ("input '" ++ name ++ "' is defined more than once") := by
  simp only [ofText_of_read hread, ← Input.repeated?_eq_some_iff]
  cases Input.repeated? configuration.inputs <;> simp [eq_comm]

end Configuration

/-! ## What a store answers -/

namespace ConfiguredStore

variable {inputs others : List Input}

theorem value?_insert (store : ConfiguredStore) (input : Input)
    (environment : String → Option String) (asked : String) :
    (store.insert input).value? environment asked =
      match input.sourceFor asked with
      | some source => environment source
      | none => store.value? environment asked := by
  cases input with
  | variableSet name content => rfl
  | environment name source =>
      by_cases h : name = asked
      · simp [insert, value?, Input.sourceFor, h]
      · have hne : (asked == name) = false := by simpa using Ne.symm h
        simp [insert, value?, Input.sourceFor, h, List.lookup_cons, hne]

theorem set?_insert (store : ConfiguredStore) (input : Input) (asked : String) :
    (store.insert input).set? asked = (input.membersFor asked).or (store.set? asked) := by
  cases input with
  | environment name source => rfl
  | variableSet name content =>
      by_cases h : name = asked
      · simp [insert, set?, Input.membersFor, h]
      · have hne : (asked == name) = false := by simpa using Ne.symm h
        simp [insert, set?, Input.membersFor, h, List.lookup_cons, hne]

/-- The last input for a variable decides which environment variable is asked. -/
theorem value?_ofInputs (inputs : List Input) (environment : String → Option String)
    (asked : String) :
    (ofInputs inputs).value? environment asked =
      (inputs.reverse.findSome? (Input.sourceFor asked)).bind environment := by
  induction inputs using List.reverseRecOn with
  | nil => rfl
  | append_singleton front last ih =>
      rw [ofInputs, List.foldl_append, List.foldl_cons, List.foldl_nil, value?_insert,
        List.reverse_append, List.reverse_singleton, List.singleton_append, List.findSome?_cons]
      cases last.sourceFor asked with
      | some source => rfl
      | none => exact ih

example : (ofInputs [.environment "v" "A", .environment "v" "B"]).value? some "v" = some "B" := by
  decide +kernel

/-- The last input for a variable set decides its members. -/
theorem set?_ofInputs (inputs : List Input) (asked : String) :
    (ofInputs inputs).set? asked = inputs.reverse.findSome? (Input.membersFor asked) := by
  induction inputs using List.reverseRecOn with
  | nil => rfl
  | append_singleton front last ih =>
      rw [ofInputs, List.foldl_append, List.foldl_cons, List.foldl_nil, set?_insert,
        List.reverse_append, List.reverse_singleton, List.singleton_append, List.findSome?_cons]
      cases last.membersFor asked with
      | some members => rfl
      | none => exact ih

/-- The store answers with what the inputs give, and with nothing else, whatever the
environment is when it is asked. -/
structure AnswersFrom (inputs : List Input) (store : ConfiguredStore) : Prop where
  value : ∀ environment name source, .environment name source ∈ inputs →
    store.value? environment name = environment source
  members : ∀ name content, .variableSet name content ∈ inputs →
    store.set? name = some content
  noValue : ∀ environment name, (∀ source, .environment name source ∉ inputs) →
    store.value? environment name = none
  noMembers : ∀ name, (∀ content, .variableSet name content ∉ inputs) →
    store.set? name = none

/-- When no name is used twice, inputs that come in another order give the same answers. -/
theorem answersFrom_ofInputs (h : (inputs.map Input.name).Nodup) (hperm : others.Perm inputs) :
    AnswersFrom inputs (ofInputs others) := by
  have hperm' : others.reverse.Perm inputs := (List.reverse_perm others).trans hperm
  have hnodup : (others.reverse.map Input.name).Nodup := (hperm'.map Input.name).nodup_iff.mpr h
  have hsource : ∀ name source, others.reverse.findSome? (Input.sourceFor name) = some source ↔
      .environment name source ∈ inputs := fun name source =>
    (Input.findSome?_sourceFor_eq_some_iff hnodup).trans hperm'.mem_iff
  have hmembers : ∀ name content, others.reverse.findSome? (Input.membersFor name) =
      some content ↔ .variableSet name content ∈ inputs := fun name content =>
    (Input.findSome?_membersFor_eq_some_iff hnodup).trans hperm'.mem_iff
  constructor
  case value =>
    intro environment name source hmem
    rw [value?_ofInputs, (hsource name source).mpr hmem, Option.bind_some]
  case members =>
    intro name content hmem
    rw [set?_ofInputs, (hmembers name content).mpr hmem]
  case noValue =>
    intro environment name hnone
    have hsearch : others.reverse.findSome? (Input.sourceFor name) = none :=
      Option.eq_none_iff_forall_ne_some.mpr fun source hfound =>
        hnone source ((hsource name source).mp hfound)
    rw [value?_ofInputs, hsearch, Option.bind_none]
  case noMembers =>
    intro name hnone
    rw [set?_ofInputs]
    exact Option.eq_none_iff_forall_ne_some.mpr fun content hfound =>
      hnone content ((hmembers name content).mp hfound)

namespace AnswersFrom

variable {store other : ConfiguredStore}

theorem value?_eq (h : AnswersFrom inputs store) (hother : AnswersFrom inputs other)
    (environment : String → Option String) (name : String) :
    store.value? environment name = other.value? environment name := by
  by_cases hinput : ∃ source, .environment name source ∈ inputs
  · obtain ⟨source, hsource⟩ := hinput
    rw [h.value environment name source hsource, hother.value environment name source hsource]
  · rw [not_exists] at hinput
    rw [h.noValue environment name hinput, hother.noValue environment name hinput]

theorem set?_eq (h : AnswersFrom inputs store) (hother : AnswersFrom inputs other)
    (name : String) : store.set? name = other.set? name := by
  by_cases hinput : ∃ content, .variableSet name content ∈ inputs
  · obtain ⟨content, hcontent⟩ := hinput
    rw [h.members name content hcontent, hother.members name content hcontent]
  · rw [not_exists] at hinput
    rw [h.noMembers name hinput, hother.noMembers name hinput]

/-- A name that is used once is that of a variable or that of a variable set. -/
theorem value?_eq_none_or_set?_eq_none (h : AnswersFrom inputs store)
    (hnodup : (inputs.map Input.name).Nodup) (environment : String → Option String)
    (name : String) : store.value? environment name = none ∨ store.set? name = none := by
  by_cases hinput : ∃ source, .environment name source ∈ inputs
  · obtain ⟨source, hsource⟩ := hinput
    refine .inr (h.noMembers name fun content hcontent => ?_)
    have hsame := List.inj_on_of_nodup_map hnodup hsource hcontent rfl
    cases hsame
  · exact .inl (h.noValue environment name (not_exists.mp hinput))

end AnswersFrom

/-- Inputs are refused exactly when two of them share a name, whatever their types, and with
the name of the first input that uses one again; so is the configuration that was read with
them.  Inputs that are taken make, in any order, stores that answer alike in every environment
that they are asked in, one look-up after the other: a variable has the value that its
environment variable has then, a variable set has its members, and no other name has either,
so none ever has both.  While the environment stays as it is, these are the answers of the
store that paths are validated with. -/
theorem inputs_reach_store_in_any_order (inputs : List Input) :
    (Input.repeated? inputs = none ↔ (inputs.map Input.name).Nodup) ∧
    (∀ name, Input.repeated? inputs = some name ↔ Input.FirstRepeated inputs name) ∧
    (∀ path text configuration,
      Configuration.read? path text = some configuration →
      configuration.inputs = inputs →
        (Configuration.ofText path text = .ok configuration ↔
          (inputs.map Input.name).Nodup) ∧
        ∀ failure, Configuration.ofText path text = .error failure ↔
          ∃ name, Input.FirstRepeated inputs name ∧
            failure = .config ("input '" ++ name ++ "' is defined more than once")) ∧
    (Input.repeated? inputs = none → ∀ others, others.Perm inputs →
      AnswersFrom inputs (ofInputs others) ∧
      ∀ environment name,
        (ofInputs others).value? environment name =
          (ofInputs inputs).value? environment name ∧
        (ofInputs others).set? name = (ofInputs inputs).set? name ∧
        ((ofInputs others).value? environment name = none ∨
          (ofInputs others).set? name = none) ∧
        ((ofInputs others).answering environment).value? name =
          (ofInputs others).value? environment name ∧
        ((ofInputs others).answering environment).set? name = (ofInputs others).set? name) := by
  refine ⟨Input.repeated?_eq_none_iff, fun name => Input.repeated?_eq_some_iff, ?_, ?_⟩
  · rintro path text configuration hread rfl
    exact ⟨Configuration.ofText_eq_ok_iff hread, Configuration.ofText_eq_error_iff hread⟩
  · intro hrepeated others hperm
    have hnodup := Input.repeated?_eq_none_iff.mp hrepeated
    have hothers := answersFrom_ofInputs hnodup hperm
    have hinputs := answersFrom_ofInputs hnodup (List.Perm.refl inputs)
    exact ⟨hothers, fun environment name =>
      ⟨hothers.value?_eq hinputs environment name, hothers.set?_eq hinputs name,
        hothers.value?_eq_none_or_set?_eq_none hnodup environment name, rfl, rfl⟩⟩

/-- A store that was made of inputs in another order is asked for a variable before and after
its environment variable is set. -/
theorem inputs_reach_store_out_of_order :
    (∃ configuration,
      Configuration.read? "s.yaml"
        "inputs: [[environment, app, APP], [variable_set, dbs, [db, kv]]]" =
          some configuration ∧
      configuration.inputs = [.environment "app" "APP", .variableSet "dbs" ["db", "kv"]] ∧
      Configuration.ofText "s.yaml"
        "inputs: [[environment, app, APP], [variable_set, dbs, [db, kv]]]" =
          .ok configuration) ∧
    (∃ configuration,
      Configuration.read? "s.yaml"
        "inputs: [[environment, app, APP], [variable_set, app, []]]" = some configuration ∧
      configuration.inputs = [.environment "app" "APP", .variableSet "app" []] ∧
      Configuration.ofText "s.yaml"
        "inputs: [[environment, app, APP], [variable_set, app, []]]" =
          .error (.config "input 'app' is defined more than once")) ∧
    Input.repeated? [.environment "app" "APP", .variableSet "dbs" ["db", "kv"]] = none ∧
    List.Perm [.variableSet "dbs" ["db", "kv"], .environment "app" "APP"]
      [Input.environment "app" "APP", .variableSet "dbs" ["db", "kv"]] ∧
    (let store := ofInputs [.variableSet "dbs" ["db", "kv"], .environment "app" "APP"]
    store.value? (fun _ => none) "app" = none ∧ store.value? some "app" = some "APP" ∧
      store.set? "dbs" = some ["db", "kv"] ∧ store.value? some "dbs" = none) := by
  have htaken : Configuration.read? "s.yaml"
      "inputs: [[environment, app, APP], [variable_set, dbs, [db, kv]]]" =
        some ⟨none, [.environment "app" "APP", .variableSet "dbs" ["db", "kv"]], {}⟩ := by
    decide +kernel
  have hrefused : Configuration.read? "s.yaml"
      "inputs: [[environment, app, APP], [variable_set, app, []]]" =
        some ⟨none, [.environment "app" "APP", .variableSet "app" []], {}⟩ := by
    decide +kernel
  have hperm : List.Perm [.variableSet "dbs" ["db", "kv"], .environment "app" "APP"]
      [Input.environment "app" "APP", .variableSet "dbs" ["db", "kv"]] := List.Perm.swap _ _ _
  obtain ⟨hnone, -, hloading, hstores⟩ :=
    inputs_reach_store_in_any_order [.environment "app" "APP", .variableSet "dbs" ["db", "kv"]]
  obtain ⟨-, -, hsharing, -⟩ :=
    inputs_reach_store_in_any_order [.environment "app" "APP", .variableSet "app" []]
  have hrepeated := hnone.mpr (by decide)
  have hanswers := (hstores hrepeated _ hperm).1
  have hfirst : Input.FirstRepeated [.environment "app" "APP", .variableSet "app" []] "app" :=
    ⟨[.environment "app" "APP"], .variableSet "app" [], [], rfl, rfl, by decide, by decide⟩
  exact ⟨⟨_, htaken, rfl, (hloading _ _ _ htaken rfl).1.mpr (by decide)⟩,
    ⟨_, hrefused, rfl, ((hsharing _ _ _ hrefused rfl).2 _).mpr ⟨"app", hfirst, rfl⟩⟩,
    hrepeated, hperm, hanswers.value (fun _ => none) "app" "APP" (by simp),
    hanswers.value some "app" "APP" (by simp), hanswers.members "dbs" ["db", "kv"] (by simp),
    hanswers.noValue some "dbs" (by simp)⟩

end ConfiguredStore

end PathSchema
