import PathSchema.Proofs.Evaluation.Depth
import PathSchema.Proofs.Reading
import PathSchema.Proofs.Scanning.Joined
import PathSchema.Pattern.Engine

/-!
# Joining schema texts

Two schema texts with a slash between them make up a schema text.  Nothing continues
into a slash, so the tokens of both are those of the joined text, and a reader that
has completed the parts of the first text goes on with the second as if it stood by
itself.  What is wrong with the second text is then wrong further on in the joined one.
The constraints are those of both, so the joined schema is evaluated like the first and
then like the second on what the first has left.
-/

namespace PathSchema

/-! ## Reading -/

/-- Moves a reading error behind some bytes. -/
def ReadError.shift (offset : Nat) (error : ReadError) : ReadError :=
  { error with found := error.found.map (Token.shift offset) }

/-- Moves a parse error behind some bytes. -/
def ParseError.shift (offset : Nat) : ParseError → ParseError
  | scan error => .scan (error.shift offset)
  | read error => .read (error.shift offset)

namespace Reader

/-- The reader after some parts that were read before. -/
def behind (front : List Part) (reader : Reader) : Reader :=
  { reader with parts := front ++ reader.parts }

theorem step_of_kind_ne_slash {reader : Reader} {lexeme : Lexeme}
    (h : lexeme.kind ≠ .slash) :
    reader.step lexeme =
      (reader.stage.step lexeme).map fun stage => ⟨reader.parts, stage⟩ := by
  unfold step
  split
  · next hslash _ => exact absurd hslash h
  · rfl

theorem step_behind (front : List Part) (reader : Reader) (lexeme : Lexeme) :
    (reader.behind front).step lexeme = (reader.step lexeme).map (behind front) := by
  by_cases hslash : lexeme.kind = .slash
  · have hstage : (reader.behind front).stage = reader.stage := rfl
    rw [step, step, hslash, hstage]
    cases reader.stage.part? with
    | some part => simp [behind, Except.map]
    | none => cases reader.stage.step lexeme <;> rfl
  · rw [step_of_kind_ne_slash hslash, step_of_kind_ne_slash hslash]
    show (reader.stage.step lexeme).map _ = _
    cases reader.stage.step lexeme <;> rfl

/-- Parts that were read before, and bytes before the text, change neither what is read
nor whether it can be. -/
theorem run_behind (front : List Part) (offset : Nat) (reader : Reader)
    (tokens : List Token) :
    (reader.behind front).run (tokens.map (Token.shift offset)) =
      ((reader.run tokens).map (behind front)).mapError (ReadError.shift offset) := by
  induction tokens generalizing reader with
  | nil => rfl
  | cons token rest ih =>
      rw [List.map_cons, run, run, Token.toLexeme_shift, step_behind]
      cases reader.step token.toLexeme with
      | error problem => rfl
      | ok next => exact ih next

theorem finish_behind (front : List Part) (offset : Nat) (reader : Reader) :
    (reader.behind front).finish =
      (reader.finish.map (front ++ ·)).mapError (ReadError.shift offset) := by
  have hstage : (reader.behind front).stage = reader.stage := rfl
  rw [finish, finish, hstage]
  cases reader.stage.part? with
  | some part => simp [behind, Except.map, Except.mapError]
  | none => rfl

end Reader

namespace Part

/-- After the tokens of some parts and a slash, further tokens are read as if they stood
by themselves. -/
theorem ofTokens_append_slash {tokens : List Token} {parts : List Part}
    (h : ofTokens tokens = .ok parts) {slash : Token} (hslash : slash.kind = .slash)
    (offset : Nat) (others : List Token) :
    ofTokens (tokens ++ slash :: others.map (Token.shift offset)) =
      ((ofTokens others).map (parts ++ ·)).mapError (ReadError.shift offset) := by
  obtain ⟨reader, hleads, hfinish⟩ := ofTokens_eq_ok_iff.mp h
  obtain ⟨last, hlast, rfl⟩ := Reader.finish_eq_ok_iff.mp hfinish
  have hrun : Reader.initial.run tokens = .ok reader := Reader.run_eq_ok_iff.mpr hleads
  have hstep : reader.step slash.toLexeme =
      .ok (Reader.initial.behind (reader.parts ++ [last])) := by
    unfold Reader.step
    rw [hslash, hlast]
    simp [Reader.behind, Reader.initial]
  rw [ofTokens, Reader.run_append, hrun]
  show (Reader.run reader (slash :: others.map (Token.shift offset))).bind _ = _
  rw [Reader.run, hstep]
  show (Reader.run _ (others.map (Token.shift offset))).bind _ = _
  rw [Reader.run_behind, ofTokens]
  cases Reader.initial.run others with
  | error error => rfl
  | ok next => exact Reader.finish_behind _ offset next

end Part

/-! ## Scanning -/

namespace Token

theorem not_continues_slash (kind : TokenKind) : ¬kind.Continues '/' := by
  cases kind <;> simp [TokenKind.Continues, isIdentifierRest, isBlank]

/-- The tokens of the first text and a slash come before those of the second. -/
theorem scan_append_slash {text : String} {tokens : List Token}
    (h : scan text = .ok tokens) (other : String) :
    scan (text ++ "/" ++ other) =
      ((scan other).map fun others =>
        tokens ++ ⟨.ofKind .slash, Text.byteLength text.toList⟩ ::
          others.map (shift (Text.byteLength text.toList + 1))).mapError
        (ScanError.shift (Text.byteLength text.toList + 1)) := by
  have hslash : next '/' other.toList = .ok (.ofKind .slash, other.toList) := by
    rfl
  have hstop : ∀ token ∈ tokens.getLast?, ∀ d ∈ ('/' :: other.toList).head?,
      ¬token.kind.Continues d := by
    intro token _ d hd
    obtain rfl : '/' = d := by simpa using hd
    exact not_continues_slash token.kind
  have hoffset : 0 + Text.byteLength text.toList + Text.byteLength (Lexeme.ofKind .slash).source =
      Text.byteLength text.toList + 1 + 0 := by
    rw [Nat.zero_add]
    rfl
  have htext : (text ++ "/" ++ other).toList = text.toList ++ '/' :: other.toList := by
    simp
  rw [scan, htext, scanFrom_append h hstop, scanFrom_cons_of_next hslash, hoffset,
    scanFrom_add, Nat.zero_add, scan]
  cases scanFrom 0 other.toList <;> rfl

end Token

namespace Part

/-- A joined text is read like its second text, behind the parts of the first. -/
theorem ofText_append_slash {text : String} {parts : List Part}
    (h : ofText text = .ok parts) {other : String} (hother : other ≠ "") :
    ofText (text ++ "/" ++ other) =
      ((ofText other).map (parts ++ ·)).mapError
        (ParseError.shift (Text.byteLength text.toList + 1)) := by
  obtain ⟨tokens, hscan, htokens⟩ := exists_tokens_of_ofText h
  have hjoined := Token.scan_append_slash hscan other
  have hne : text ++ "/" ++ other ≠ "" := by simp
  rw [ofText, if_neg hne, hjoined, ofText, if_neg hother]
  cases Token.scan other with
  | error error => rfl
  | ok others =>
      show (ofTokens (tokens ++ _ :: _)).mapError _ = _
      rw [ofTokens_append_slash htokens rfl]
      show _ = (((ofTokens others).mapError _).map _).mapError _
      cases ofTokens others <;> rfl

/-- Without a second text, a part is missing at the end. -/
theorem ofText_append_slash_empty {text : String} {parts : List Part}
    (h : ofText text = .ok parts) :
    ofText (text ++ "/" ++ "") = .error (.read ⟨.partExpected, none⟩) := by
  obtain ⟨tokens, hscan, htokens⟩ := exists_tokens_of_ofText h
  have hjoined := Token.scan_append_slash hscan ""
  have hne : text ++ "/" ++ "" ≠ "" := by simp
  have hempty : Token.scan "" = .ok [] := by
    rw [Token.scan, String.toList_empty, Token.scanFrom]
  rw [ofText, if_neg hne, hjoined, hempty]
  show (ofTokens (tokens ++ _ :: [].map (Token.shift _))).mapError _ = _
  rw [ofTokens_append_slash htokens rfl (Text.byteLength text.toList + 1)]
  rfl

end Part

/-! ## Places of errors -/

/-- The place in a schema text that a fault is about, if it is about one. -/
def Fault.position? : Fault → Option Nat
  | lexical _ position _ => some position
  | ungrammatical _ position _ _ _ => some position
  | _ => none

theorem ParseError.kind_shift (offset : Nat) (input other : String) (error : ParseError) :
    (Fault.ofParseError input (error.shift offset)).kind =
      (Fault.ofParseError other error).kind := by
  cases error <;> rfl

/-- The place of an error moves with its text, if the text ends further on by as much. -/
theorem ParseError.position?_shift {offset : Nat} {input other : String}
    (hlength : Text.byteLength input.toList = offset + Text.byteLength other.toList)
    (error : ParseError) :
    ∃ position, (Fault.ofParseError other error).position? = some position ∧
      (Fault.ofParseError input (error.shift offset)).position? =
        some (offset + position) := by
  cases error with
  | scan error => exact ⟨error.position, rfl, rfl⟩
  | read error =>
      obtain ⟨problem, found⟩ := error
      cases found with
      | none =>
          refine ⟨_, rfl, ?_⟩
          show some (Text.byteLength input.toList) = _
          rw [hlength]
          rfl
      | some token => exact ⟨token.position, rfl, rfl⟩

theorem Part.ne_empty_of_ofText {text : String} {parts : List Part}
    (h : ofText text = .ok parts) : text ≠ "" := by
  rintro rfl
  cases h

theorem byteLength_append_slash (text other : String) :
    Text.byteLength (text ++ "/" ++ other).toList =
      Text.byteLength text.toList + 1 + Text.byteLength other.toList := by
  have hslash : Text.byteLength "/".toList = 1 := rfl
  rw [String.toList_append, String.toList_append, Text.byteLength_append,
    Text.byteLength_append, hslash]

/-- What is wrong with the second text is wrong with the joined text, as much further on
as the second text stands in it. -/
theorem Part.exists_error_of_append_slash {text : String} {parts : List Part}
    (h : ofText text = .ok parts) {other : String} {error : ParseError}
    (hother : ofText other = .error error) :
    ∃ moved, ofText (text ++ "/" ++ other) = .error moved ∧
      (Fault.ofParseError (text ++ "/" ++ other) moved).kind =
        (Fault.ofParseError other error).kind ∧
      ∃ position, (Fault.ofParseError other error).position? = some position ∧
        (Fault.ofParseError (text ++ "/" ++ other) moved).position? =
          some (position + (Text.byteLength text.toList + 1)) := by
  have hlength := byteLength_append_slash text other
  by_cases hempty : other = ""
  · subst hempty
    obtain rfl : ParseError.read ⟨.emptyText, none⟩ = error := Except.error.inj hother
    refine ⟨_, ofText_append_slash_empty h, rfl, 0, rfl, ?_⟩
    show some (Text.byteLength (text ++ "/" ++ "").toList) = _
    rw [hlength, Nat.zero_add]
    rfl
  · have hmoved := ofText_append_slash h hempty
    rw [hother] at hmoved
    obtain ⟨position, hposition, hshifted⟩ := ParseError.position?_shift hlength error
    refine ⟨_, hmoved, ParseError.kind_shift _ _ _ error, position, hposition, ?_⟩
    rw [hshifted, Nat.add_comm]

/-! ## Places of faults -/

/-- The fault of a constraint, as that of a constraint that stands behind others and
was given other segments. -/
def Fault.relocate (offset : Nat) (input : String) : Fault → Fault
  | atConstraint index constraint _ cause => .atConstraint (offset + index) constraint input cause
  | fault => fault

@[simp] theorem Fault.rootCause_relocate (offset : Nat) (input : String) (fault : Fault) :
    (fault.relocate offset input).rootCause = fault.rootCause := by
  cases fault <;> rfl

@[simp] theorem Fault.constraintIndex?_relocate
    (offset : Nat) (input : String) (fault : Fault) :
    (fault.relocate offset input).constraintIndex? =
      fault.constraintIndex?.map (offset + ·) := by
  cases fault <;> rfl

/-! ## Compiling -/

section

variable [RegexLibrary]

theorem Constraint.ofParts_append {parts others : List Part}
    {constraints more : List Constraint}
    (h : ofParts parts = .ok constraints) (hmore : ofParts others = .ok more) :
    ofParts (parts ++ others) = .ok (constraints ++ more) :=
  ofParts_eq_ok_iff.mpr
    (List.rel_append (ofParts_eq_ok_iff.mp h) (ofParts_eq_ok_iff.mp hmore))

/-- The constraints of a joined text are those of both texts. -/
theorem Schema.ofText_append_slash {text other : String} {first second : Schema}
    (hfirst : ofText text = .ok first) (hsecond : ofText other = .ok second) :
    ofText (text ++ "/" ++ other) =
      .ok ⟨text ++ "/" ++ other, first.constraints ++ second.constraints⟩ := by
  obtain ⟨-, parts, hparts, hcompile⟩ := ofText_eq_ok_iff.mp hfirst
  obtain ⟨-, others, hothers, hmore⟩ := ofText_eq_ok_iff.mp hsecond
  obtain ⟨hne, hconstraints⟩ := compile_eq_ok_iff.mp hcompile
  obtain ⟨-, hrest⟩ := compile_eq_ok_iff.mp hmore
  have hjoined : Part.ofText (text ++ "/" ++ other) = .ok (parts ++ others) := by
    rw [Part.ofText_append_slash hparts (Part.ne_empty_of_ofText hothers), hothers]
    rfl
  exact ofText_eq_ok_iff.mpr ⟨rfl, parts ++ others, hjoined,
    compile_eq_ok_iff.mpr ⟨by simp [hne], Constraint.ofParts_append hconstraints hrest⟩⟩

/-! ## Evaluating -/

namespace Plain

variable {step : Constraint → List String → Outcome (List String)}

/-- A run through two lists of constraints goes through the first, and then through the
second with what the first left. -/
theorem consumeAll_append (given : List String) (index : Nat)
    (constraints others : List Constraint) (segments : List String) :
    consumeAll step given index (constraints ++ others) segments =
      (consumeAll step given index constraints segments).andThen
        (consumeAll step given (index + constraints.length) others)
        fun fault => .done (.error fault) := by
  induction constraints generalizing index segments with
  | nil => simp [consumeAll]
  | cons constraint rest ih =>
      have hlength : index + (rest.length + 1) = index + 1 + rest.length := by omega
      rw [List.cons_append, consumeAll, consumeAll, List.length_cons, hlength,
        Outcome.andThen_assoc]
      congr 1
      funext remaining
      exact ih (index + 1) remaining

/-- Where a run begins and what it was given shows only in its faults. -/
theorem consumeAll_relocate (given given' : List String) (offset index : Nat)
    (constraints : List Constraint) (segments : List String) :
    consumeAll step given (offset + index) constraints segments =
      (consumeAll step given' index constraints segments).andThen
        (fun rest => .done (.ok rest))
        fun fault => .done (.error (fault.relocate offset (Path.join given))) := by
  induction constraints generalizing index segments with
  | nil => simp [consumeAll]
  | cons constraint rest ih =>
      rw [consumeAll, consumeAll, Outcome.andThen_assoc, Nat.add_assoc]
      congr 1
      funext remaining
      exact ih (index + 1) remaining

variable {store : Store} {registry : Registry}

/-- The constraints of two schemas are evaluated like the first schema, and then like the
second on what the first has left. -/
theorem evaluate_append (hstore : store.Grounded) (registry : Registry)
    {first second joined : Schema}
    (hjoined : joined.constraints = first.constraints ++ second.constraints)
    (segments : List String) :
    evaluate store registry joined segments =
      (evaluate store registry first segments).andThen
        (fun remaining =>
          (evaluate store registry second remaining).andThen
            (fun rest => .done (.ok rest))
            fun fault =>
              .done (.error
                (fault.relocate first.constraints.length (Path.join segments))))
        fun fault => .done (.error fault) := by
  rw [evaluate_eq_consumeAll hstore, hjoined, consumeAll_append,
    evaluate_eq_consumeAll hstore first]
  congr 1
  funext remaining
  rw [evaluate_eq_consumeAll hstore second, Nat.add_comm 0]
  exact consumeAll_relocate segments remaining first.constraints.length 0 _ _

/-- A schema fails with the fault of one of its constraints. -/
theorem exists_constraintIndex_of_evaluate_eq_error {schema : Schema}
    {segments : List String} {fault : Fault}
    (h : (evaluate store registry schema segments).result? = some (.error fault)) :
    ∃ index < schema.constraints.length, fault.constraintIndex? = some index := by
  obtain ⟨before, constraint, others, remaining, cause, hsplit, -, -, rfl⟩ :=
    result?_consumeAll_eq_error_iff.mp h
  refine ⟨0 + before.length, ?_, rfl⟩
  rw [hsplit]
  simp

end Plain

namespace Schema

/-- Evaluating `joined` comes to what evaluating `first`, and then `second` on what
`first` has left, comes to: the same segments left over or the same root cause, at the
place of the constraint that failed, after the same questions. -/
def EvaluatesInTurn (store : Store) (registry : Registry) (first second joined : Schema)
    (memory : Memory) (segments : List String) : Prop :=
  ∃ result after firstResult middle,
    (joined.evaluate store registry segments).run memory = some (result, after) ∧
    (first.evaluate store registry segments).run memory = some (firstResult, middle) ∧
    match firstResult with
    | .error fault =>
      after.lookups = middle.lookups ∧ result = .error fault ∧
        ∃ index < first.constraints.length, fault.constraintIndex? = some index
    | .ok remaining =>
      ∃ secondResult final,
        (second.evaluate store registry remaining).run middle =
          some (secondResult, final) ∧
        after.lookups = final.lookups ∧
        match secondResult with
        | .ok rest => result = .ok rest
        | .error fault =>
          ∃ index wrapped, fault.constraintIndex? = some index ∧
            result = .error wrapped ∧ wrapped.rootCause = fault.rootCause ∧
            wrapped.constraintIndex? = some (first.constraints.length + index)

theorem evaluatesInTurn_of_constraints_append {store : Store} (hstore : store.Grounded)
    (registry : Registry) {first second joined : Schema}
    (hjoined : joined.constraints = first.constraints ++ second.constraints)
    {memory : Memory} (hmemory : memory.Sound) (segments : List String) :
    EvaluatesInTurn store registry first second joined memory segments := by
  have houtcome := Plain.evaluate_append hstore registry hjoined segments
  obtain ⟨⟨firstResult, asked⟩, hfirst⟩ :=
    Plain.exists_evaluate_eq_some hstore registry first segments
  have hfirstRun := @evaluate_follows _ store registry first segments memory hmemory
  have hjoinedRun := @evaluate_follows _ store registry joined segments memory hmemory
  rw [hfirst] at hfirstRun houtcome
  rw [houtcome] at hjoinedRun
  obtain ⟨middle, hmiddle, hmiddleLookups, hfirstRun⟩ := hfirstRun
  cases firstResult with
  | error fault =>
      obtain ⟨after, -, hafter, hjoinedRun⟩ := hjoinedRun
      obtain ⟨index, hindex, hfault⟩ :=
        Plain.exists_constraintIndex_of_evaluate_eq_error (by rw [hfirst]; rfl)
      refine ⟨.error fault, after, .error fault, middle, hjoinedRun, hfirstRun, ?_, rfl,
        index, hindex, hfault⟩
      rw [hafter, hmiddleLookups, List.append_nil]
  | ok remaining =>
      obtain ⟨⟨secondResult, more⟩, hsecond⟩ :=
        Plain.exists_evaluate_eq_some hstore registry second remaining
      have hsecondRun := @evaluate_follows _ store registry second remaining middle hmiddle
      rw [hsecond] at hsecondRun
      obtain ⟨final, -, hfinal, hsecondRun⟩ := hsecondRun
      have hlookups : memory.lookups ++ (asked ++ (more ++ [])) = final.lookups := by
        rw [hfinal, hmiddleLookups, List.append_nil, List.append_assoc]
      cases secondResult with
      | ok rest =>
          have hreaches : Evaluation.Reaches memory
              ((joined.evaluate store registry segments).run memory)
              (.after asked (.after more (.done (.ok rest)))) := by
            simpa only [Outcome.andThen, hsecond] using hjoinedRun
          obtain ⟨after, -, hafter, hrun⟩ := hreaches
          exact ⟨.ok rest, after, .ok remaining, middle, hrun, hfirstRun, .ok rest, final,
            hsecondRun, hafter.trans hlookups, rfl⟩
      | error fault =>
          obtain ⟨index, -, hindex⟩ :=
            Plain.exists_constraintIndex_of_evaluate_eq_error (by rw [hsecond]; rfl)
          have hreaches : Evaluation.Reaches memory
              ((joined.evaluate store registry segments).run memory)
              (.after asked (.after more (.done (.error
                (fault.relocate first.constraints.length (Path.join segments)))))) := by
            simpa only [Outcome.andThen, hsecond] using hjoinedRun
          obtain ⟨after, -, hafter, hrun⟩ := hreaches
          refine ⟨_, after, .ok remaining, middle, hrun, hfirstRun, .error fault, final,
            hsecondRun, hafter.trans hlookups, index, _, hindex, rfl,
            fault.rootCause_relocate _ _, ?_⟩
          rw [Fault.constraintIndex?_relocate, hindex]
          rfl

/-- Joining two schema texts with a slash composes them.  If the second text is read, the
joined text is read as the parts of both; if not, it fails in the same way, as much
further on as the second text begins.  If both compile, the joined text compiles to the
constraints of both, and is evaluated in a store without cycles like the first and then
like the second. -/
theorem joined_text_composes {text : String} {parts : List Part}
    (hparts : Part.ofText text = .ok parts) (other : String) :
    (∀ others, Part.ofText other = .ok others →
      Part.ofText (text ++ "/" ++ other) = .ok (parts ++ others)) ∧
    (∀ error, Part.ofText other = .error error →
      ∃ moved, Part.ofText (text ++ "/" ++ other) = .error moved ∧
        (Fault.ofParseError (text ++ "/" ++ other) moved).kind =
          (Fault.ofParseError other error).kind ∧
        ∃ position, (Fault.ofParseError other error).position? = some position ∧
          (Fault.ofParseError (text ++ "/" ++ other) moved).position? =
            some (position + (Text.byteLength text.toList + 1))) ∧
    (∀ first second, ofText text = .ok first → ofText other = .ok second →
      ∃ joined, ofText (text ++ "/" ++ other) = .ok joined ∧
        joined.constraints = first.constraints ++ second.constraints ∧
        ∀ (store : Store) (registry : Registry) (memory : Memory)
            (segments : List String),
          store.Acyclic → memory.Sound →
            EvaluatesInTurn store registry first second joined memory segments) := by
  refine ⟨?_, ?_, ?_⟩
  · intro others hothers
    rw [Part.ofText_append_slash hparts (Part.ne_empty_of_ofText hothers), hothers]
    rfl
  · intro error herror
    exact Part.exists_error_of_append_slash hparts herror
  · intro first second hfirst hsecond
    refine ⟨_, ofText_append_slash hfirst hsecond, rfl, ?_⟩
    intro store registry memory segments hstore hmemory
    exact evaluatesInTurn_of_constraints_append hstore.grounded registry rfl hmemory segments

end Schema

end

namespace Schema

/-- A pattern of two bytes and a set, before a second slash in a row and before a
variable. -/
theorem joined_text_composes_after_set :
    Part.ofText "\"ä\"/$[s]" = .ok [.regex "ä", .set "s"] ∧
    (∃ moved, Part.ofText ("\"ä\"/$[s]" ++ "/" ++ "b//c") = .error moved ∧
      (Fault.ofParseError ("\"ä\"/$[s]" ++ "/" ++ "b//c") moved).position? = some 12) ∧
    ∃ first second joined, ofText "\"ä\"/$[s]" = .ok first ∧ ofText "$v/c" = .ok second ∧
      ofText ("\"ä\"/$[s]" ++ "/" ++ "$v/c") = .ok joined ∧
      EvaluatesInTurn (Store.ofEntries [("v", "b")] [("s", ["x", "a"])])
        Registry.builtin first second joined {} ["ä", "a", "b", "b"] := by
  have hparts : Part.ofText "\"ä\"/$[s]" = .ok [.regex "ä", .set "s"] := by
    decide +kernel
  have hstore : Store.Acyclic (Store.ofEntries [("v", "b")] [("s", ["x", "a"])]) :=
    Store.acyclic_of_rank (fun _ => 0) (by decide +kernel)
  obtain ⟨-, hbroken, -⟩ := joined_text_composes hparts "b//c"
  obtain ⟨-, -, hcomposed⟩ := joined_text_composes hparts "$v/c"
  refine ⟨hparts, ?_, ?_⟩
  · obtain ⟨error, herror, hplace⟩ : ∃ error, Part.ofText "b//c" = .error error ∧
        (Fault.ofParseError "b//c" error).position? = some 2 :=
      ⟨.read ⟨.partExpected, some ⟨.ofKind .slash, 2⟩⟩, by decide +kernel, rfl⟩
    obtain ⟨moved, hmoved, -, position, hposition, hplaced⟩ := hbroken error herror
    obtain rfl : 2 = position := Option.some.inj (hplace.symm.trans hposition)
    exact ⟨moved, hmoved, hplaced⟩
  · have hfirst : ofText "\"ä\"/$[s]" =
        .ok ⟨"\"ä\"/$[s]", [.regex ⟨"ä", by decide +kernel⟩, .set "s"]⟩ := by
      decide +kernel
    have hsecond : ofText "$v/c" = .ok ⟨"$v/c", [.var "v" [], .literal "c"]⟩ := by
      decide +kernel
    obtain ⟨joined, hjoined, -, hevaluates⟩ := hcomposed _ _ hfirst hsecond
    exact ⟨_, _, joined, hfirst, hsecond, hjoined,
      hevaluates _ _ _ _ hstore Memory.sound_empty⟩

end Schema

end PathSchema
