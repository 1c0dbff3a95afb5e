import StableTypes.ProgramModel
import StableTypes.TypeRef.Builder
import Mathlib.Data.List.Basic
import Mathlib.Logic.Function.Iterate

/-!
# Substituting twice

Two substitutions, one after the other, are one: its bindings are those of the first with the
second carried out in them, and behind them those of the second. Where a parameter is replaced its
marks are seen through what replaces it, and they stay in front of what the second substitution
adds. The bindings of one substitution never meet each other: what a type mentions afterwards is
what it mentioned before, each bound occurrence exchanged for what its replacement mentions.

An alias is expanded by such a substitution. Along a chain of aliases the arguments of each level
are those written in the target before it, with the bindings of that level carried out in them.
Where every target mentions only names that its level binds, it therefore comes to the same to
substitute before a chain is expanded or after.
-/

namespace StableTypes

namespace Bindings

/-- Bindings with a substitution carried out in what they bind names to. -/
def refinedBy (first second : Bindings) : Bindings :=
  first.map fun (name, bound) => (name, bound.substitute second)

/-- The bindings of two substitutions of which the second is carried out after the first. -/
def followedBy (first second : Bindings) : Bindings := first.refinedBy second ++ second

/-- What a name is bound to after a substitution in the bindings. -/
theorem lookup_refinedBy (first second : Bindings) (name : String) :
    (first.refinedBy second).lookup name = (first.lookup name).map (·.substitute second) := by
  induction first with
  | nil => rfl
  | cons entry first ih =>
    obtain ⟨other, bound⟩ := entry
    rw [refinedBy, List.map_cons, List.lookup_cons, List.lookup_cons]
    cases name == other with
    | true => rfl
    | false => exact ih

/-- A name bound by the first substitution has its replacement there, with the second carried out
in it, and every other name has what the second binds it to. -/
theorem lookup_followedBy (first second : Bindings) (name : String) :
    (first.followedBy second).lookup name =
      ((first.lookup name).map (·.substitute second)).or (second.lookup name) := by
  rw [followedBy, List.lookup_append, lookup_refinedBy]

/-- Names are bound to arguments with a substitution carried out in them as to the arguments with
the substitution carried out afterwards. -/
theorem ofArguments_map_substitute (names : List String) (arguments : List TypeRef)
    (bindings : Bindings) :
    ofArguments names (arguments.map (·.substitute bindings)) =
      (ofArguments names arguments).refinedBy bindings := by
  rw [ofArguments, ofArguments, refinedBy, List.zip_map_right, List.map_reverse]
  rfl

end Bindings

namespace TypeRef

variable {bindings bindings' : Bindings}

/-- What holds of a type if it holds of the types inside it holds of every type. -/
@[elab_as_elim]
theorem insideInduction {motive : TypeRef → Prop}
    (nominal : ∀ declarationId arguments marks, (∀ type ∈ arguments, motive type) →
      motive (.nominal declarationId arguments marks))
    (parameter : ∀ name marks, motive (.parameter name marks))
    (function : ∀ suspending receiver parameters result marks, (∀ type ∈ receiver, motive type) →
      (∀ type ∈ parameters, motive type) → motive result →
      motive (.function suspending receiver parameters result marks))
    (abbreviation : ∀ aliasId arguments marks, (∀ type ∈ arguments, motive type) →
      motive (.alias aliasId arguments marks))
    (type : TypeRef) : motive type :=
  @TypeRef.rec motive (fun types => ∀ type ∈ types, motive type)
    (fun receiver => ∀ type ∈ receiver, motive type)
    nominal parameter function abbreviation
    nofun (fun _ _ first rest => List.forall_mem_cons.mpr ⟨first, rest⟩)
    nofun (fun _ holds _ member => Option.some.inj member ▸ holds) type

/-- In a list of types the bound parameters are replaced in each of them. -/
theorem substituteAll_eq_map (bindings : Bindings) (types : List TypeRef) :
    substituteAll bindings types = types.map (substitute bindings) := by
  induction types with
  | nil => rfl
  | cons type types ih => rw [substituteAll, ih, List.map_cons]

/-- In a receiver the bound parameters are replaced as in a type. -/
theorem substituteReceiver_eq_map (bindings : Bindings) (receiver : Option TypeRef) :
    substituteReceiver bindings receiver = receiver.map (substitute bindings) := by
  cases receiver <;> rfl

/-- Without bindings a type stays as it is. -/
@[simp] theorem substitute_nil (type : TypeRef) : type.substitute [] = type := by
  induction type using insideInduction with
  | nominal declarationId arguments marks inside =>
    rw [substitute, substituteAll_eq_map, List.map_congr_left inside, List.map_id']
  | parameter name marks => rfl
  | function suspending receiver parameters result marks before inside last =>
    rw [substitute, substituteReceiver_eq_map, Option.map_congr before, substituteAll_eq_map,
      List.map_congr_left inside, last, Option.map_id', List.map_id']
  | abbreviation aliasId arguments marks inside =>
    rw [substitute, substituteAll_eq_map, List.map_congr_left inside, List.map_id']

/-- A use seen through two others is seen through both at once, the outer one last. -/
theorem seenThrough_seenThrough (outer inner : Marks) (type : TypeRef) :
    (type.seenThrough inner).seenThrough outer =
      type.seenThrough
        ⟨inner.nullable || outer.nullable, outer.annotations ++ inner.annotations⟩ := by
  cases type <;>
    simp [seenThrough, withMarks, nullable, annotations, TypeRef.marks, Bool.or_assoc]

/-- It comes to the same to replace parameters before a use is seen through another or after. -/
theorem substitute_seenThrough (bindings : Bindings) (outer : Marks) (type : TypeRef) :
    (type.seenThrough outer).substitute bindings =
      (type.substitute bindings).seenThrough outer := by
  cases type with
  | parameter name marks =>
    change substituteParameter bindings name _ =
      (substituteParameter bindings name marks).seenThrough _
    unfold substituteParameter
    cases bindings.lookup name with
    | none => rfl
    | some bound => exact (seenThrough_seenThrough outer marks bound).symm
  | nominal => rfl
  | function => rfl
  | «alias» => rfl

/-- Two substitutions, one after the other, are one. -/
theorem substitute_substitute (first second : Bindings) (type : TypeRef) :
    (type.substitute first).substitute second = type.substitute (first.followedBy second) := by
  have all (types : List TypeRef)
      (each : ∀ type ∈ types, (type.substitute first).substitute second =
        type.substitute (first.followedBy second)) :
      substituteAll second (substituteAll first types) =
        substituteAll (first.followedBy second) types := by
    rw [substituteAll_eq_map, substituteAll_eq_map, substituteAll_eq_map, List.map_map]
    exact List.map_congr_left each
  induction type using insideInduction with
  | nominal declarationId arguments marks inside =>
    rw [substitute, substitute, substitute, all arguments inside]
  | parameter name marks =>
    change (substituteParameter first name marks).substitute second =
      substituteParameter (first.followedBy second) name marks
    rw [substituteParameter, substituteParameter, Bindings.lookup_followedBy]
    cases first.lookup name with
    | none => rfl
    | some bound => exact substitute_seenThrough second marks bound
  | function suspending receiver parameters result marks before inside last =>
    have inFront : substituteReceiver second (substituteReceiver first receiver) =
        substituteReceiver (first.followedBy second) receiver := by
      rw [substituteReceiver_eq_map, substituteReceiver_eq_map, substituteReceiver_eq_map,
        Option.map_map]
      exact Option.map_congr before
    rw [substitute, substitute, substitute, inFront, all parameters inside, last]
  | abbreviation aliasId arguments marks inside =>
    rw [substitute, substitute, substitute, all arguments inside]

mutual

/-- The occurrences of parameters in a type with their marks, in the order written. -/
def occurrences : TypeRef → List (String × Marks)
  | .nominal _ arguments _ => occurrencesAll arguments
  | .parameter name marks => [(name, marks)]
  | .function _ receiver parameters result _ =>
    receiverOccurrences receiver ++ occurrencesAll parameters ++ occurrences result
  | .alias _ arguments _ => occurrencesAll arguments
termination_by structural type => type

/-- The occurrences of parameters in several types. -/
def occurrencesAll : List TypeRef → List (String × Marks)
  | [] => []
  | type :: types => occurrences type ++ occurrencesAll types
termination_by structural types => types

/-- The occurrences of parameters in a receiver. -/
def receiverOccurrences : Option TypeRef → List (String × Marks)
  | none => []
  | some receiver => occurrences receiver
termination_by structural receiver => receiver

end

/-- The occurrences in several types are those in each of them. -/
theorem occurrencesAll_eq_flatMap (types : List TypeRef) :
    occurrencesAll types = types.flatMap occurrences := by
  induction types with
  | nil => rfl
  | cons type types ih => rw [occurrencesAll, ih, List.flatMap_cons]

/-- The parameters that a type mentions are, after a substitution, those of the replacements of
its occurrences, each replacement as it was bound. -/
theorem occurrences_substitute (bindings : Bindings) (type : TypeRef) :
    (type.substitute bindings).occurrences =
      type.occurrences.flatMap fun (name, marks) =>
        (substituteParameter bindings name marks).occurrences := by
  have all (types : List TypeRef) (each : ∀ type ∈ types, (type.substitute bindings).occurrences =
      type.occurrences.flatMap fun (name, marks) =>
        (substituteParameter bindings name marks).occurrences) :
      occurrencesAll (substituteAll bindings types) =
        (occurrencesAll types).flatMap fun (name, marks) =>
          (substituteParameter bindings name marks).occurrences := by
    rw [substituteAll_eq_map, occurrencesAll_eq_flatMap, occurrencesAll_eq_flatMap,
      List.flatMap_map, List.flatMap_assoc]
    exact List.flatMap_congr each
  induction type using insideInduction with
  | nominal declarationId arguments marks inside => exact all arguments inside
  | parameter name marks => exact (List.flatMap_singleton _ _).symm
  | function suspending receiver parameters result marks before inside last =>
    have inFront : receiverOccurrences (substituteReceiver bindings receiver) =
        (receiverOccurrences receiver).flatMap fun (name, marks) =>
          (substituteParameter bindings name marks).occurrences := by
      cases receiver with
      | none => rfl
      | some receiver => exact before receiver rfl
    rw [substitute, occurrences, occurrences, inFront, all parameters inside, last,
      List.flatMap_append, List.flatMap_append]
  | abbreviation aliasId arguments marks inside => exact all arguments inside

/-- Only the bindings of the names that a type mentions matter to a substitution. -/
theorem substitute_congr {type : TypeRef}
    (agree : ∀ occurrence ∈ type.occurrences,
      bindings.lookup occurrence.1 = bindings'.lookup occurrence.1) :
    type.substitute bindings = type.substitute bindings' := by
  have all (types : List TypeRef) (each : ∀ type ∈ types,
      (∀ occurrence ∈ type.occurrences,
        bindings.lookup occurrence.1 = bindings'.lookup occurrence.1) →
      type.substitute bindings = type.substitute bindings')
      (agree : ∀ occurrence ∈ occurrencesAll types,
        bindings.lookup occurrence.1 = bindings'.lookup occurrence.1) :
      substituteAll bindings types = substituteAll bindings' types := by
    rw [substituteAll_eq_map, substituteAll_eq_map]
    rw [occurrencesAll_eq_flatMap] at agree
    exact List.map_congr_left fun type member => each type member fun occurrence inside =>
      agree occurrence (List.mem_flatMap.mpr ⟨type, member, inside⟩)
  induction type using insideInduction with
  | nominal declarationId arguments marks inside =>
    rw [substitute, substitute, all arguments inside agree]
  | parameter name marks =>
    have here := agree (name, marks) (List.mem_singleton.mpr rfl)
    change substituteParameter bindings name marks = substituteParameter bindings' name marks
    rw [substituteParameter, substituteParameter, here]
  | function suspending receiver parameters result marks before inside last =>
    rw [occurrences] at agree
    simp only [List.mem_append, or_imp, forall_and] at agree
    have inFront :
        substituteReceiver bindings receiver = substituteReceiver bindings' receiver := by
      cases receiver with
      | none => rfl
      | some receiver => exact congrArg some (before receiver rfl agree.1.1)
    rw [substitute, substitute, inFront, all parameters inside agree.1.2, last agree.2]
  | abbreviation aliasId arguments marks inside =>
    rw [substitute, substitute, all arguments inside agree]

end TypeRef

/-- A level of a chain of aliases, as the program states it. -/
structure AliasLevel where
  /-- What the alias is defined as. -/
  definition : AliasDefinition
  /-- The arguments of the reference to it. -/
  arguments : List TypeRef
  /-- The marks of the reference to it. -/
  marks : Marks

namespace AliasLevel

/-- The bindings of the parameters of an alias to the arguments stated. -/
def bindings (level : AliasLevel) : Bindings :=
  .ofArguments level.definition.typeParameters level.arguments

/-- Every parameter that the target mentions is bound. -/
def Closed (level : AliasLevel) : Prop :=
  ∀ occurrence ∈ level.definition.target.occurrences,
    (level.bindings.lookup occurrence.1).isSome = true

instance (level : AliasLevel) : Decidable level.Closed :=
  inferInstanceAs (Decidable (∀ occurrence ∈ level.definition.target.occurrences,
    (level.bindings.lookup occurrence.1).isSome = true))

end AliasLevel

namespace ProgramModel

/-- A type is a reference through an alias, whose target is a reference through the next one, and
so on through the levels listed. -/
inductive LeadsThrough (model : ProgramModel) : TypeRef → List AliasLevel → Prop
  /-- No level need be listed. -/
  | stop (type : TypeRef) : LeadsThrough model type []
  /-- A reference through a known alias leads through it and through what its target does. -/
  | level {aliasId : String} {arguments : List TypeRef} {marks : Marks}
      {definition : AliasDefinition} {levels : List AliasLevel} :
      Table.get? aliasId model.aliases = some definition →
      LeadsThrough model definition.target levels →
      LeadsThrough model (.alias aliasId arguments marks)
        (⟨definition, arguments, marks⟩ :: levels)

end ProgramModel

/-- What a chain of aliases stands for where its first type is seen under bindings: at each level
the arguments are those stated, with the bindings of the level before carried out in them. -/
def TypeRef.through (bindings : Bindings) (type : TypeRef) : List AliasLevel → TypeRef
  | [] => type.substitute bindings
  | level :: levels =>
    (through (level.bindings.refinedBy bindings) level.definition.target levels).seenThrough
      level.marks

namespace ProgramModel

variable {model : ProgramModel} {type : TypeRef} {levels : List AliasLevel}

/-- It comes to the same to expand an alias before a use is seen through another or after. -/
theorem expandAlias_seenThrough (model : ProgramModel) (outer : Marks) (type : TypeRef) :
    model.expandAlias (type.seenThrough outer) = (model.expandAlias type).seenThrough outer := by
  cases type with
  | nominal => rfl
  | parameter => rfl
  | function => rfl
  | «alias» aliasId arguments marks =>
    simp only [expandAlias, expansion?, TypeRef.seenThrough, TypeRef.withMarks]
    cases Table.get? aliasId model.aliases with
    | none => rfl
    | some definition => exact (TypeRef.seenThrough_seenThrough outer marks _).symm

/-- The same for several levels. -/
theorem iterate_expandAlias_seenThrough (model : ProgramModel) (outer : Marks) (type : TypeRef)
    (count : Nat) :
    model.expandAlias^[count] (type.seenThrough outer) =
      (model.expandAlias^[count] type).seenThrough outer := by
  induction count generalizing type with
  | zero => rfl
  | succ count ih =>
    rw [Function.iterate_succ_apply, Function.iterate_succ_apply, expandAlias_seenThrough, ih]

/-- Expanding a chain of aliases substitutes at every level. -/
theorem iterate_expandAlias (chain : model.LeadsThrough type levels) (bindings : Bindings) :
    model.expandAlias^[levels.length] (type.substitute bindings) =
      type.through bindings levels := by
  induction chain generalizing bindings with
  | stop type => rfl
  | @level aliasId arguments marks definition levels known _ ih =>
    have first : model.expandAlias ((TypeRef.alias aliasId arguments marks).substitute bindings) =
        (definition.target.substitute
          ((Bindings.ofArguments definition.typeParameters arguments).refinedBy
            bindings)).seenThrough marks := by
      rw [TypeRef.substitute, TypeRef.substituteAll_eq_map, expandAlias, expansion?, known,
        Option.map_some, Option.getD_some, expansion, Bindings.ofArguments_map_substitute]
    rw [List.length_cons, Function.iterate_succ_apply, first, iterate_expandAlias_seenThrough, ih]
    rfl

/-- Only the bindings of the names that the first type of a chain mentions matter. -/
theorem through_congr {bindings bindings' : Bindings} (chain : model.LeadsThrough type levels)
    (agree : ∀ occurrence ∈ type.occurrences,
      bindings.lookup occurrence.1 = bindings'.lookup occurrence.1) :
    type.through bindings levels = type.through bindings' levels := by
  cases chain with
  | stop => exact TypeRef.substitute_congr agree
  | @level aliasId arguments marks definition levels known _ =>
    have same := TypeRef.substitute_congr agree
    simp only [TypeRef.substitute, TypeRef.substituteAll_eq_map, TypeRef.alias.injEq,
      true_and, and_true] at same
    rw [TypeRef.through, TypeRef.through, AliasLevel.bindings,
      ← Bindings.ofArguments_map_substitute, ← Bindings.ofArguments_map_substitute, same]

/-- Where every level binds what its target mentions, a second substitution may as well be carried
out in what the chain stands for. -/
theorem through_followedBy (chain : model.LeadsThrough type levels)
    (closed : ∀ level ∈ levels, level.Closed) (first second : Bindings) :
    type.through (first.followedBy second) levels =
      (type.through first levels).substitute second := by
  induction chain generalizing first with
  | stop type => exact (type.substitute_substitute first second).symm
  | @level aliasId arguments marks definition levels known rest ih =>
    obtain ⟨here, later⟩ := List.forall_mem_cons.mp closed
    rw [TypeRef.through, TypeRef.through, TypeRef.substitute_seenThrough, ← ih later]
    refine congrArg _ (through_congr rest fun occurrence mentioned => ?_)
    obtain ⟨bound, found⟩ := Option.isSome_iff_exists.mp (here occurrence mentioned)
    rw [Bindings.lookup_followedBy, Bindings.lookup_refinedBy, Bindings.lookup_refinedBy, found,
      Option.map_some, Option.map_some, Option.map_some, Option.some_or,
      TypeRef.substitute_substitute]

end ProgramModel

/-- Two substitutions, one after the other, are one, marks included. The replacements of one
substitution are left as they are bound. A chain of aliases is expanded by such a substitution at
every level, and where every level binds what its target mentions, a substitution before the
expansion comes to the same as one after it. -/
theorem substitutions_compose :
    (∀ first second : Bindings,
      (∀ name, (first.followedBy second).lookup name =
        ((first.lookup name).map (·.substitute second)).or (second.lookup name)) ∧
      ∀ type : TypeRef,
        (type.substitute first).substitute second = type.substitute (first.followedBy second)) ∧
    (∀ (bindings : Bindings) (type : TypeRef),
      (type.substitute bindings).occurrences =
        type.occurrences.flatMap fun (name, marks) =>
          (bindings.lookup name).elim [(name, marks)] fun bound =>
            (bound.seenThrough marks).occurrences) ∧
    ∀ (model : ProgramModel) (type : TypeRef) (levels : List AliasLevel),
      model.LeadsThrough type levels → ∀ bindings : Bindings,
        model.expandAlias^[levels.length] (type.substitute bindings) =
          type.through bindings levels ∧
        ((∀ level ∈ levels, level.Closed) →
          model.expandAlias^[levels.length] (type.substitute bindings) =
            (model.expandAlias^[levels.length] type).substitute bindings) := by
  refine ⟨fun first second => ⟨first.lookup_followedBy second,
    TypeRef.substitute_substitute first second⟩, ?_, ?_⟩
  · intro bindings type
    rw [TypeRef.occurrences_substitute]
    refine List.flatMap_congr fun (name, marks) _ => ?_
    dsimp only
    rw [TypeRef.substituteParameter]
    cases bindings.lookup name <;> rfl
  · intro model type levels chain bindings
    have expanded := ProgramModel.iterate_expandAlias chain
    refine ⟨expanded bindings, fun closed => ?_⟩
    have plain := expanded []
    rw [TypeRef.substitute_nil] at plain
    rw [expanded, plain]
    exact ProgramModel.through_followedBy chain closed [] bindings

/-- A program with an alias for a pair and one for the same pair the other way round. -/
def swappingProgram : ProgramModel :=
  { (default : ProgramModel) with
    aliases := .ofList [
      ("Both", ⟨["A", "B"], .ofClass "Pair" (some [.ofParameter "A", .ofParameter "B"])⟩),
      ("Swapped", ⟨["A", "B"], .ofAlias "Both" (some [.ofParameter "B", .ofParameter "A"])⟩)] }

/-- The arguments are swapped also where they are named like the parameters of the aliases, and a
parameter among them may be replaced before the aliases are expanded or after. -/
theorem swapped_arguments_expand :
    let type : TypeRef := .ofAlias "Swapped" (some [.ofParameter "B", .ofParameter "A"])
    let bindings : Bindings := [("A", .ofClass "Int")]
    swappingProgram.expandAlias^[2] (type.substitute bindings) =
        .ofClass "Pair" (some [.ofClass "Int", .ofParameter "B"]) ∧
      swappingProgram.expandAlias^[2] (type.substitute bindings) =
        (swappingProgram.expandAlias^[2] type).substitute bindings := by
  intro type bindings
  have chain : swappingProgram.LeadsThrough type
      [⟨⟨["A", "B"], .ofAlias "Both" (some [.ofParameter "B", .ofParameter "A"])⟩,
          [.ofParameter "B", .ofParameter "A"], {}⟩,
        ⟨⟨["A", "B"], .ofClass "Pair" (some [.ofParameter "A", .ofParameter "B"])⟩,
          [.ofParameter "B", .ofParameter "A"], {}⟩] :=
    .level rfl (.level rfl (.stop _))
  obtain ⟨expanded, commutes⟩ := substitutions_compose.2.2 _ _ _ chain bindings
  exact ⟨expanded, commutes (by decide)⟩

end StableTypes
