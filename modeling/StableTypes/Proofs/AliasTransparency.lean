import StableTypes.Proofs.SettledVerdict

/-!
# Aliases are transparent

In a program given as a snapshot a type behind an alias has the verdict of the type that the
alias stands for, also where declarations refer to each other in cycles and the alias makes
a cycle be followed once more before it is noticed. This needs that no two types that come
up have one text, that no alias on the way is taken to be stuck because the next one has
the same text, and that no class in a cycle comes out unstable that was found to be stable
before. Without any of the three there are counterexamples.
-/

namespace StableTypes

/-- One level of an alias is expanded. -/
def TypeModel.ExpandsTo (model : TypeModel) (type next : TypeRef) : Prop :=
  type.isAlias = true ∧ model.expandAlias type = .ok next

/-- No level of the aliases of a type leads to an alias with the same text. -/
def TypeModel.TextsChange (model : TypeModel) (type : TypeRef) : Prop :=
  ∀ before next, Relation.ReflTransGen model.ExpandsTo type before →
    model.ExpandsTo before next → next.isAlias = true → next.render ≠ before.render

/-- The texts behind the first level change where all do. -/
theorem TypeModel.TextsChange.tail {model : TypeModel} {type next : TypeRef}
    (change : model.TextsChange type) (first : model.ExpandsTo type next) :
    model.TextsChange next :=
  fun before after leads => change before after (.head first leads)

/-- A type that is no alias is not expanded. -/
theorem TypeModel.not_expandsTo_of_plain {model : TypeModel} {type next : TypeRef}
    (plain : type.isAlias = false) : ¬ model.ExpandsTo type next := by
  rintro ⟨abbreviates, -⟩
  rw [plain] at abbreviates
  cases abbreviates

/-- An alias for a type that is no alias has no other one behind it. -/
theorem TypeModel.TextsChange.of_plain {model : TypeModel} {type expanded : TypeRef}
    (answer : model.expandAlias type = .ok expanded) (plain : expanded.isAlias = false) :
    model.TextsChange type := by
  intro before next leads last again
  have only {other : TypeRef} (first : model.ExpandsTo type other) : other = expanded :=
    Except.ok.inj (first.2.symm.trans answer)
  rcases leads.cases_head with rfl | ⟨middle, first, rest⟩
  · rw [only last, plain] at again
    cases again
  · obtain rfl := only first
    rcases rest.cases_head with rfl | ⟨_, second, -⟩
    · exact absurd last (not_expandsTo_of_plain plain)
    · exact absurd second (not_expandsTo_of_plain plain)

namespace Judge

/-- A classification follows the aliases of a type to the end where each level changes the
text. -/
theorem expandWithin_of_expands {model : TypeModel} {start type expanded : TypeRef}
    {taken levels : Nat} (few : taken ≤ levels) (expands : model.Expands taken type expanded)
    (change : model.TextsChange type) :
    expandWithin model start levels type = .ok (.reached expanded) := by
  induction expands generalizing levels with
  | done plain =>
    cases levels <;> rw [expandWithin, if_neg (by simp [plain])]
  | @level taken type next expanded abbreviates answer rest ih =>
    obtain ⟨levels, rfl⟩ : ∃ left, levels = left + 1 := ⟨levels - 1, by omega⟩
    have first : model.ExpandsTo type next := ⟨abbreviates, answer⟩
    have other : ¬ (next.isAlias && next.render = type.render) = true := by
      rw [Bool.and_eq_true, decide_eq_true_eq]
      exact fun same => change type next .refl first same.1 same.2
    rw [expandWithin, if_pos abbreviates, answer]
    dsimp only
    rw [if_neg other]
    exact ih (by omega) (change.tail first)

/-- A type that is expanded ends in one that is no alias. -/
theorem isAlias_of_expands {model : TypeModel} {type expanded : TypeRef} {levels : Nat}
    (expands : model.Expands levels type expanded) : expanded.isAlias = false := by
  induction expands with
  | done plain => exact plain
  | level _ _ _ ih => exact ih

/-- A type that comes up while one of two types is classified. -/
def ComesUp (judge : Judge) (first second type : TypeRef) : Prop :=
  Relation.ReflTransGen judge.HasPart first type ∨ Relation.ReflTransGen judge.HasPart second type

/-- While types of a snapshot are classified only finitely many signatures come up. -/
theorem coherent_comesUp {snapshot : Snapshot} {catalog : Catalog} {policy : Policy}
    {judge : Judge} (ofThem : judge = ofSnapshot snapshot catalog policy) {first second : TypeRef}
    (texts : judge.TextsDecide (judge.ComesUp first second)) :
    judge.Coherent (judge.ComesUp first second) where
  parts := by
    rintro type part (leads | leads) member
    · exact .inl (leads.tail member)
    · exact .inr (leads.tail member)
  finite := by
    subst ofThem
    have members {start type : TypeRef} (leads : Relation.ReflTransGen
        (ofSnapshot snapshot catalog policy).HasPart start type) :
        type.signature ∈ snapshot.signaturesFrom start :=
      Snapshot.signature_mem_signaturesFrom
        (Relation.ReflTransGen.mono (fun _ _ => Snapshot.hasMember_of_hasPart) _ _ leads)
    refine ((snapshot.finite_signaturesFrom first).union
      (snapshot.finite_signaturesFrom second)).subset ?_
    rintro _ ⟨type, leads | leads, rfl⟩
    · exact .inl (members leads)
    · exact .inr (members leads)
  texts := texts

/-- A type of a snapshot has the verdict of the type that its aliases stand for, if neither
classification is cut off for want of room. Each level of the aliases has to change the text,
types that come up and have one signature have to be expanded to one type, and in neither
classification may a class in a cycle come out unstable that was found to be stable before. -/
theorem aliases_are_transparent (snapshot : Snapshot) (catalog : Catalog) (policy : Policy)
    (judge : Judge) (ofThem : judge = ofSnapshot snapshot catalog policy)
    {type expanded : TypeRef} (standsFor : judge.model.StandsFor type expanded)
    (fits : ∀ event ∈ (judge.record type judge.freshGuard).2.2, event.Fits)
    (fits' : ∀ event ∈ (judge.record expanded judge.freshGuard).2.2, event.Fits)
    (change : judge.model.TextsChange type)
    (texts : judge.TextsDecide (judge.ComesUp type expanded))
    (inference : judge.InferenceHoldsInCycles (.start judge.freshGuard.room type))
    (inference' : judge.InferenceHoldsInCycles (.start judge.freshGuard.room expanded)) :
    ∃ verdict, judge.freshVerdict type = .ok verdict ∧
      judge.freshVerdict expanded = .ok verdict := by
  have coherent := coherent_comesUp ofThem texts
  obtain ⟨levels, few, expands⟩ := standsFor
  have reaches : judge.model.Reaches type expanded := expandWithin_of_expands few expands change
  have reaches' : judge.model.Reaches expanded expanded := by
    have plain := isAlias_of_expands expands
    unfold TypeModel.Reaches expandAliases maxAliasExpansions
    rw [expandWithin, if_neg (by simp [plain])]
  -- With more room than any path of signatures needs, both outcomes are what they were.
  let extra := 2 * (TypeRef.signature '' {reached | judge.ComesUp type expanded reached}).ncard
  have uncut : judge.Uncut (.start judge.freshGuard.room type) := uncut_of_fits fits
  have uncut' : judge.Uncut (.start judge.freshGuard.room expanded) := uncut_of_fits fits'
  have outcome : judge.outcomeUnder (judge.freshGuard.room + extra) [] type =
      judge.outcomeOn judge.freshGuard type := uncut.outcomeAt_withMore extra
  have outcome' : judge.outcomeUnder (judge.freshGuard.room + extra) [] expanded =
      judge.outcomeOn judge.freshGuard expanded := uncut'.outcomeAt_withMore extra
  have verdicts : (judge.outcomeOn judge.freshGuard type).verdict =
      (judge.outcomeOn judge.freshGuard expanded).verdict := by
    rw [← outcome, ← outcome']
    exact verdict_outcomeUnder_of_reaches coherent (Nat.le_add_left _ _) (.inl .refl) (.inr .refl)
      (inference.withMore uncut extra) (inference'.withMore uncut' extra) reaches reaches' rfl
  refine ⟨_, judge.freshVerdict_eq type, ?_⟩
  rw [freshVerdict_eq, verdicts]

end Judge

/-- Nodes were found to be stable before. They have a state, and the next node is given through an
alias. -/
def DeclarationShape.node : DeclarationShape :=
  { finalClass "Node" with
    properties :=
      [⟨"state", .nominal "State" none {}, false⟩, ⟨"next", .alias "Chain" none {}, false⟩]
    inferredParameters := some 0 }

/-- A state has a value that is assigned, but is annotated as stable. -/
def DeclarationShape.state : DeclarationShape :=
  { finalClass "State" with
    properties := [⟨"value", .nominal "State" none {}, true⟩]
    annotations := ["Stable"] }

/-- Nodes, their states, and an alias for nodes. -/
def Snapshot.chain : Snapshot where
  declarations := [.node, .state]
  aliases := [⟨"Chain", [], .nominal "Node" none {}⟩]
  callables := []

namespace Judge

/-- The nodes and their alias, with one annotation for a promise of stability. -/
def ofChain : Judge :=
  ofSnapshot .chain { (default : Catalog) with stableAnnotations := ["Stable"] } (.ofOptions {})

/-- The alias stands for the class of nodes. -/
theorem standsFor_ofChain : ofChain.model.StandsFor (.ofAlias "Chain") (.ofClass "Node") :=
  ⟨1, by decide, .level rfl rfl (.done rfl)⟩

/-- Only the alias and the classes of nodes and states come up. -/
theorem eq_of_comesUp_ofChain {type : TypeRef}
    (comes : ofChain.ComesUp (.ofAlias "Chain") (.ofClass "Node") type) :
    type = .ofAlias "Chain" ∨ type = .ofClass "Node" ∨ type = .ofClass "State" := by
  have parts {before part : TypeRef} (member : ofChain.HasPart before part)
      (known : before = .ofAlias "Chain" ∨ before = .ofClass "Node" ∨ before = .ofClass "State") :
      part = .ofAlias "Chain" ∨ part = .ofClass "Node" ∨ part = .ofClass "State" := by
    have listed : part ∈ [TypeRef.ofClass "State", .ofAlias "Chain"] ∨
        part ∈ [TypeRef.ofClass "State"] := by
      rcases known with rfl | rfl | rfl
      · exact .inl (Snapshot.mem_memberTypes_of_hasPart standsFor_ofChain member)
      · exact .inl (Snapshot.mem_memberTypes_of_hasPart (.itself _ rfl) member)
      · exact .inr (Snapshot.mem_memberTypes_of_hasPart (.itself _ rfl) member)
    simp only [List.mem_cons, List.not_mem_nil, or_false] at listed
    rcases listed with (rfl | rfl) | rfl <;> simp
  have path {start reached : TypeRef} (leads : Relation.ReflTransGen ofChain.HasPart start reached)
      (known : start = .ofAlias "Chain" ∨ start = .ofClass "Node" ∨ start = .ofClass "State") :
      reached = .ofAlias "Chain" ∨ reached = .ofClass "Node" ∨ reached = .ofClass "State" := by
    induction leads with
    | refl => exact known
    | tail _ member ih => exact parts member ih
  rcases comes with leads | leads
  · exact path leads (.inl rfl)
  · exact path leads (.inr (.inl rfl))

/-- Nodes lead to nodes. -/
theorem recurs_ofChain : ofChain.Recurs (.ofClass "Node") := by
  have refers : ofChain.model.RefersTo (.ofClass "Node") (Declaration.ofShape .node) :=
    (TypeModel.StandsFor.itself _ rfl).refersTo_iff.mpr ⟨rfl, rfl⟩
  have next : ofChain.catalog.Part (Declaration.ofShape .node) (.ofAlias "Chain") :=
    @Catalog.Part.property _ _ ⟨"next", .ofAlias "Chain", false⟩ (.tail _ (.head _))
  exact ⟨_, .ofAlias "Chain", refers, .single ⟨_, refers, next⟩,
    standsFor_ofChain.refersTo_iff.mpr ⟨rfl, rfl⟩⟩

/-- A part of nodes can be changed in place. -/
theorem hasMutableWitness_ofChain : ofChain.HasMutableWitness (.ofClass "Node") := by
  have refers : ofChain.model.RefersTo (.ofClass "Node") (Declaration.ofShape .node) :=
    (TypeModel.StandsFor.itself _ rfl).refersTo_iff.mpr ⟨rfl, rfl⟩
  have state : ofChain.catalog.Part (Declaration.ofShape .node) (.ofClass "State") :=
    @Catalog.Part.property _ _ ⟨"state", .ofClass "State", false⟩ (.head _)
  have assigned : ofChain.Mutable (Declaration.ofShape .state) :=
    @Mutable.property _ _ ⟨"value", .ofClass "State", true⟩ (.head _) rfl
  exact ⟨.ofClass "State", .single ⟨_, refers, state⟩, Declaration.ofShape .state,
    (TypeModel.StandsFor.itself _ rfl).refersTo_iff.mpr ⟨rfl, rfl⟩, assigned⟩

/-- The alias stands for the class of nodes, which leads back to itself and to something that can be
changed in place, and the two have one verdict. -/
theorem chain_is_transparent :
    ofChain.model.StandsFor (.ofAlias "Chain") (.ofClass "Node") ∧
    ofChain.Recurs (.ofClass "Node") ∧ ofChain.HasMutableWitness (.ofClass "Node") ∧
    ∃ verdict, ofChain.freshVerdict (.ofAlias "Chain") = .ok verdict ∧
      ofChain.freshVerdict (.ofClass "Node") = .ok verdict := by
  have inference (visit : Visit) : ofChain.InferenceHoldsInCycles visit :=
    fun _ _ _ _ _ _ _ _ _ => isUnstable_outcomeWithin_ofSnapshot (by decide) (by decide) _ _ _
  refine ⟨standsFor_ofChain, recurs_ofChain, hasMutableWitness_ofChain,
    aliases_are_transparent .chain _ (.ofOptions {}) ofChain rfl standsFor_ofChain
      (by decide) (by decide) (.of_plain rfl rfl) ?_ (inference _) (inference _)⟩
  intro type other comes comes' same expanded reaches
  -- The texts of the three types differ, so the types are the same.
  obtain rfl : type = other := by
    rcases eq_of_comesUp_ofChain comes with rfl | rfl | rfl <;>
      rcases eq_of_comesUp_ofChain comes' with rfl | rfl | rfl <;>
      first | rfl | exact absurd same (by decide)
  exact ⟨expanded, reaches, rfl⟩

/-- The first type stands for the second, neither classification is cut off for want of room, and
these are the verdicts. -/
structure ComeApart (judge : Judge) (type expanded : TypeRef) (verdict verdict' : Verdict) :
    Prop where
  /-- The type stands for the other one. -/
  standsFor : judge.model.StandsFor type expanded
  /-- There is room for the classification of the type. -/
  fits : ∀ event ∈ (judge.record type judge.freshGuard).2.2, event.Fits
  /-- There is room for the classification of the other type. -/
  fits' : ∀ event ∈ (judge.record expanded judge.freshGuard).2.2, event.Fits
  /-- The verdict on the type. -/
  verdict : judge.freshVerdict type = .ok verdict
  /-- The verdict on the other type. -/
  verdict' : judge.freshVerdict expanded = .ok verdict'

end Judge

/-- Orders were found to be stable before, but an item extends orders and a stock that can be
changed in place. A purchase is an order. -/
def Snapshot.overtrusted : Snapshot where
  declarations := [
    { DeclarationShape.finalClass "Order" with
      modality := .opened
      properties := [⟨"item", .nominal "Item" none {}, false⟩]
      inferredParameters := some 0 },
    { DeclarationShape.finalClass "Item" with
      supertypes := [.nominal "Order" none {}, .nominal "Stock" none {}] },
    { DeclarationShape.finalClass "Stock" with
      modality := .opened
      properties := [⟨"count", .nominal "Stock" none {}, true⟩] }]
  aliases := [⟨"Purchase", [], .nominal "Order" none {}⟩]
  callables := []

/-- Orders have items, and an alias for orders has the text of the class of items. -/
def Snapshot.sharedText : Snapshot where
  declarations := [
    { DeclarationShape.finalClass "Order" with
      properties := [⟨"item", .nominal "Item" none {}, false⟩] },
    DeclarationShape.finalClass "Item"]
  aliases := [⟨"Item", [], .nominal "Order" none {}⟩]
  callables := []

/-- An alias stands for another one that has the same text, and that for the class of items. -/
def Snapshot.repeatedText : Snapshot where
  declarations := [DeclarationShape.finalClass "Item"]
  aliases := [⟨"Box<Item>", [], .alias "Box" (some [.nominal "Item" none {}]) {}⟩,
    ⟨"Box", [], .nominal "Item" none {}⟩]
  callables := []

open Judge in
/-- Without the conditions the verdicts on an alias and on what it stands for can be different:
around a class that was wrongly found to be stable before, with one text for two types, and with
one text for two aliases in a row. -/
theorem Judge.aliases_come_apart :
    (ofSnapshot .overtrusted default (.ofOptions {})).ComeApart
      (.ofAlias "Purchase") (.ofClass "Order") .unstable .stable ∧
    (ofSnapshot .sharedText default (.ofOptions {})).ComeApart
      (.ofAlias "Item") (.ofClass "Order") .runtime .stable ∧
    (ofSnapshot .repeatedText default (.ofOptions {})).ComeApart
      (.ofAlias "Box<Item>") (.ofClass "Item") .runtime .stable := by
  refine ⟨⟨⟨1, by decide, .level rfl rfl (.done rfl)⟩, ?_, ?_, ?_, ?_⟩,
    ⟨⟨1, by decide, .level rfl rfl (.done rfl)⟩, ?_, ?_, ?_, ?_⟩,
    ⟨⟨2, by decide, .level rfl rfl (.level rfl rfl (.done rfl))⟩, ?_, ?_, ?_, ?_⟩⟩
  all_goals decide

end StableTypes
