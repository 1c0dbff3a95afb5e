import StableTypes.Regex.Basic
import StableTypes.Text.Units

/-!
# Matching

Backtracking in the order of preference: the first alternative before the
second, more rounds before fewer unless the iteration is lazy. An expression is
run at a cursor with the work that is left as a continuation, so the answer is
the most preferred match of the whole. An iteration forgets the captures of its
body at every round and stops at a round beyond the required ones that consumes
nothing, so the text left bounds the number of rounds.
-/

namespace StableTypes.Regex

/-- A place in a text and the captures made on the way to it. -/
structure Cursor where
  /-- The number of units before the place. -/
  position : Nat
  /-- The units before the place, the nearest first. -/
  before : List Nat
  /-- The units from the place on. -/
  after : List Nat
  /-- Captured texts by index, the latest first. -/
  captures : List (Nat × List Nat)

/-- The start of a text. -/
def Cursor.ofUnits (text : List Nat) : Cursor := ⟨0, [], text, []⟩

/-- The next unit in reading direction and the cursor behind it. -/
def Cursor.next (forward : Bool) (here : Cursor) : Option (Nat × Cursor) :=
  if forward then
    match here.after with
    | [] => none
    | unit :: rest =>
      some (unit, ⟨here.position + 1, unit :: here.before, rest, here.captures⟩)
  else
    match here.before with
    | [] => none
    | unit :: rest =>
      some (unit, ⟨here.position - 1, rest, unit :: here.after, here.captures⟩)

/-- The captured text of an index. -/
def Cursor.captured? (index : Nat) (here : Cursor) : Option (List Nat) :=
  here.captures.lookup index

/-- Remembers the text between a cursor and where it started under an index. -/
def Cursor.remember (here : Cursor) (index : Nat) (start : Cursor) : Cursor :=
  let text :=
    if start.position ≤ here.position then start.after.take (here.position - start.position)
    else here.after.take (start.position - here.position)
  { here with captures := (index, text) :: here.captures.filter (·.1 ≠ index) }

/-- Forgets the captures of the `held` indices after `opened`. -/
def Cursor.forget (opened held : Nat) (here : Cursor) : Cursor :=
  if held = 0 then here
  else { here with
    captures := here.captures.filter fun entry => entry.1 ≤ opened || opened + held < entry.1 }

/-- Units left in reading direction. -/
def Cursor.left (forward : Bool) (here : Cursor) : Nat :=
  if forward then here.after.length else here.before.length

/-- The place is next to a word unit on exactly one side. -/
def Cursor.isWordEdge (here : Cursor) : Bool :=
  let wordBefore := here.before.head?.any isWord
  let wordAfter := here.after.head?.any isWord
  wordBefore != wordAfter

/-- Consumes a unit that passes a test. -/
def Cursor.accept (forward : Bool) (test : Nat → Bool) (here : Cursor) : Option Cursor :=
  match here.next forward with
  | some (unit, there) => if test unit then some there else none
  | none => none

/-- Consumes a given word, whose units come in reading direction. -/
def Cursor.acceptAll (forward : Bool) : List Nat → Cursor → Option Cursor
  | [], here => some here
  | unit :: word, here =>
    match here.accept forward (· == unit) with
    | some there => there.acceptAll forward word
    | none => none

/-- The rounds of an iteration whose body is given as a runner. `least` rounds
are still required and `most` allowed; `fuel` bounds the rounds. -/
def rounds (body : Cursor → (Cursor → Option Cursor) → Option Cursor) (greedy : Bool)
    (opened held : Nat) :
    (fuel least : Nat) → (most : Option Nat) → Cursor → (Cursor → Option Cursor) → Option Cursor
  | 0, _, _, _, _ => none
  | fuel + 1, least, most, here, rest =>
    if most = some 0 then rest here
    else
      let again (there : Cursor) : Option Cursor :=
        if least = 0 ∧ there.position = here.position then none
        else rounds body greedy opened held fuel (least - 1) (most.map (· - 1)) there rest
      let once (_ : Unit) : Option Cursor := body (here.forget opened held) again
      if 0 < least then once ()
      else if greedy then
        match once () with
        | some found => some found
        | none => rest here
      else
        match rest here with
        | some found => some found
        | none => once ()

/-- Runs an expression at a cursor, in reading direction, before the work `rest`. -/
def run : (expression : Regex) → (forward : Bool) → Cursor → (Cursor → Option Cursor) →
    Option Cursor
  | .empty, _, here, rest => rest here
  | .exactly code, forward, here, rest => (here.accept forward (· == code)).bind rest
  | .oneOf negated ranges, forward, here, rest =>
    (here.accept forward fun unit => holds ranges unit != negated).bind rest
  | .seq first second, forward, here, rest =>
    if forward then run first forward here fun there => run second forward there rest
    else run second forward here fun there => run first forward there rest
  | .alt first second, forward, here, rest =>
    match run first forward here rest with
    | some found => some found
    | none => run second forward here rest
  | .capture index body, forward, here, rest =>
    run body forward here fun there => rest (there.remember index here)
  | .iterate least most greedy opened held body, forward, here, rest =>
    rounds (fun place more => run body forward place more) greedy opened held
      (least + here.left forward + 1) least most here rest
  | .atStart lines, _, here, rest =>
    if here.before.isEmpty || (lines && here.before.head?.any isLineEnd) then rest here else none
  | .atEnd lines, _, here, rest =>
    if here.after.isEmpty || (lines && here.after.head?.any isLineEnd) then rest here else none
  | .wordEdge negated, _, here, rest =>
    if here.isWordEdge != negated then rest here else none
  | .look ahead negated body, _, here, rest =>
    match run body ahead here some with
    | some found => if negated then none else rest { here with captures := found.captures }
    | none => if negated then rest here else none
  | .back index, forward, here, rest =>
    match here.captured? index with
    | none => rest here
    | some word => (here.acceptAll forward (if forward then word else word.reverse)).bind rest
termination_by structural expression => expression

/-- The first match at or after a place: where it starts and where it ends. -/
def searchFrom (expression : Regex) : (position : Nat) → (before after : List Nat) →
    Option (Cursor × Cursor)
  | position, before, [] =>
    let here : Cursor := ⟨position, before, [], []⟩
    (run expression true here some).map (here, ·)
  | position, before, unit :: rest =>
    let here : Cursor := ⟨position, before, unit :: rest, []⟩
    match run expression true here some with
    | some there => some (here, there)
    | none => searchFrom expression (position + 1) (unit :: before) rest

/-- Some part of a text matches. -/
def test (expression : Regex) (text : List Nat) : Bool :=
  (searchFrom expression 0 [] text).isSome

end StableTypes.Regex
