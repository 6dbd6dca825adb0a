/-
Module: Formicary.Brain.Instruction
Purpose: The instructions of an ant's brain and their written form.
Main exports: Gaze, Rotation, Marker, Condition, Instruction, Instruction.words, Instruction.text,
  Instruction.successors
-/

namespace Formicary

/-!
A brain is a finite state machine. Each of its instructions names the states the ant may be in
afterwards, as positions in the brain's list of instructions.
-/

/-- Position of an instruction in its brain. -/
abbrev State := Nat

/-- A scent that a colony can leave on a cell. There are six of them. -/
abbrev Marker := Fin 6

/-- The cell an ant looks at, seen from where it faces. -/
inductive Gaze where
  | here
  | ahead
  | leftAhead
  | rightAhead
deriving DecidableEq, Repr, Inhabited

/-- The two ways to turn on the spot. -/
inductive Rotation where
  | left
  | right
deriving DecidableEq, Repr, Inhabited

/-- What an ant can ask about a cell. Friend and foe, home and foe's home are relative to the colony
of the ant that asks. -/
inductive Condition where
  | friend
  | foe
  | friendWithFood
  | foeWithFood
  | food
  | rock
  | marker (m : Marker)
  | foeMarker
  | home
  | foeHome
deriving DecidableEq, Repr, Inhabited

/-- One instruction of a brain. -/
inductive Instruction where
  /-- Look at a cell and branch on a condition. -/
  | sense (gaze : Gaze) (ifTrue ifFalse : State) (condition : Condition)
  /-- Leave a marker on the ant's cell. -/
  | mark (marker : Marker) (next : State)
  /-- Clear a marker of the ant's own colony from its cell. -/
  | unmark (marker : Marker) (next : State)
  /-- Take up one piece of food. -/
  | pickUp (ifTaken ifNot : State)
  /-- Put down the piece of food that the ant carries, if it carries one. -/
  | drop (next : State)
  /-- Turn by a sixth of a circle. -/
  | turn (rotation : Rotation) (next : State)
  /-- Step into the cell ahead. -/
  | move (ifMoved ifBlocked : State)
  /-- Branch at random, to the first state once in `odds` times. -/
  | flip (odds : Nat) (ifZero ifOther : State)
deriving DecidableEq, Repr, Inhabited

/-! ### Written form -/

namespace Gaze

/-- All gazes. -/
def all : List Gaze := [.here, .ahead, .leftAhead, .rightAhead]

/-- The word for a gaze. -/
def word : Gaze → String
  | .here => "here"
  | .ahead => "ahead"
  | .leftAhead => "leftahead"
  | .rightAhead => "rightahead"

end Gaze

namespace Rotation

/-- Both rotations. -/
def all : List Rotation := [.left, .right]

/-- The word for a rotation. -/
def word : Rotation → String
  | .left => "left"
  | .right => "right"

end Rotation

namespace Marker

/-- All markers in ascending order. -/
def all : List Marker := [0, 1, 2, 3, 4, 5]

/-- The numeral of a marker, always a single digit. -/
def word (m : Marker) : String := Nat.repr m.val

end Marker

namespace Condition

/-- The conditions that are written as one word. -/
def plain : List Condition :=
  [.friend, .foe, .friendWithFood, .foeWithFood, .food, .rock, .foeMarker, .home, .foeHome]

/-- The word that begins the written form of a condition. -/
def word : Condition → String
  | .friend => "friend"
  | .foe => "foe"
  | .friendWithFood => "friendwithfood"
  | .foeWithFood => "foewithfood"
  | .food => "food"
  | .rock => "rock"
  | .marker _ => "marker"
  | .foeMarker => "foemarker"
  | .home => "home"
  | .foeHome => "foehome"

/-- The written form of a condition, word by word. -/
def words : Condition → List String
  | .marker m => ["marker", m.word]
  | c => [c.word]

/-- The written form of a condition. -/
def text (c : Condition) : String := " ".intercalate c.words

end Condition

namespace Instruction

/-- The written form of an instruction, word by word. -/
def words : Instruction → List String
  | .sense gaze ifTrue ifFalse condition =>
    ["sense", gaze.word, Nat.repr ifTrue, Nat.repr ifFalse] ++ condition.words
  | .mark marker next => ["mark", Marker.word marker, Nat.repr next]
  | .unmark marker next => ["unmark", Marker.word marker, Nat.repr next]
  | .pickUp ifTaken ifNot => ["pickup", Nat.repr ifTaken, Nat.repr ifNot]
  | .drop next => ["drop", Nat.repr next]
  | .turn rotation next => ["turn", rotation.word, Nat.repr next]
  | .move ifMoved ifBlocked => ["move", Nat.repr ifMoved, Nat.repr ifBlocked]
  | .flip odds ifZero ifOther => ["flip", Nat.repr odds, Nat.repr ifZero, Nat.repr ifOther]

/-- The written form of an instruction. -/
def text (i : Instruction) : String := " ".intercalate i.words

/-- The states an instruction may lead to, in the order in which they are written. -/
def successors : Instruction → List State
  | .sense _ ifTrue ifFalse _ => [ifTrue, ifFalse]
  | .mark _ next => [next]
  | .unmark _ next => [next]
  | .pickUp ifTaken ifNot => [ifTaken, ifNot]
  | .drop next => [next]
  | .turn _ next => [next]
  | .move ifMoved ifBlocked => [ifMoved, ifBlocked]
  | .flip _ ifZero ifOther => [ifZero, ifOther]

end Instruction

/-- The words of a gaze, a rotation, a marker and a one-word condition each name one of them. -/
theorem words_nodup :
    (Gaze.all.map Gaze.word).Nodup ∧ (Rotation.all.map Rotation.word).Nodup ∧
      (Marker.all.map Marker.word).Nodup ∧ (Condition.plain.map Condition.word).Nodup := by
  decide

end Formicary
